import NamedExports.Script.Syntax

/-!
# Expressions read as targets

A destructuring pattern is first read as an expression, and only a later `=`, `of`, `in` or `=>`
tells that it is one.  `Expr.asTarget?` says whether an expression can be assigned to and
`Expr.asBinding?` whether it can be declared.  Both answer the number of shorthand initializers in
it, as in `{ a = 1 }`, which are an error anywhere but in a pattern.
-/

namespace NamedExports.Script

/-- An expression without the parentheses around it. -/
def Expr.withoutParens : Expr → Expr
  | .paren inner => inner.withoutParens
  | e => e

/-- Whether an expression is a name, a member access or a parenthesized one of these. -/
def Expr.isSimpleTarget : Expr → Bool
  | .ident _ => true
  | .member _ _ => true
  | .index _ _ => true
  | .other (.privateMember _) _ => true
  | .paren inner => inner.isSimpleTarget
  | _ => false

mutual

/-- The number of shorthand initializers in an expression that can be assigned to. -/
def Expr.asTarget? : Expr → Option Nat
  | .object members => membersAsTargets? members
  | .other .array items => itemsAsTargets? items
  | .other .defaulted (target :: _) => target.asTarget?.map (· + 1)
  | .assign .plain target _ => target.asTarget?
  | e => if e.isSimpleTarget then some 0 else none

/-- The shorthand initializers in the elements of an array pattern.  A rest element is the last. -/
def itemsAsTargets? : List Expr → Option Nat
  | [] => some 0
  | .other .hole _ :: rest => itemsAsTargets? rest
  | [.spread (.assign _ _ _)] => none
  | [.spread target] => target.asTarget?
  | item :: rest => do
    let a ← item.asTarget?
    let b ← itemsAsTargets? rest
    pure (a + b)

/-- The shorthand initializers in the entries of an object pattern.  A rest entry is the last. -/
def membersAsTargets? : List Member → Option Nat
  | [] => some 0
  | [.spread target] => if target.isSimpleTarget then some 0 else none
  | .spread _ :: _ => none
  | .property _ value :: rest => do
    let a ← value.asTarget?
    let b ← membersAsTargets? rest
    pure (a + b)

end

mutual

/-- The number of shorthand initializers in an expression that can be declared. -/
def Expr.asBinding? : Expr → Option Nat
  | .ident _ => some 0
  | .object members => membersAsBindings? members
  | .other .array items => itemsAsBindings? items
  | .other .defaulted (target :: _) => target.asBinding?.map (· + 1)
  | .assign .plain target _ => target.asBinding?
  | _ => none

/-- The shorthand initializers in the elements of a declared array pattern. -/
def itemsAsBindings? : List Expr → Option Nat
  | [] => some 0
  | .other .hole _ :: rest => itemsAsBindings? rest
  | [.spread (.assign _ _ _)] => none
  | [.spread target] => target.asBinding?
  | item :: rest => do
    let a ← item.asBinding?
    let b ← itemsAsBindings? rest
    pure (a + b)

/-- The shorthand initializers in the entries of a declared object pattern. -/
def membersAsBindings? : List Member → Option Nat
  | [] => some 0
  | [.spread (.ident _)] => some 0
  | .spread _ :: _ => none
  | .property _ value :: rest => do
    let a ← value.asBinding?
    let b ← membersAsBindings? rest
    pure (a + b)

end

mutual

/-- The names a target declares, in source order. -/
def Expr.boundNames : Expr → List String
  | .ident name => [name]
  | .object members => membersBoundNames members
  | .other .array items => itemsBoundNames items
  | .other .defaulted (target :: _) => target.boundNames
  | .assign _ target _ => target.boundNames
  | .spread target => target.boundNames
  | _ => []

/-- The names the elements of an array pattern declare. -/
def itemsBoundNames : List Expr → List String
  | [] => []
  | item :: rest => item.boundNames ++ itemsBoundNames rest

/-- The names the entries of an object pattern declare. -/
def membersBoundNames : List Member → List String
  | [] => []
  | .spread target :: rest => target.boundNames ++ membersBoundNames rest
  | .property _ value :: rest => value.boundNames ++ membersBoundNames rest

end

end NamedExports.Script
