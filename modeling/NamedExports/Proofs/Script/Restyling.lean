import NamedExports.Proofs.Script.Renaming

/-!
# Programs in another style

`StmtsRestyled R` relates programs that say the same in another style: identifiers stand for each
other as `R` relates their names, and the second program may have further parentheses around its
expressions.  No parentheses are put where they would not be mere parentheses: around the target of
an assignment or a declaration, around a key of an object literal, around an argument that is a
string or an object literal, and around a part of an optional chain.
-/

namespace NamedExports.Script

/-- Arguments that stand without parentheses: literals that a scan tells from parenthesized ones,
and spreads, which are no expressions. -/
def Expr.standsBare : Expr → Bool
  | .literal (.string _) => true
  | .object _ => true
  | .spread _ => true
  | _ => false

/-- Forms of expressions that differ in names alone. -/
inductive ExprForm.Restyled (R : String → String → Prop) : ExprForm → ExprForm → Prop where
  | same {form : ExprForm} (h : ∀ name, form ≠ .class name) : Restyled R form form
  | class {name name' : Option String} (h : Option.Rel R name name') :
      Restyled R (.class name) (.class name')

mutual

/-- An expression in another style, within further parentheses or not. -/
inductive Expr.Restyled (R : String → String → Prop) : Expr → Expr → Prop where
  | bare {e e' : Expr} (h : e.RestyledInside R e') : Expr.Restyled R e e'
  | wrapped {e e' : Expr} (h : e.Restyled R e') : Expr.Restyled R e (.paren e')

/-- An expression whose parts are in another style. -/
inductive Expr.RestyledInside (R : String → String → Prop) : Expr → Expr → Prop where
  | ident {name name' : String} (h : R name name') :
      Expr.RestyledInside R (.ident name) (.ident name')
  | literal {value : Literal} : Expr.RestyledInside R (.literal value) (.literal value)
  | object {members members' : List Member} (h : MembersRestyled R members members') :
      Expr.RestyledInside R (.object members) (.object members')
  | function {code code' : Code} (h : code.Restyled R code') :
      Expr.RestyledInside R (.function code) (.function code')
  | arrow {code code' : Code} (h : code.Restyled R code') :
      Expr.RestyledInside R (.arrow code) (.arrow code')
  | arrowValue {async : Bool} {params params' : List Expr} {value value' : Expr}
      (hparams : ExprsRestyled R params params') (hvalue : value.Restyled R value') :
      Expr.RestyledInside R (.arrowValue async params value) (.arrowValue async params' value')
  | unary {op : UnaryOp} {operand operand' : Expr} (h : operand.Restyled R operand') :
      Expr.RestyledInside R (.unary op operand) (.unary op operand')
  | binary {op : BinaryOp} {left left' right right' : Expr} (hleft : left.Restyled R left')
      (hright : right.Restyled R right') :
      Expr.RestyledInside R (.binary op left right) (.binary op left' right')
  | logical {op : LogicalOp} {left left' right right' : Expr} (hleft : left.Restyled R left')
      (hright : right.Restyled R right') :
      Expr.RestyledInside R (.logical op left right) (.logical op left' right')
  | conditional {test test' yes yes' no no' : Expr} (htest : test.Restyled R test')
      (hyes : yes.Restyled R yes') (hno : no.Restyled R no') :
      Expr.RestyledInside R (.conditional test yes no) (.conditional test' yes' no')
  | assign {op : AssignOp} {target target' value value' : Expr}
      (htarget : target.RestyledInside R target') (hvalue : value.Restyled R value') :
      Expr.RestyledInside R (.assign op target value) (.assign op target' value')
  | sequence {items items' : List Expr} (h : ExprsRestyled R items items') :
      Expr.RestyledInside R (.sequence items) (.sequence items')
  | member {object object' : Expr} {name : String} (h : object.Restyled R object') :
      Expr.RestyledInside R (.member object name) (.member object' name)
  | index {object object' key key' : Expr} (hobject : object.Restyled R object')
      (hkey : key.Restyled R key') : Expr.RestyledInside R (.index object key) (.index object' key')
  | call {callee callee' : Expr} {args args' : List Expr} (hcallee : callee.Restyled R callee')
      (hargs : ArgsRestyled R args args') :
      Expr.RestyledInside R (.call callee args) (.call callee' args')
  | spread {operand operand' : Expr} (h : operand.Restyled R operand') :
      Expr.RestyledInside R (.spread operand) (.spread operand')
  | paren {inner inner' : Expr} (h : inner.Restyled R inner') :
      Expr.RestyledInside R (.paren inner) (.paren inner')
  | chain {inner inner' : Expr} (h : inner.RestyledInside R inner') :
      Expr.RestyledInside R (.chain inner) (.chain inner')
  | other {form form' : ExprForm} {parts parts' : List Expr} (hform : form.Restyled R form')
      (hparts : ExprsRestyled R parts parts') :
      Expr.RestyledInside R (.other form parts) (.other form' parts')

/-- Expressions in another style. -/
inductive ExprsRestyled (R : String → String → Prop) : List Expr → List Expr → Prop where
  | nil : ExprsRestyled R [] []
  | cons {first first' : Expr} {rest rest' : List Expr} (hfirst : first.Restyled R first')
      (hrest : ExprsRestyled R rest rest') : ExprsRestyled R (first :: rest) (first' :: rest')

/-- Arguments in another style.  No parentheses are put around those that stand without. -/
inductive ArgsRestyled (R : String → String → Prop) : List Expr → List Expr → Prop where
  | nil : ArgsRestyled R [] []
  | cons {first first' : Expr} {rest rest' : List Expr} (hfirst : first.Restyled R first')
      (hbare : first'.standsBare = first.standsBare) (hrest : ArgsRestyled R rest rest') :
      ArgsRestyled R (first :: rest) (first' :: rest')

/-- The entries of an object literal in another style. -/
inductive MembersRestyled (R : String → String → Prop) : List Member → List Member → Prop where
  | nil : MembersRestyled R [] []
  | property {key key' value value' : Expr} {rest rest' : List Member}
      (hkey : key.RestyledInside R key') (hvalue : value.Restyled R value')
      (hrest : MembersRestyled R rest rest') :
      MembersRestyled R (.property key value :: rest) (.property key' value' :: rest')
  | spread {operand operand' : Expr} {rest rest' : List Member}
      (h : operand.Restyled R operand') (hrest : MembersRestyled R rest rest') :
      MembersRestyled R (.spread operand :: rest) (.spread operand' :: rest')

/-- A function in another style. -/
inductive Code.Restyled (R : String → String → Prop) : Code → Code → Prop where
  | mk {name name' : Option String} {async generator : Bool} {params params' : List Expr}
      {body body' : List Stmt} (hname : Option.Rel R name name')
      (hparams : ExprsRestyled R params params') (hbody : StmtsRestyled R body body') :
      Code.Restyled R (.mk name async generator params body)
        (.mk name' async generator params' body')

/-- Declared names and patterns in another style, with the values they start from. -/
inductive DeclaratorsRestyled (R : String → String → Prop) :
    List Declarator → List Declarator → Prop where
  | nil : DeclaratorsRestyled R [] []
  | plain {target target' : Expr} {rest rest' : List Declarator}
      (htarget : target.RestyledInside R target') (hrest : DeclaratorsRestyled R rest rest') :
      DeclaratorsRestyled R (.mk target none :: rest) (.mk target' none :: rest')
  | init {target target' init init' : Expr} {rest rest' : List Declarator}
      (htarget : target.RestyledInside R target') (hinit : init.Restyled R init')
      (hrest : DeclaratorsRestyled R rest rest') :
      DeclaratorsRestyled R (.mk target (some init) :: rest) (.mk target' (some init') :: rest')

/-- A statement in another style. -/
inductive Stmt.Restyled (R : String → String → Prop) : Stmt → Stmt → Prop where
  | expr {e e' : Expr} (h : e.Restyled R e') : Stmt.Restyled R (.expr e) (.expr e')
  | declare {kind : DeclKind} {items items' : List Declarator}
      (h : DeclaratorsRestyled R items items') :
      Stmt.Restyled R (.declare kind items) (.declare kind items')
  | function {code code' : Code} (h : code.Restyled R code') :
      Stmt.Restyled R (.function code) (.function code')
  | class {name name' : Option String} {parts parts' : List Expr} (hname : Option.Rel R name name')
      (hparts : ExprsRestyled R parts parts') :
      Stmt.Restyled R (.class name parts) (.class name' parts')
  | block {body body' : List Stmt} (h : StmtsRestyled R body body') :
      Stmt.Restyled R (.block body) (.block body')
  | ifThen {test test' : Expr} {yes yes' : Stmt} (htest : test.Restyled R test')
      (hyes : yes.Restyled R yes') :
      Stmt.Restyled R (.ifThen test yes none) (.ifThen test' yes' none)
  | ifElse {test test' : Expr} {yes yes' no no' : Stmt} (htest : test.Restyled R test')
      (hyes : yes.Restyled R yes') (hno : no.Restyled R no') :
      Stmt.Restyled R (.ifThen test yes (some no)) (.ifThen test' yes' (some no'))
  | tryFinally {body body' handler handler' finalizer finalizer' : List Stmt}
      (hbody : StmtsRestyled R body body') (hhandler : StmtsRestyled R handler handler')
      (hfinalizer : StmtsRestyled R finalizer finalizer') :
      Stmt.Restyled R (.tryCatch body none handler finalizer)
        (.tryCatch body' none handler' finalizer')
  | tryCatch {body body' handler handler' finalizer finalizer' : List Stmt} {param param' : Expr}
      (hbody : StmtsRestyled R body body') (hparam : param.RestyledInside R param')
      (hhandler : StmtsRestyled R handler handler')
      (hfinalizer : StmtsRestyled R finalizer finalizer') :
      Stmt.Restyled R (.tryCatch body (some param) handler finalizer)
        (.tryCatch body' (some param') handler' finalizer')
  | returnNothing : Stmt.Restyled R (.return none) (.return none)
  | return {value value' : Expr} (h : value.Restyled R value') :
      Stmt.Restyled R (.return (some value)) (.return (some value'))
  | other {form : StmtForm} {exprs exprs' : List Expr} {body body' : List Stmt}
      (hexprs : ExprsRestyled R exprs exprs') (hbody : StmtsRestyled R body body') :
      Stmt.Restyled R (.other form exprs body) (.other form exprs' body')

/-- Statements in another style. -/
inductive StmtsRestyled (R : String → String → Prop) : List Stmt → List Stmt → Prop where
  | nil : StmtsRestyled R [] []
  | cons {first first' : Stmt} {rest rest' : List Stmt} (hfirst : first.Restyled R first')
      (hrest : StmtsRestyled R rest rest') : StmtsRestyled R (first :: rest) (first' :: rest')

end

variable {R : String → String → Prop}

namespace Expr

mutual

/-- Without its parentheses a restyled expression is restyled inside. -/
theorem Restyled.withoutParens : ∀ {e e' : Expr}, e.Restyled R e' →
    e.withoutParens.RestyledInside R e'.withoutParens
  | _, _, .bare h => h.withoutParens
  | _, _, .wrapped h => h.withoutParens

/-- The same for an expression that stands in parentheses already. -/
theorem RestyledInside.withoutParens : ∀ {e e' : Expr}, e.RestyledInside R e' →
    e.withoutParens.RestyledInside R e'.withoutParens
  | _, _, .paren h => h.withoutParens
  | _, _, .ident h => .ident h
  | _, _, .literal => .literal
  | _, _, .object h => .object h
  | _, _, .function h => .function h
  | _, _, .arrow h => .arrow h
  | _, _, .arrowValue h h' => .arrowValue h h'
  | _, _, .unary h => .unary h
  | _, _, .binary h h' => .binary h h'
  | _, _, .logical h h' => .logical h h'
  | _, _, .conditional h h' h'' => .conditional h h' h''
  | _, _, .assign h h' => .assign h h'
  | _, _, .sequence h => .sequence h
  | _, _, .member h => .member h
  | _, _, .index h h' => .index h h'
  | _, _, .call h h' => .call h h'
  | _, _, .spread h => .spread h
  | _, _, .chain h => .chain h
  | _, _, .other h h' => .other h h'

end

end Expr

/-! ## Renaming

A program whose identifiers are renamed is the same program in another style.
-/

variable (f : String → String)

/-- A name that is renamed is related to the new one. -/
theorem optionRel_map (name : Option String) :
    Option.Rel (fun name name' => f name = name') name (name.map f) := by
  cases name with
  | some name => exact .some rfl
  | none => exact .none

/-- The form of a renamed expression is the renamed form. -/
theorem ExprForm.restyled_renamed (form : ExprForm) :
    form.Restyled (fun name name' => f name = name') (form.renamed f) := by
  cases form with
  | «class» name => exact .class (optionRel_map f name)
  | _ => exact .same nofun

/-- Renaming keeps which arguments stand without parentheses. -/
theorem Expr.standsBare_renamed (e : Expr) : (e.renamed f).standsBare = e.standsBare := by
  cases e <;> rfl

mutual

/-- Renaming an expression restyles it, with each name related to its new one. This is one induction
over the program, together with the lemmas below. -/
theorem Expr.restyledInside_renamed : ∀ e : Expr,
    e.RestyledInside (fun name name' => f name = name') (e.renamed f)
  | .ident _ => .ident rfl
  | .literal _ => .literal
  | .object members => .object (membersRestyled_renamed members)
  | .function code => .function (code.restyled_renamed)
  | .arrow code => .arrow (code.restyled_renamed)
  | .arrowValue _ params value =>
    .arrowValue (exprsRestyled_renamed params) (.bare value.restyledInside_renamed)
  | .unary _ operand => .unary (.bare operand.restyledInside_renamed)
  | .binary _ left right =>
    .binary (.bare left.restyledInside_renamed) (.bare right.restyledInside_renamed)
  | .logical _ left right =>
    .logical (.bare left.restyledInside_renamed) (.bare right.restyledInside_renamed)
  | .conditional test yes no =>
    .conditional (.bare test.restyledInside_renamed) (.bare yes.restyledInside_renamed)
      (.bare no.restyledInside_renamed)
  | .assign _ target value =>
    .assign target.restyledInside_renamed (.bare value.restyledInside_renamed)
  | .sequence items => .sequence (exprsRestyled_renamed items)
  | .member object _ => .member (.bare object.restyledInside_renamed)
  | .index object key =>
    .index (.bare object.restyledInside_renamed) (.bare key.restyledInside_renamed)
  | .call callee args => .call (.bare callee.restyledInside_renamed) (argsRestyled_renamed args)
  | .spread operand => .spread (.bare operand.restyledInside_renamed)
  | .paren inner => .paren (.bare inner.restyledInside_renamed)
  | .chain inner => .chain inner.restyledInside_renamed
  | .other form parts => .other (form.restyled_renamed f) (exprsRestyled_renamed parts)

/-- The same for several expressions. -/
theorem exprsRestyled_renamed : ∀ items : List Expr,
    ExprsRestyled (fun name name' => f name = name') items (exprsRenamed f items)
  | [] => .nil
  | first :: rest => .cons (.bare first.restyledInside_renamed) (exprsRestyled_renamed rest)

/-- The same for arguments. -/
theorem argsRestyled_renamed : ∀ args : List Expr,
    ArgsRestyled (fun name name' => f name = name') args (exprsRenamed f args)
  | [] => .nil
  | first :: rest =>
    .cons (.bare first.restyledInside_renamed) (first.standsBare_renamed f)
      (argsRestyled_renamed rest)

/-- The same for the members of object literals. -/
theorem membersRestyled_renamed : ∀ members : List Member,
    MembersRestyled (fun name name' => f name = name') members (membersRenamed f members)
  | [] => .nil
  | .property key value :: rest =>
    .property key.restyledInside_renamed (.bare value.restyledInside_renamed)
      (membersRestyled_renamed rest)
  | .spread operand :: rest =>
    .spread (.bare operand.restyledInside_renamed) (membersRestyled_renamed rest)

/-- The same for functions. -/
theorem Code.restyled_renamed : ∀ code : Code,
    code.Restyled (fun name name' => f name = name') (code.renamed f)
  | .mk name _ _ params body =>
    .mk (optionRel_map f name) (exprsRestyled_renamed params) (stmtsRestyled_renamed body)

/-- The same for declarators. -/
theorem declaratorsRestyled_renamed : ∀ items : List Declarator,
    DeclaratorsRestyled (fun name name' => f name = name') items (declaratorsRenamed f items)
  | [] => .nil
  | .mk target none :: rest =>
    .plain target.restyledInside_renamed (declaratorsRestyled_renamed rest)
  | .mk target (some init) :: rest =>
    .init target.restyledInside_renamed (.bare init.restyledInside_renamed)
      (declaratorsRestyled_renamed rest)

/-- The same for statements. -/
theorem Stmt.restyled_renamed : ∀ s : Stmt,
    s.Restyled (fun name name' => f name = name') (s.renamed f)
  | .expr value => .expr (.bare value.restyledInside_renamed)
  | .declare _ items => .declare (declaratorsRestyled_renamed items)
  | .function code => .function code.restyled_renamed
  | .class name parts => .class (optionRel_map f name) (exprsRestyled_renamed parts)
  | .block body => .block (stmtsRestyled_renamed body)
  | .ifThen test yes none => .ifThen (.bare test.restyledInside_renamed) yes.restyled_renamed
  | .ifThen test yes (some no) =>
    .ifElse (.bare test.restyledInside_renamed) yes.restyled_renamed no.restyled_renamed
  | .tryCatch body none handler finalizer =>
    .tryFinally (stmtsRestyled_renamed body) (stmtsRestyled_renamed handler)
      (stmtsRestyled_renamed finalizer)
  | .tryCatch body (some param) handler finalizer =>
    .tryCatch (stmtsRestyled_renamed body) param.restyledInside_renamed
      (stmtsRestyled_renamed handler) (stmtsRestyled_renamed finalizer)
  | .return none => .returnNothing
  | .return (some value) => .return (.bare value.restyledInside_renamed)
  | .other _ exprs body => .other (exprsRestyled_renamed exprs) (stmtsRestyled_renamed body)

/-- The same for several statements. -/
theorem stmtsRestyled_renamed : ∀ body : List Stmt,
    StmtsRestyled (fun name name' => f name = name') body (stmtsRenamed f body)
  | [] => .nil
  | first :: rest => .cons first.restyled_renamed (stmtsRestyled_renamed rest)

end

end NamedExports.Script
