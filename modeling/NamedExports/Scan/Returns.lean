import NamedExports.Scan.Shape

/-!
# What a factory returns

`Code.returnedKeys` lists the keys of the object literals a function's body returns, directly or
through a local variable.  Blocks and both branches of every `if` are followed in source order;
other compound statements and nested functions are not entered.
-/

namespace NamedExports.Script

/-- What the statements of a body have come to: the keys of its local object literals, and the keys
returned so far. -/
structure Returns where
  locals : String → Option (List String)
  keys : List String

namespace Returns

/-- Before the first statement. -/
def start : Returns := ⟨fun _ => none, []⟩

/-- Remembers the keys of a local object literal. -/
def declare (r : Returns) (name : String) (keys : List String) : Returns :=
  { r with locals := fun x => if x == name then some keys else r.locals x }

/-- Adds a key to a local object literal, if the name holds one. -/
def addKey (r : Returns) (name key : String) : Returns :=
  { r with locals := fun x => if x == name then (r.locals x).map (· ++ [key]) else r.locals x }

/-- Adds returned keys. -/
def give (r : Returns) (keys : List String) : Returns := { r with keys := r.keys ++ keys }

/-- Follows a declared variable. -/
def declarator (r : Returns) : Declarator → Returns
  | .mk (.ident name) (some init) =>
    match init.withoutParens with
    | .object members => r.declare name (staticKeys members)
    | _ => r
  | _ => r

/-- Follows an expression statement. -/
def effect (r : Returns) (e : Expr) : Returns :=
  match e.withoutParens with
  | .assign _ target _ =>
    match target.propertyTarget? with
    | some (object, key) =>
      match object.identName? with
      | some name => r.addKey name key
      | none => r
    | none => r
  | _ => r

/-- Follows a returned value. -/
def value (r : Returns) (e : Expr) : Returns :=
  match e.withoutParens with
  | .object members => r.give (staticKeys members)
  | .ident name => r.give ((r.locals name).getD [])
  | _ => r

mutual

/-- Follows a statement. -/
def statement (r : Returns) : Stmt → Returns
  | .declare _ items => items.foldl declarator r
  | .expr e => r.effect e
  | .return (some e) => r.value e
  | .block body => statements r body
  | .ifThen _ yes none => statement r yes
  | .ifThen _ yes (some no) => statement (statement r yes) no
  | _ => r

/-- Follows statements in order. -/
def statements (r : Returns) : List Stmt → Returns
  | [] => r
  | first :: rest => statements (statement r first) rest

end

end Returns

/-- The keys of the object literals a function's body returns. -/
def Code.returnedKeys (code : Code) : List String := (Returns.start.statements code.body).keys

/-- The keys of the object literal that an expression is, as the value of an arrow function. -/
def Expr.valueKeys (e : Expr) : List String :=
  match e.withoutParens with
  | .object members => staticKeys members
  | _ => []

end NamedExports.Script
