import NamedExports.Scan.Condition
import NamedExports.Scan.Returns

/-!
# What names hold

The first look at a program records what each name is known to hold: the keys of an object literal
and of later assignments to its properties, a required module, or a function that returns an object
literal.  One flat table serves the whole program; a later declaration of a name replaces an earlier
one.  Statements are followed into blocks, `try` blocks, the branches of an `if` that the mode
leaves open, and functions that are called where they are written.
-/

namespace NamedExports.Script

/-- What a name is known to hold. -/
structure Binding where
  /-- Keys of an object literal, and of properties assigned later. -/
  keys : List String
  /-- Specifiers of required modules spread into the object literal. -/
  reexports : List String
  /-- The specifier of the required module that the name holds. -/
  required : Option String
  /-- Keys of the object that the function returns. -/
  returns : List String
  deriving Repr, DecidableEq

namespace Binding

/-- A name of which nothing is known. -/
def unknown : Binding := ⟨[], [], none, []⟩

/-- What a name holds when it starts from a value. -/
def ofValue : Expr → Binding
  | .paren inner => ofValue inner
  | .object members =>
    { unknown with
      keys := staticKeys members
      reexports := (spreadOperands members).filterMap Expr.requiredSpecifier? }
  | .call callee args =>
    match (Expr.call callee args).requiredSpecifier? with
    | some specifier => { unknown with required := some specifier }
    | none =>
      if isInteropCall callee args then
        { unknown with required := (firstValue? args).bind Expr.requiredSpecifier? }
      else unknown
  | .function code => { unknown with returns := code.returnedKeys }
  | .arrow code => { unknown with returns := code.returnedKeys }
  | .arrowValue _ _ value => { unknown with returns := value.valueKeys }
  | .assign _ _ value => ofValue value
  | _ => unknown

end Binding

/-- What each name is known to hold. -/
structure Bindings where
  get? : String → Option Binding

namespace Bindings

/-- No name is known. -/
def empty : Bindings := ⟨fun _ => none⟩

/-- Records what a name holds, replacing what was known of it. -/
def set (b : Bindings) (name : String) (binding : Binding) : Bindings :=
  ⟨fun x => if x == name then some binding else b.get? x⟩

/-- Adds keys to a name, if it is known. -/
def addKeys (b : Bindings) (name : String) (keys : List String) : Bindings :=
  ⟨fun x =>
    if x == name then (b.get? x).map fun binding => { binding with keys := binding.keys ++ keys }
    else b.get? x⟩

/-- Records a declared variable that has an initial value. -/
def declare (b : Bindings) : Declarator → Bindings
  | .mk (.ident name) (some init) => b.set name (Binding.ofValue init)
  | _ => b

/-- Records an assignment to a property of a known name. -/
def assign (b : Bindings) (target : Expr) : Bindings :=
  match target.propertyTarget? with
  | some (object, key) =>
    match object.identName? with
    | some name => b.addKeys name [key]
    | none => b
  | none => b

/-- Records a call that defines properties of a known name: `Object.defineProperty(name, 'a', …)`
or `__export(name, { a: … })`. -/
def call (b : Bindings) (callee : Expr) (args : List Expr) : Bindings :=
  let defines := callee.isMemberOf "Object" "defineProperty"
  let exports := callee.calleeName? == some "__export"
  match (firstValue? args).bind Expr.identName? with
  | none => b
  | some name =>
    match secondValue? args with
    | some (.literal (.string key)) => if defines then b.addKeys name [key] else b
    | some (.object members) => if exports then b.addKeys name (staticKeys members) else b
    | _ => b

/-- Whether a member's name calls the function it belongs to. -/
def callsOwner (name : String) : Bool := name == "call" || name == "apply"

mutual

/-- Follows an expression that is evaluated for its effect. -/
def expr (mode : Mode) (b : Bindings) : Expr → Bindings
  | .paren inner => expr mode b inner
  | .call callee args => (invoked mode b callee).getD (b.call callee args)
  | .unary _ operand => negated mode b operand
  | .sequence items => exprs mode b items
  | .assign _ target value => expr mode (b.assign target) value
  | _ => b

/-- Follows the operand of a unary operator, as in `!function () { … }()`: only a function that is
called where it is written. -/
def negated (mode : Mode) (b : Bindings) : Expr → Bindings
  | .paren inner => negated mode b inner
  | .call callee _ => (invoked mode b callee).getD b
  | _ => b

/-- Follows the body of a function that is called where it is written, directly or with `.call` or
`.apply`. -/
def invoked (mode : Mode) (b : Bindings) : Expr → Option Bindings
  | .paren inner => invoked mode b inner
  | .member owner name => if callsOwner name then body mode b owner else none
  | .function (.mk _ _ _ _ statements) => some (stmts mode b statements)
  | .arrow (.mk _ _ _ _ statements) => some (stmts mode b statements)
  | _ => none

/-- Follows the body of a function. -/
def body (mode : Mode) (b : Bindings) : Expr → Option Bindings
  | .paren inner => body mode b inner
  | .function (.mk _ _ _ _ statements) => some (stmts mode b statements)
  | .arrow (.mk _ _ _ _ statements) => some (stmts mode b statements)
  | _ => none

/-- Follows expressions in order. -/
def exprs (mode : Mode) (b : Bindings) : List Expr → Bindings
  | [] => b
  | first :: rest => exprs mode (expr mode b first) rest

/-- Follows a statement. -/
def stmt (mode : Mode) (b : Bindings) : Stmt → Bindings
  | .declare _ items => items.foldl declare b
  | .function code =>
    match code.name with
    | some name => b.set name { Binding.unknown with returns := code.returnedKeys }
    | none => b
  | .class (some name) _ => b.set name Binding.unknown
  | .expr e => expr mode b e
  | .block statements => stmts mode b statements
  | .tryCatch statements _ _ _ => stmts mode b statements
  | .ifThen test yes none =>
    if test.holdsIn? mode == some false then b else stmt mode b yes
  | .ifThen test yes (some no) =>
    match test.holdsIn? mode with
    | some true => stmt mode b yes
    | some false => stmt mode b no
    | none => stmt mode (stmt mode b yes) no
  | _ => b

/-- Follows statements in order. -/
def stmts (mode : Mode) (b : Bindings) : List Stmt → Bindings
  | [] => b
  | first :: rest => stmts mode (stmt mode b first) rest

end

/-- What the names of a program hold. -/
def ofProgram (mode : Mode) (program : Program) : Bindings := stmts mode empty program

end Bindings

end NamedExports.Script
