import NamedExports.Script.Pattern

/-!
# Telling shapes in a program

Tests on expressions for the ways in which compilers and people write exports: `exports` and
`module.exports`, calls of `require`, calls of well-known helpers, property keys that are known
without running the program, and targets of assignments to properties.  Parentheses around an
expression never matter to a test, unless it says so.
-/

namespace NamedExports.Script

/-! ## Property keys -/

/-- The text a key denotes when the program need not run to know it. -/
def Expr.staticName? : Expr → Option String
  | .literal (.string text) => some text
  | .literal (.number text) => some text
  | .literal (.bigint text) => some text
  | .literal (.template text) => some text
  | .literal .null => some "null"
  | _ => none

/-- The static keys of an object literal, in order. -/
def staticKeys (members : List Member) : List String :=
  members.filterMap fun
    | .property key _ => key.staticName?
    | .spread _ => none

/-- The operands of the spread entries of an object literal, in order. -/
def spreadOperands (members : List Member) : List Expr :=
  members.filterMap fun
    | .property _ _ => none
    | .spread operand => some operand

/-! ## Names and members -/

/-- The name an expression is. -/
def Expr.identName? (e : Expr) : Option String :=
  match e.withoutParens with
  | .ident name => some name
  | _ => none

/-- Whether an expression is `object.property`, for two given names. -/
def Expr.isMemberOf (e : Expr) (object property : String) : Bool :=
  match e.withoutParens with
  | .member base name => name == property && base.identName? == some object
  | _ => false

/-- Whether an expression is `module.exports`. -/
def Expr.isModuleExports (e : Expr) : Bool := e.isMemberOf "module" "exports"

/-- Whether an expression is `exports` or `module.exports`. -/
def Expr.isExportsObject (e : Expr) : Bool :=
  e.identName? == some "exports" || e.isModuleExports

/-- Whether an expression is `process.env.NODE_ENV`. -/
def Expr.isNodeEnv (e : Expr) : Bool :=
  match e.withoutParens with
  | .member base name => name == "NODE_ENV" && base.isMemberOf "process" "env"
  | _ => false

/-- Whether an assignment's target is `module.exports` itself. -/
def Expr.isModuleExportsTarget : Expr → Bool
  | .member base name => name == "exports" && base.identName? == some "module"
  | _ => false

/-- The object and the key of an assignment's target, when it is a property with a static key:
`object.key` or `object['key']`. -/
def Expr.propertyTarget? : Expr → Option (Expr × String)
  | .member base name => some (base, name)
  | .index base key =>
    match key.withoutParens with
    | .literal (.string text) => some (base, text)
    | _ => none
  | _ => none

/-! ## Calls -/

/-- An argument's value, unless the argument is a spread. -/
def Expr.asValue? : Expr → Option Expr
  | .spread _ => none
  | e => some e

/-- The values among call arguments. -/
def argumentValues (args : List Expr) : List Expr := args.filterMap Expr.asValue?

/-- The value of the first argument. -/
def firstValue? (args : List Expr) : Option Expr := args.head?.bind Expr.asValue?

/-- The value of the second argument. -/
def secondValue? (args : List Expr) : Option Expr := (args.drop 1).head?.bind Expr.asValue?

/-- The specifier of a call of `require` with exactly one argument, a plain string literal. -/
def Expr.requiredSpecifier? (e : Expr) : Option String :=
  match e.withoutParens with
  | .call callee [.literal (.string specifier)] =>
    if callee.identName? == some "require" then some specifier else none
  | _ => none

mutual

/-- The name of a called helper: `f` in `f(…)`, `lib.f(…)` and `(0, lib.f)(…)`. -/
def Expr.calleeName? : Expr → Option String
  | .ident name => some name
  | .member _ name => some name
  | .paren inner => inner.calleeName?
  | .sequence items => lastCalleeName? items
  | _ => none

/-- The name of a called helper that the last of some expressions is. -/
def lastCalleeName? : List Expr → Option String
  | [] => none
  | [last] => last.calleeName?
  | _ :: rest => lastCalleeName? rest

end

/-- Whether a helper's name is one of those that wrap a required module for interoperation. -/
def isInteropHelper (name : String) : Bool :=
  "_interopRequire".toList.isPrefixOf name.toList || name == "__importStar" ||
    name == "__importDefault" || name == "__toESM"

/-- Whether a call wraps a required module for interoperation. -/
def isInteropCall (callee : Expr) (args : List Expr) : Bool :=
  match callee.calleeName? with
  | some name => isInteropHelper name && (firstValue? args).isSome
  | none => false

/-- Helpers that copy the exports of a required module. -/
def reexportHelpers : List String := ["__exportStar", "__export", "__reExport"]

end NamedExports.Script
