import NamedExports.Scan.Bindings
import NamedExports.Scan.Findings

/-!
# Finding exports

The second look at a program collects the names assigned onto `exports` and `module.exports` and the
modules exported wholesale, seeing through names by what they are known to hold.  When the module is
required in order to be called, only the value given to `module.exports` counts, and what counts of
it is what calling it returns.
-/

namespace NamedExports.Script

/-- What a scan is made for and what it knows. -/
structure Context where
  mode : Mode
  /-- Whether the module is required in order to be called. -/
  called : Bool
  bindings : Bindings

namespace Context

/-! ## Values -/

/-- What a name is known to hold. -/
def lookup (c : Context) (name : String) : Option Binding := c.bindings.get? name

mutual

/-- The specifier of the module that an expression requires, directly, through a name, or wrapped
for interoperation. -/
def requiredBy? (c : Context) : Expr → Option String
  | .paren inner => requiredBy? c inner
  | .ident name => (c.lookup name).bind Binding.required
  | .call callee args =>
    match (Expr.call callee args).requiredSpecifier? with
    | some specifier => some specifier
    | none => if isInteropCall callee args then firstRequiredBy? c args else none
  | _ => none

/-- The specifier of the module that the first of some arguments requires. -/
def firstRequiredBy? (c : Context) : List Expr → Option String
  | [] => none
  | first :: _ => requiredBy? c first

end

/-- What copying the properties of a value onto the exports exports. -/
def spread (c : Context) (source : Expr) : Findings :=
  match c.requiredBy? source with
  | some specifier => .reexport specifier false
  | none =>
    match source.identName?.bind c.lookup with
    | some binding =>
      .names binding.keys ++ .join (binding.reexports.map (Findings.reexport · false))
    | none => ∅

/-- The keys of the object that calling a factory returns. -/
def factoryKeys? (c : Context) (callee : Expr) : Option (List String) :=
  match callee.withoutParens with
  | .function code => some code.returnedKeys
  | .arrow code => some code.returnedKeys
  | .arrowValue _ _ value => some value.valueKeys
  | .ident name => (c.lookup name).map Binding.returns
  | _ => none

/-- What a name exports as the value of `module.exports`. -/
def named (c : Context) (called : Bool) (name : String) : Findings :=
  match c.lookup name with
  | none => ∅
  | some binding =>
    match binding.required with
    | some specifier => .reexport specifier called
    | none =>
      if called then .names binding.returns
      else .names binding.keys ++ .join (binding.reexports.map (Findings.reexport · false))

mutual

/-- What a value exports when it is given to `module.exports`, or when it is merged into it. -/
def value (c : Context) (called : Bool) : Expr → Findings
  | .paren inner => value c called inner
  | .object members =>
    if called then ∅
    else .names (staticKeys members) ++ .join ((spreadOperands members).map c.spread)
  | .call callee args =>
    match (Expr.call callee args).requiredSpecifier?, callee.requiredSpecifier? with
    | some specifier, _ => .reexport specifier called
    | none, some specifier => .reexport specifier true
    | none, none =>
      if callee.isMemberOf "Object" "assign" then values c false args
      else if callee.calleeName? == some "__toCommonJS" || isInteropCall callee args then
        firstValue c called args
      else if called then ∅
      else .names ((c.factoryKeys? callee).getD [])
  | .ident name => c.named called name
  | .function code => if called then .names code.returnedKeys else ∅
  | .arrow code => if called then .names code.returnedKeys else ∅
  | .arrowValue _ _ result => if called then .names result.valueKeys else ∅
  | .conditional test yes no =>
    match test.holdsIn? c.mode with
    | some true => value c called yes
    | some false => value c called no
    | none => value c called yes ++ value c called no
  | .assign _ _ right => value c called right
  | _ => ∅

/-- What several values export together. -/
def values (c : Context) (called : Bool) : List Expr → Findings
  | [] => ∅
  | first :: rest => value c called first ++ values c called rest

/-- What the first of some arguments exports. -/
def firstValue (c : Context) (called : Bool) : List Expr → Findings
  | [] => ∅
  | first :: _ => value c called first

end

/-! ## Assignments and calls -/

/-- What one assignment exports, apart from an assignment that is its value. -/
def assign (c : Context) (target right : Expr) : Findings :=
  if target.isModuleExportsTarget then c.value c.called right
  else
    match target.propertyTarget? with
    | some (object, key) =>
      if !c.called && object.isExportsObject then .names [key] else ∅
    | none => ∅

/-- What a chain of assignments exports. -/
def chain (c : Context) : Expr → Findings
  | .paren inner => chain c inner
  | .assign _ target right => c.assign target right ++ chain c right
  | _ => ∅

/-- What a call of a helper that copies the exports of required modules exports. -/
def helperCall (c : Context) (args : List Expr) : Findings :=
  .join ((argumentValues args).map fun arg =>
      match c.requiredBy? arg with
      | some specifier => .reexport specifier false
      | none => ∅) ++
    match firstValue? args, secondValue? args with
    | some target, some (.object members) =>
      if target.isExportsObject then .names (staticKeys members) else ∅
    | _, _ => ∅

/-- The expression whose keys a call iterates over: `Object.keys(source).forEach(…)`. -/
def iteratedKeys? (callee : Expr) : Option Expr :=
  match callee.withoutParens with
  | .member owner "forEach" =>
    match owner.withoutParens with
    | .call keys args => if keys.isMemberOf "Object" "keys" then firstValue? args else none
    | _ => none
  | _ => none

/-- What a call exports. -/
def call (c : Context) (callee : Expr) (args : List Expr) : Findings :=
  if callee.isMemberOf "Object" "defineProperty" then
    match firstValue? args, secondValue? args with
    | some target, some (.literal (.string key)) =>
      if !c.called && target.isExportsObject then .names [key] else ∅
    | _, _ => ∅
  else if callee.isMemberOf "Object" "assign" then
    if (firstValue? args).any Expr.isExportsObject && !c.called then c.values false (args.drop 1)
    else ∅
  else if callee.calleeName?.any reexportHelpers.contains then c.helperCall args
  else
    match iteratedKeys? callee with
    | some source => c.spread source
    | none => ∅

/-! ## Statements and expressions -/

/-- Whether a logical operator skips its right operand in the mode. -/
def skipsRight (c : Context) (op : LogicalOp) (left : Expr) : Bool :=
  match op, left.holdsIn? c.mode with
  | .and, some false => true
  | .or, some true => true
  | _, _ => false

mutual

/-- What an expression exports when it is evaluated for its effect. -/
def expr (c : Context) : Expr → Findings
  | .paren inner => expr c inner
  | .assign _ target right => c.assign target right ++ c.chain right
  | .call callee args =>
    match invoked c callee with
    | some found => found
    | none => c.call callee args
  | .sequence items => exprs c items
  | .conditional test yes no =>
    match test.holdsIn? c.mode with
    | some true => expr c yes
    | some false => expr c no
    | none => expr c yes ++ expr c no
  | .logical op left right => if c.skipsRight op left then ∅ else expr c right
  | .unary _ operand => expr c operand
  | _ => ∅

/-- What the body of a function exports that is called where it is written, directly or with `.call`
or `.apply`. -/
def invoked (c : Context) : Expr → Option Findings
  | .paren inner => invoked c inner
  | .member owner name => if Bindings.callsOwner name then body c owner else none
  | .function (.mk _ _ _ _ statements) => some (stmts c statements)
  | .arrow (.mk _ _ _ _ statements) => some (stmts c statements)
  | _ => none

/-- What the body of a function exports. -/
def body (c : Context) : Expr → Option Findings
  | .paren inner => body c inner
  | .function (.mk _ _ _ _ statements) => some (stmts c statements)
  | .arrow (.mk _ _ _ _ statements) => some (stmts c statements)
  | _ => none

/-- What expressions export in order. -/
def exprs (c : Context) : List Expr → Findings
  | [] => ∅
  | first :: rest => expr c first ++ exprs c rest

/-- What the initial values of declared variables export. -/
def declarators (c : Context) : List Declarator → Findings
  | [] => ∅
  | .mk _ none :: rest => declarators c rest
  | .mk _ (some init) :: rest => expr c init ++ declarators c rest

/-- What a statement exports. -/
def stmt (c : Context) : Stmt → Findings
  | .expr e => expr c e
  | .declare _ items => declarators c items
  | .block statements => stmts c statements
  | .tryCatch statements _ _ _ => stmts c statements
  | .ifThen test yes none => if test.holdsIn? c.mode == some false then ∅ else stmt c yes
  | .ifThen test yes (some no) =>
    match test.holdsIn? c.mode with
    | some true => stmt c yes
    | some false => stmt c no
    | none => stmt c yes ++ stmt c no
  | _ => ∅

/-- What statements export in order. -/
def stmts (c : Context) : List Stmt → Findings
  | [] => ∅
  | first :: rest => stmt c first ++ stmts c rest

end

end Context

/-- What a program exports in a mode, required in order to be called or not. -/
def Program.findings (program : Program) (mode : Mode) (called : Bool) : Findings :=
  Context.stmts ⟨mode, called, Bindings.ofProgram mode program⟩ program

end NamedExports.Script
