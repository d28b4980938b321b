import NamedExports.Proofs.Scan.Condition
import NamedExports.Proofs.Scan.Shape

/-!
# Renaming identifiers

`stmtsRenamed f` writes `f name` for every identifier `name` of a program, where it is declared and
where it is used.  Names of properties, keys and texts are no identifiers and stay.  What the tests
on shapes tell of an expression is what they tell of the renamed one, as far as the names that they
look for are kept apart.
-/

namespace NamedExports.Script

/-- A renaming keeps a name: what is called so was called so before, and nothing else is. -/
def KeptBy (f : String → String) (special : String) : Prop :=
  ∀ name, f name = special ↔ name = special

/-- The name of a class renamed. -/
def ExprForm.renamed (f : String → String) : ExprForm → ExprForm
  | .class name => .class (name.map f)
  | form => form

mutual

/-- An expression with its identifiers renamed. -/
def Expr.renamed (f : String → String) : Expr → Expr
  | .ident name => .ident (f name)
  | .literal value => .literal value
  | .object members => .object (membersRenamed f members)
  | .function code => .function (code.renamed f)
  | .arrow code => .arrow (code.renamed f)
  | .arrowValue async params value => .arrowValue async (exprsRenamed f params) (value.renamed f)
  | .unary op operand => .unary op (operand.renamed f)
  | .binary op left right => .binary op (left.renamed f) (right.renamed f)
  | .logical op left right => .logical op (left.renamed f) (right.renamed f)
  | .conditional test yes no => .conditional (test.renamed f) (yes.renamed f) (no.renamed f)
  | .assign op target value => .assign op (target.renamed f) (value.renamed f)
  | .sequence items => .sequence (exprsRenamed f items)
  | .member object name => .member (object.renamed f) name
  | .index object key => .index (object.renamed f) (key.renamed f)
  | .call callee args => .call (callee.renamed f) (exprsRenamed f args)
  | .spread operand => .spread (operand.renamed f)
  | .paren inner => .paren (inner.renamed f)
  | .chain inner => .chain (inner.renamed f)
  | .other form parts => .other (form.renamed f) (exprsRenamed f parts)

/-- Expressions with their identifiers renamed. -/
def exprsRenamed (f : String → String) : List Expr → List Expr
  | [] => []
  | first :: rest => first.renamed f :: exprsRenamed f rest

/-- The entries of an object literal with their identifiers renamed. -/
def membersRenamed (f : String → String) : List Member → List Member
  | [] => []
  | .property key value :: rest =>
    .property (key.renamed f) (value.renamed f) :: membersRenamed f rest
  | .spread operand :: rest => .spread (operand.renamed f) :: membersRenamed f rest

/-- A function with its identifiers renamed. -/
def Code.renamed (f : String → String) : Code → Code
  | .mk name async generator params body =>
    .mk (name.map f) async generator (exprsRenamed f params) (stmtsRenamed f body)

/-- Declared names and patterns renamed, with what is in the values they start from. -/
def declaratorsRenamed (f : String → String) : List Declarator → List Declarator
  | [] => []
  | .mk target none :: rest => .mk (target.renamed f) none :: declaratorsRenamed f rest
  | .mk target (some init) :: rest =>
    .mk (target.renamed f) (some (init.renamed f)) :: declaratorsRenamed f rest

/-- A statement with its identifiers renamed. -/
def Stmt.renamed (f : String → String) : Stmt → Stmt
  | .expr value => .expr (value.renamed f)
  | .declare kind items => .declare kind (declaratorsRenamed f items)
  | .function code => .function (code.renamed f)
  | .class name parts => .class (name.map f) (exprsRenamed f parts)
  | .block body => .block (stmtsRenamed f body)
  | .ifThen test yes none => .ifThen (test.renamed f) (yes.renamed f) none
  | .ifThen test yes (some no) => .ifThen (test.renamed f) (yes.renamed f) (some (no.renamed f))
  | .tryCatch body none handler finalizer =>
    .tryCatch (stmtsRenamed f body) none (stmtsRenamed f handler) (stmtsRenamed f finalizer)
  | .tryCatch body (some param) handler finalizer =>
    .tryCatch (stmtsRenamed f body) (some (param.renamed f)) (stmtsRenamed f handler)
      (stmtsRenamed f finalizer)
  | .return none => .return none
  | .return (some value) => .return (some (value.renamed f))
  | .other form exprs body => .other form (exprsRenamed f exprs) (stmtsRenamed f body)

/-- Statements with their identifiers renamed. -/
def stmtsRenamed (f : String → String) : List Stmt → List Stmt
  | [] => []
  | first :: rest => first.renamed f :: stmtsRenamed f rest

end

/-! ## Names and members -/

variable {f : String → String}

/-- A name that is kept can be told from the others as before. -/
theorem KeptBy.beq {special : String} (h : KeptBy f special) (name : String) :
    (f name == special) = (name == special) := by
  rw [Bool.eq_iff_iff, beq_iff_eq, beq_iff_eq]
  exact h name

/-- The body of a renamed function is its renamed body. -/
theorem Code.body_renamed (code : Code) : (code.renamed f).body = stmtsRenamed f code.body := by
  cases code
  rfl

namespace Expr

/-- Renaming leaves parentheses where they are. -/
@[simp] theorem withoutParens_renamed (e : Expr) :
    (e.renamed f).withoutParens = e.withoutParens.renamed f := by
  fun_induction withoutParens e with
  | case1 inner ih => exact ih
  | case2 e hparen =>
    cases e with
    | paren inner => exact absurd rfl (hparen inner)
    | _ => rfl

/-- A renamed identifier has the new name. -/
@[simp] theorem identName?_renamed (e : Expr) :
    (e.renamed f).identName? = e.identName?.map f := by
  rw [identName?, identName?, withoutParens_renamed]
  cases e.withoutParens <;> rfl

/-- An expression is a special name exactly if it was one. -/
theorem identName?_renamed_beq {special : String} (h : KeptBy f special) (e : Expr) :
    ((e.renamed f).identName? == some special) = (e.identName? == some special) := by
  rw [identName?_renamed]
  cases e.identName? with
  | none => rfl
  | some name => exact h.beq name

/-- A member of a special name stays one, since properties are not renamed. -/
theorem isMemberOf_renamed {object : String} (h : KeptBy f object) (e : Expr) (property : String) :
    (e.renamed f).isMemberOf object property = e.isMemberOf object property := by
  rw [isMemberOf, isMemberOf, withoutParens_renamed]
  cases e.withoutParens with
  | member base name =>
    show (name == property && (base.renamed f).identName? == some object) = _
    rw [identName?_renamed_beq h]
  | _ => rfl

/-- `process.env.NODE_ENV` stays what it is. -/
theorem isNodeEnv_renamed (h : KeptBy f "process") (e : Expr) :
    (e.renamed f).isNodeEnv = e.isNodeEnv := by
  rw [isNodeEnv, isNodeEnv, withoutParens_renamed]
  cases e.withoutParens with
  | member base name =>
    show (name == "NODE_ENV" && (base.renamed f).isMemberOf "process" "env") = _
    rw [isMemberOf_renamed h]
  | _ => rfl

/-- The target of a property assignment has the same key on a renamed base. -/
theorem propertyTarget?_renamed (e : Expr) :
    (e.renamed f).propertyTarget? =
      e.propertyTarget?.map fun target => (target.1.renamed f, target.2) := by
  cases e with
  | index base key =>
    rw [renamed, propertyTarget?, propertyTarget?, withoutParens_renamed]
    cases key.withoutParens with
    | literal value => cases value <;> rfl
    | _ => rfl
  | _ => rfl

/-! ## Tests of the mode -/

/-- Literals are not renamed, and nothing else becomes one. -/
theorem renamed_eq_literal_iff {e : Expr} {value : Literal} :
    e.renamed f = .literal value ↔ e = .literal value := by
  cases e <;> simp [renamed]

/-- A comparison with `process.env.NODE_ENV` is for the same mode. -/
theorem comparedMode?_renamed (h : KeptBy f "process") (left right : Expr) :
    comparedMode? (left.renamed f) (right.renamed f) = comparedMode? left right := by
  ext text
  simp only [comparedMode?_eq_some_iff, isNodeEnv_renamed h, withoutParens_renamed,
    renamed_eq_literal_iff]

/-- What a test comes to in a mode does not change. -/
theorem holdsIn?_renamed (h : KeptBy f "process") (mode : Mode) :
    ∀ e : Expr, (e.renamed f).holdsIn? mode = e.holdsIn? mode
  | .paren inner => holdsIn?_renamed h mode inner
  | .unary .not operand => by rw [renamed, holdsIn?, holdsIn?, holdsIn?_renamed h mode operand]
  | .logical .and left right | .logical .or left right => by
    rw [renamed, holdsIn?, holdsIn?, holdsIn?_renamed h mode left, holdsIn?_renamed h mode right]
  | .binary op left right => by rw [renamed, holdsIn?, holdsIn?, comparedMode?_renamed h]
  | .unary .negate _ | .unary .plus _ | .unary .complement _ | .unary .typeof _ | .unary .void _
  | .unary .delete _ | .logical .coalesce _ _ | .ident _ | .literal _ | .object _ | .function _
  | .arrow _ | .arrowValue _ _ _ | .conditional _ _ _ | .assign _ _ _ | .sequence _ | .member _ _
  | .index _ _ | .call _ _ | .spread _ | .chain _ | .other _ _ => rfl

/-! ## Calls -/

/-- The value of an expression is that of the expression, renamed. -/
@[simp] theorem asValue?_renamed (e : Expr) :
    (e.renamed f).asValue? = e.asValue?.map (renamed f) := by
  cases e <;> rfl

mutual

/-- What is told of the name of a called helper stays, if it is told of identifiers as before. -/
theorem any_calleeName?_renamed {p : String → Bool} (h : ∀ name, p (f name) = p name) :
    ∀ e : Expr, (e.renamed f).calleeName?.any p = e.calleeName?.any p
  | .ident name => h name
  | .paren inner => any_calleeName?_renamed h inner
  | .sequence items => any_lastCalleeName?_renamed h items
  | .literal _ | .object _ | .function _ | .arrow _ | .arrowValue _ _ _ | .unary _ _
  | .binary _ _ _ | .logical _ _ _ | .conditional _ _ _ | .assign _ _ _ | .member _ _
  | .index _ _ | .call _ _ | .spread _ | .chain _ | .other _ _ => rfl

/-- Whether the last argument is called by a name of some kind does not change. -/
theorem any_lastCalleeName?_renamed {p : String → Bool} (h : ∀ name, p (f name) = p name) :
    ∀ items : List Expr,
      (lastCalleeName? (exprsRenamed f items)).any p = (lastCalleeName? items).any p
  | [] => rfl
  | [last] => any_calleeName?_renamed h last
  | _ :: second :: rest => any_lastCalleeName?_renamed h (second :: rest)

end

end Expr

/-- The first of the values of arguments is that of the arguments, renamed. -/
theorem firstValue?_renamed (args : List Expr) :
    firstValue? (exprsRenamed f args) = (firstValue? args).map (Expr.renamed f) := by
  cases args with
  | nil => rfl
  | cons first rest => exact Expr.asValue?_renamed first

/-- The value whose keys a callback is called with is that of the call, renamed. -/
theorem iteratedKeys?_renamed (h : KeptBy f "Object") (callee : Expr) :
    Context.iteratedKeys? (callee.renamed f) =
      (Context.iteratedKeys? callee).map (Expr.renamed f) := by
  rw [Context.iteratedKeys?, Context.iteratedKeys?, Expr.withoutParens_renamed]
  cases callee.withoutParens with
  | member owner name =>
    by_cases hname : name = "forEach"
    · subst hname
      simp only [Expr.renamed, Expr.withoutParens_renamed]
      cases owner.withoutParens with
      | call keys args =>
        simp only [Expr.renamed, Expr.isMemberOf_renamed h, firstValue?_renamed]
        split <;> rfl
      | _ => rfl
    · simp [Expr.renamed, hname]
  | _ => rfl

end NamedExports.Script
