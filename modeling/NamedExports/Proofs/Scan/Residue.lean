import NamedExports.Proofs.Scan.Condition
import NamedExports.Scan.Exports

/-!
# What a mode leaves of a program

`Program.residue` is what is left of a program once the mode is known.  Every test is replaced by
how it comes out, and whatever cannot run is left out: the other arm of a conditional expression,
the right operand of `&&` or `||` that is skipped, and the other branch of an `if`.  Branches are
left out only where a scan goes through a program: in its body, in blocks, in `try` blocks, in
branches, and in functions that are called where they are written.  A function that is only looked
at keeps all of its branches.

Two programs that differ only in parts that cannot run have the same residue.
-/

namespace NamedExports.Script

/-! ## Tests that are settled -/

/-- `process.env.NODE_ENV` -/
def nodeEnv : Expr := .member (.member (.ident "process") "env") "NODE_ENV"

/-- A test that comes out in a given way in every mode.  The text compared with is no mode's. -/
def settled : Option Bool → Expr
  | some true => .binary .notEqual nodeEnv (.literal (.string ""))
  | some false => .binary .equal nodeEnv (.literal (.string ""))
  | none => .other .hole []

/-- A settled test comes out as it was settled, in whatever mode. -/
@[simp] theorem holdsIn?_settled (mode : Mode) (outcome : Option Bool) :
    (settled outcome).holdsIn? mode = outcome := by
  rcases outcome with _ | _ | _ <;> cases mode <;> rfl

/-- Whether an operator skips its right operand, given how the left one comes out. -/
def LogicalOp.skips : LogicalOp → Option Bool → Bool
  | .and, some false => true
  | .or, some true => true
  | _, _ => false

/-- An expression, left out if it is dead. -/
def Expr.blankIf (dead : Bool) (e : Expr) : Expr := if dead then .other .hole [] else e

/-- A statement, left out if it is dead. -/
def Stmt.blankIf (dead : Bool) (s : Stmt) : Stmt := if dead then .other .empty [] [] else s

/-! ## Residues -/

/-- How a scan comes to a place of a program. -/
inductive Place where
  /-- Looked at as a whole, if at all. -/
  | aside
  /-- Gone through, for the effect. -/
  | effect
  /-- What is called in a call that is gone through. -/
  | callee
  /-- The function whose `.call` or `.apply` is called. -/
  | owner
  deriving DecidableEq

namespace Place

/-- Where the parts stand that are evaluated in place of the whole. -/
def inner : Place → Place
  | effect => effect
  | _ => aside

/-- Where the callee of a call stands. -/
def ofCallee : Place → Place
  | effect => callee
  | _ => aside

/-- Where the owner of a member stands. -/
def ofOwner (place : Place) (name : String) : Place :=
  if place = callee ∧ Bindings.callsOwner name then owner else aside

/-- Where the body of a function stands. -/
def ofBody : Place → Place
  | callee => effect
  | owner => effect
  | _ => aside

/-- The parts of a part stand where the parts of the whole do. -/
@[simp] theorem inner_inner (place : Place) : place.inner.inner = place.inner := by
  cases place <;> rfl

/-- A part that is evaluated in place of the whole is no function that is followed. -/
@[simp] theorem ofBody_inner (place : Place) : place.inner.ofBody = aside := by
  cases place <;> rfl

end Place

mutual

/-- What the mode leaves of an expression. -/
@[simp] def Expr.residue (mode : Mode) (place : Place) : Expr → Expr
  | .ident name => .ident name
  | .literal value => .literal value
  | .object members => .object (membersResidue mode members)
  | .function code => .function (code.residue mode place.ofBody)
  | .arrow code => .arrow (code.residue mode place.ofBody)
  | .arrowValue async params value =>
    .arrowValue async (exprsResidue mode .aside params) (value.residue mode .aside)
  | .unary op operand => .unary op (operand.residue mode place.inner)
  | .binary op left right => .binary op (left.residue mode .aside) (right.residue mode .aside)
  | .logical op left right =>
    .logical op (settled (left.holdsIn? mode))
      ((right.residue mode place.inner).blankIf (op.skips (left.holdsIn? mode)))
  | .conditional test yes no =>
    .conditional (settled (test.holdsIn? mode))
      ((yes.residue mode place.inner).blankIf (test.holdsIn? mode == some false))
      ((no.residue mode place.inner).blankIf (test.holdsIn? mode == some true))
  | .assign op target value => .assign op (target.residue mode .aside) (value.residue mode .aside)
  | .sequence items => .sequence (exprsResidue mode place.inner items)
  | .member object name => .member (object.residue mode (place.ofOwner name)) name
  | .index object key => .index (object.residue mode .aside) (key.residue mode .aside)
  | .call callee args => .call (callee.residue mode place.ofCallee) (exprsResidue mode .aside args)
  | .spread operand => .spread (operand.residue mode .aside)
  | .paren inner => .paren (inner.residue mode place)
  | .chain inner => .chain (inner.residue mode .aside)
  | .other form parts => .other form (exprsResidue mode .aside parts)

/-- What the mode leaves of each of some expressions. -/
@[simp] def exprsResidue (mode : Mode) (place : Place) : List Expr → List Expr
  | [] => []
  | first :: rest => first.residue mode place :: exprsResidue mode place rest

/-- What the mode leaves of the entries of an object literal. -/
@[simp] def membersResidue (mode : Mode) : List Member → List Member
  | [] => []
  | .property key value :: rest =>
    .property (key.residue mode .aside) (value.residue mode .aside) :: membersResidue mode rest
  | .spread operand :: rest => .spread (operand.residue mode .aside) :: membersResidue mode rest

/-- What the mode leaves of a function, given where its body stands. -/
@[simp] def Code.residue (mode : Mode) (place : Place) : Code → Code
  | .mk name async generator params body =>
    .mk name async generator (exprsResidue mode .aside params) (stmtsResidue mode place body)

/-- What the mode leaves of declared names and patterns and of the values they start from. -/
@[simp] def declaratorsResidue (mode : Mode) (place : Place) : List Declarator → List Declarator
  | [] => []
  | .mk target none :: rest =>
    .mk (target.residue mode .aside) none :: declaratorsResidue mode place rest
  | .mk target (some init) :: rest =>
    .mk (target.residue mode .aside) (some (init.residue mode place.inner)) ::
      declaratorsResidue mode place rest

/-- What the mode leaves of a statement. -/
@[simp] def Stmt.residue (mode : Mode) (place : Place) : Stmt → Stmt
  | .expr value => .expr (value.residue mode place)
  | .declare kind items => .declare kind (declaratorsResidue mode place items)
  | .function code => .function (code.residue mode .aside)
  | .class name parts => .class name (exprsResidue mode .aside parts)
  | .block body => .block (stmtsResidue mode place body)
  | .ifThen test yes none =>
    .ifThen (settled (test.holdsIn? mode))
      ((yes.residue mode place).blankIf (place = .effect && test.holdsIn? mode == some false)) none
  | .ifThen test yes (some no) =>
    .ifThen (settled (test.holdsIn? mode))
      ((yes.residue mode place).blankIf (place = .effect && test.holdsIn? mode == some false))
      (some ((no.residue mode place).blankIf (place = .effect && test.holdsIn? mode == some true)))
  | .tryCatch body none handler finalizer =>
    .tryCatch (stmtsResidue mode place body) none (stmtsResidue mode .aside handler)
      (stmtsResidue mode .aside finalizer)
  | .tryCatch body (some param) handler finalizer =>
    .tryCatch (stmtsResidue mode place body) (some (param.residue mode .aside))
      (stmtsResidue mode .aside handler) (stmtsResidue mode .aside finalizer)
  | .return none => .return none
  | .return (some value) => .return (some (value.residue mode .aside))
  | .other form exprs body =>
    .other form (exprsResidue mode .aside exprs) (stmtsResidue mode .aside body)

/-- What the mode leaves of each of some statements. -/
@[simp] def stmtsResidue (mode : Mode) (place : Place) : List Stmt → List Stmt
  | [] => []
  | first :: rest => first.residue mode place :: stmtsResidue mode place rest

end

/-- What the mode leaves of a program. -/
def Program.residue (program : Program) (mode : Mode) : Program := stmtsResidue mode .effect program

/-! ## Parts that leave nothing -/

section Dead

variable {mode : Mode} {test left : Expr}

/-- Of an `if` whose test holds the other branch does not matter. -/
theorem Stmt.residue_ifElse_of_true (h : test.holdsIn? mode = some true) (yes no other : Stmt) :
    (Stmt.ifThen test yes (some no)).residue mode .effect =
      (Stmt.ifThen test yes (some other)).residue mode .effect := by
  simp [blankIf, h]

/-- Of a conditional expression whose test holds the other arm does not matter. -/
theorem Expr.residue_conditional_of_true (h : test.holdsIn? mode = some true) (place : Place)
    (yes no other : Expr) :
    (Expr.conditional test yes no).residue mode place =
      (Expr.conditional test yes other).residue mode place := by
  simp [blankIf, h]

/-- A right operand that is skipped does not matter. -/
theorem Expr.residue_logical_of_skips {op : LogicalOp}
    (h : op.skips (left.holdsIn? mode) = true) (place : Place) (right other : Expr) :
    (Expr.logical op left right).residue mode place =
      (Expr.logical op left other).residue mode place := by
  simp [blankIf, h]

end Dead

/-! ## Shapes that a residue keeps

The residue of an expression is built like the expression, so the tests on shapes tell both alike.
-/

variable {mode : Mode} {place : Place}

/-- Each of some expressions leaves a residue of its own. -/
theorem exprsResidue_eq_map (items : List Expr) :
    exprsResidue mode place items = items.map (Expr.residue mode place) := by
  induction items with
  | nil => rfl
  | cons first rest ih => rw [exprsResidue, ih, List.map_cons]

namespace Expr

/-- Parentheses stand around a residue as around the expression. -/
@[simp] theorem withoutParens_residue (e : Expr) :
    (e.residue mode place).withoutParens = e.withoutParens.residue mode place := by
  fun_induction withoutParens e with
  | case1 inner ih => exact ih
  | case2 e hparen =>
    cases e with
    | paren inner => exact absurd rfl (hparen inner)
    | _ => rfl

/-- A name leaves itself. -/
@[simp] theorem identName?_residue (e : Expr) :
    (e.residue mode place).identName? = e.identName? := by
  rw [identName?, identName?, withoutParens_residue]
  cases e.withoutParens <;> rfl

/-- A member of a name leaves a member of that name. -/
@[simp] theorem isMemberOf_residue (e : Expr) (object property : String) :
    (e.residue mode place).isMemberOf object property = e.isMemberOf object property := by
  rw [isMemberOf, isMemberOf, withoutParens_residue]
  cases e.withoutParens with
  | member base name =>
    show (name == property && (base.residue mode _).identName? == some object) = _
    rw [identName?_residue]
  | _ => rfl

/-- The exports object leaves itself. -/
@[simp] theorem isExportsObject_residue (e : Expr) :
    (e.residue mode place).isExportsObject = e.isExportsObject := by
  rw [isExportsObject, isExportsObject, isModuleExports, isModuleExports, identName?_residue,
    isMemberOf_residue]

/-- `module.exports` leaves itself. -/
@[simp] theorem isModuleExportsTarget_residue (e : Expr) :
    (e.residue mode place).isModuleExportsTarget = e.isModuleExportsTarget := by
  cases e with
  | member base name =>
    show (name == "exports" && (base.residue mode _).identName? == some "module") = _
    rw [identName?_residue]
    rfl
  | _ => rfl

/-- A key that is known without running the program leaves itself. -/
@[simp] theorem staticName?_residue (e : Expr) :
    (e.residue mode place).staticName? = e.staticName? := by
  cases e <;> rfl

/-- A property of an object leaves the same property of what the object leaves. -/
theorem propertyTarget?_residue (e : Expr) :
    (e.residue mode .aside).propertyTarget? =
      e.propertyTarget?.map fun target => (target.1.residue mode .aside, target.2) := by
  cases e with
  | index base key =>
    rw [residue, propertyTarget?, propertyTarget?, withoutParens_residue]
    cases key.withoutParens with
    | literal value => cases value <;> rfl
    | _ => rfl
  | _ => rfl

mutual

/-- What is called goes by the same name in the residue. -/
@[simp] theorem calleeName?_residue :
    ∀ (place : Place) (e : Expr), (e.residue mode place).calleeName? = e.calleeName?
  | place, .paren inner => calleeName?_residue place inner
  | place, .sequence items => lastCalleeName?_residue place.inner items
  | _, .ident _ | _, .literal _ | _, .object _ | _, .function _ | _, .arrow _
  | _, .arrowValue _ _ _ | _, .unary _ _ | _, .binary _ _ _ | _, .logical _ _ _
  | _, .conditional _ _ _ | _, .assign _ _ _ | _, .member _ _ | _, .index _ _ | _, .call _ _
  | _, .spread _ | _, .chain _ | _, .other _ _ => rfl

/-- The last of some callees goes by the same name in the residue. -/
theorem lastCalleeName?_residue : ∀ (place : Place) (items : List Expr),
    lastCalleeName? (exprsResidue mode place items) = lastCalleeName? items
  | _, [] => rfl
  | place, [last] => calleeName?_residue place last
  | place, _ :: second :: rest => lastCalleeName?_residue place (second :: rest)

end

/-- An argument that is a value leaves a value. -/
@[simp] theorem asValue?_residue (e : Expr) :
    (e.residue mode place).asValue? = e.asValue?.map (residue mode place) := by
  cases e <;> rfl

/-- Only a literal leaves a literal. -/
theorem residue_eq_literal_iff {e : Expr} {value : Literal} :
    e.residue mode place = .literal value ↔ e = .literal value := by
  cases e <;> simp

/-- Only a single literal leaves a single literal. -/
theorem exprsResidue_eq_singleton_iff {args : List Expr} {value : Literal} :
    exprsResidue mode place args = [.literal value] ↔ args = [.literal value] := by
  rw [exprsResidue_eq_map, List.map_eq_singleton_iff]
  simp [residue_eq_literal_iff]

/-- A call of `require` leaves the same call. -/
@[simp] theorem requiredSpecifier?_residue (e : Expr) :
    (e.residue mode place).requiredSpecifier? = e.requiredSpecifier? := by
  ext specifier
  rw [requiredSpecifier?_eq_some_iff, requiredSpecifier?_eq_some_iff, withoutParens_residue]
  constructor
  · rintro ⟨callee, hshape, hcallee⟩
    cases hcall : e.withoutParens with
    | call found args =>
      rw [hcall, residue, Expr.call.injEq, exprsResidue_eq_singleton_iff] at hshape
      obtain ⟨rfl, rfl⟩ := hshape
      exact ⟨found, rfl, by simpa using hcallee⟩
    | _ => simp [hcall] at hshape
  · rintro ⟨callee, hshape, hcallee⟩
    rw [hshape]
    exact ⟨_, rfl, by simpa using hcallee⟩

end Expr

/-- An object literal leaves one with the same keys. -/
@[simp] theorem staticKeys_residue (members : List Member) :
    staticKeys (membersResidue mode members) = staticKeys members := by
  induction members with
  | nil => rfl
  | cons first rest ih => cases first <;> simp [ih]

/-- What is spread into an object literal leaves what is spread into its residue. -/
theorem spreadOperands_residue (members : List Member) :
    spreadOperands (membersResidue mode members) =
      (spreadOperands members).map (Expr.residue mode .aside) := by
  induction members with
  | nil => rfl
  | cons first rest ih => cases first <;> simp [ih]

/-! ## Arguments and helpers -/

/-- The arguments that are values leave the arguments that are values. -/
theorem argumentValues_residue (args : List Expr) :
    argumentValues (exprsResidue mode place args) =
      (argumentValues args).map (Expr.residue mode place) := by
  rw [exprsResidue_eq_map, argumentValues, argumentValues, List.filterMap_map, List.map_filterMap]
  exact congrArg (List.filterMap · args) (funext Expr.asValue?_residue)

/-- The first argument leaves the first argument. -/
theorem firstValue?_residue (args : List Expr) :
    firstValue? (exprsResidue mode place args) =
      (firstValue? args).map (Expr.residue mode place) := by
  cases args with
  | nil => rfl
  | cons first rest => exact Expr.asValue?_residue first

/-- The second argument leaves the second argument. -/
theorem secondValue?_residue (args : List Expr) :
    secondValue? (exprsResidue mode place args) =
      (secondValue? args).map (Expr.residue mode place) := by
  match args with
  | [] => rfl
  | [_] => rfl
  | _ :: second :: _ => exact Expr.asValue?_residue second

/-- A call of a helper for interoperation leaves such a call. -/
@[simp] theorem isInteropCall_residue {other : Place} (callee : Expr) (args : List Expr) :
    isInteropCall (callee.residue mode place) (exprsResidue mode other args) =
      isInteropCall callee args := by
  rw [isInteropCall, isInteropCall, Expr.calleeName?_residue, firstValue?_residue,
    Option.isSome_map]

/-- What `Object.keys(…).forEach` iterates over leaves what the residue iterates over. -/
theorem iteratedKeys?_residue (callee : Expr) :
    Context.iteratedKeys? (callee.residue mode place) =
      (Context.iteratedKeys? callee).map (Expr.residue mode .aside) := by
  rw [Context.iteratedKeys?, Context.iteratedKeys?, Expr.withoutParens_residue]
  cases callee.withoutParens with
  | member owner name =>
    by_cases hname : name = "forEach"
    · subst hname
      have howner : place.ofOwner "forEach" = .aside := if_neg (by simp [Bindings.callsOwner])
      simp only [Expr.residue, howner, Expr.withoutParens_residue]
      cases owner.withoutParens with
      | call keys args =>
        simp only [Expr.residue, Expr.isMemberOf_residue, firstValue?_residue]
        split <;> rfl
      | _ => rfl
    · simp [hname]
  | _ => rfl

/-! ## Functions that are only looked at -/

namespace Returns

/-- Declared variables do the same to the objects that a function builds. -/
theorem declarators_residue (r : Returns) (items : List Declarator) :
    (declaratorsResidue mode .aside items).foldl declarator r = items.foldl declarator r := by
  induction items generalizing r with
  | nil => rfl
  | cons first rest ih =>
    match first with
    | .mk target none =>
      rw [declaratorsResidue, List.foldl_cons, ih]
      cases target <;> rfl
    | .mk target (some init) =>
      rw [declaratorsResidue, List.foldl_cons, ih, List.foldl_cons]
      cases target with
      | ident name =>
        simp only [Expr.residue, declarator, Expr.withoutParens_residue]
        cases init.withoutParens with
        | object members => simp only [Expr.residue, staticKeys_residue]
        | _ => rfl
      | _ => rfl

/-- An expression that is evaluated for its effect does the same to them. -/
theorem effect_residue (r : Returns) (e : Expr) :
    r.effect (e.residue mode .aside) = r.effect e := by
  rw [effect, effect, Expr.withoutParens_residue]
  cases e.withoutParens with
  | assign op target value =>
    simp only [Expr.residue, Expr.propertyTarget?_residue]
    cases target.propertyTarget? <;> simp
  | _ => rfl

/-- A value that is returned is the same object. -/
theorem value_residue (r : Returns) (e : Expr) :
    r.value (e.residue mode .aside) = r.value e := by
  rw [value, value, Expr.withoutParens_residue]
  cases e.withoutParens with
  | object members => simp only [Expr.residue, staticKeys_residue]
  | _ => rfl

mutual

/-- A statement does the same to the objects that a function builds, as long as no branch is left
out. -/
theorem statement_residue : ∀ (r : Returns) (s : Stmt),
    r.statement (s.residue mode .aside) = r.statement s
  | r, .declare _ items => declarators_residue r items
  | r, .expr e => effect_residue r e
  | r, .return (some e) => value_residue r e
  | r, .block body => statements_residue r body
  | r, .ifThen _ yes none => statement_residue r yes
  | r, .ifThen _ yes (some no) => by
    rw [Stmt.residue, statement, statement]
    show statement (statement r (yes.residue mode .aside)) (no.residue mode .aside) = _
    rw [statement_residue r yes, statement_residue _ no]
  | _, .function _ | _, .class _ _ | _, .tryCatch _ none _ _ | _, .tryCatch _ (some _) _ _
  | _, .return none | _, .other _ _ _ => rfl

/-- Statements do the same to them one after the other. -/
theorem statements_residue : ∀ (r : Returns) (body : List Stmt),
    r.statements (stmtsResidue mode .aside body) = r.statements body
  | _, [] => rfl
  | r, first :: rest => by
    rw [stmtsResidue, statements, statement_residue r first, statements_residue _ rest, statements]

end

end Returns

/-- A function returns an object with the same keys. -/
@[simp] theorem returnedKeys_residue (code : Code) :
    (code.residue mode .aside).returnedKeys = code.returnedKeys := by
  cases code
  exact congrArg Returns.keys (Returns.statements_residue _ _)

/-- A value that an arrow function returns has the same keys. -/
@[simp] theorem valueKeys_residue (e : Expr) :
    (e.residue mode place).valueKeys = e.valueKeys := by
  rw [Expr.valueKeys, Expr.valueKeys, Expr.withoutParens_residue]
  cases e.withoutParens with
  | object members => exact staticKeys_residue members
  | _ => rfl

/-! ## Programs that do not ask for the mode -/

/-- None of some expressions is `process.env.NODE_ENV`. -/
def ModeFree (nodes : List Expr) : Prop := ∀ e ∈ nodes, e.isNodeEnv = false

/-- Whether nodes are free of the mode can be computed. -/
instance (nodes : List Expr) : Decidable (ModeFree nodes) :=
  inferInstanceAs (Decidable (∀ e ∈ nodes, e.isNodeEnv = false))

namespace ModeFree

variable {e : Expr} {nodes more : List Expr}

theorem tail (h : ModeFree (e :: nodes)) : ModeFree nodes :=
  fun x hx => h x (List.mem_cons_of_mem e hx)

theorem left (h : ModeFree (nodes ++ more)) : ModeFree nodes :=
  fun x hx => h x (List.mem_append_left more hx)

theorem right (h : ModeFree (nodes ++ more)) : ModeFree more :=
  fun x hx => h x (List.mem_append_right nodes hx)

/-- A condition that does not name the mode comes out alike in all modes. -/
theorem holdsIn?_eq (h : ModeFree e.nodes) (mode other : Mode) :
    e.holdsIn? mode = e.holdsIn? other := by
  rw [Expr.holdsIn?_eq_none h, Expr.holdsIn?_eq_none h]

variable {other : Mode}

-- by recursion on the program, since every part of it is free of the mode as well
mutual

/-- An expression that does not name the mode leaves the same in all modes. -/
theorem residue_expr : ∀ (place : Place) (e : Expr), ModeFree e.inside →
    e.residue mode place = e.residue other place
  | _, .ident _, _ => rfl
  | _, .literal _, _ => rfl
  | _, .object members, h => congrArg Expr.object (residue_members members h)
  | place, .function code, h => congrArg Expr.function (residue_code place.ofBody code h)
  | place, .arrow code, h => congrArg Expr.arrow (residue_code place.ofBody code h)
  | _, .arrowValue _ params value, h => by
    rw [Expr.residue, Expr.residue, residue_exprs .aside params h.left,
      residue_expr .aside value h.right.tail]
  | place, .unary op operand, h =>
    congrArg (Expr.unary op) (residue_expr place.inner operand h.tail)
  | _, .binary _ left right, h => by
    rw [Expr.residue, Expr.residue, residue_expr .aside left h.left.tail,
      residue_expr .aside right h.right.tail]
  | place, .logical _ left right, h => by
    rw [Expr.residue, Expr.residue, h.left.holdsIn?_eq mode other,
      residue_expr place.inner right h.right.tail]
  | place, .conditional test yes no, h => by
    rw [Expr.residue, Expr.residue, h.left.left.holdsIn?_eq mode other,
      residue_expr place.inner yes h.left.right.tail, residue_expr place.inner no h.right.tail]
  | _, .assign _ target value, h => by
    rw [Expr.residue, Expr.residue, residue_expr .aside target h.left.tail,
      residue_expr .aside value h.right.tail]
  | place, .sequence items, h => congrArg Expr.sequence (residue_exprs place.inner items h)
  | place, .member object name, h => by
    rw [Expr.residue, Expr.residue, residue_expr (place.ofOwner name) object h.tail]
  | _, .index object key, h => by
    rw [Expr.residue, Expr.residue, residue_expr .aside object h.left.tail,
      residue_expr .aside key h.right.tail]
  | place, .call callee args, h => by
    rw [Expr.residue, Expr.residue, residue_expr place.ofCallee callee h.left.tail,
      residue_exprs .aside args h.right]
  | _, .spread operand, h => congrArg Expr.spread (residue_expr .aside operand h.tail)
  | place, .paren inner, h => congrArg Expr.paren (residue_expr place inner h.tail)
  | _, .chain inner, h => congrArg Expr.chain (residue_expr .aside inner h.tail)
  | _, .other form parts, h => congrArg (Expr.other form) (residue_exprs .aside parts h)

theorem residue_exprs : ∀ (place : Place) (items : List Expr),
    ModeFree (exprsNodes items) →
      exprsResidue mode place items = exprsResidue other place items
  | _, [], _ => rfl
  | place, first :: rest, h => by
    rw [exprsResidue, exprsResidue, residue_expr place first h.left.tail,
      residue_exprs place rest h.right]

theorem residue_members : ∀ members : List Member, ModeFree (membersNodes members) →
    membersResidue mode members = membersResidue other members
  | [], _ => rfl
  | .property key value :: rest, h => by
    rw [membersResidue, membersResidue, residue_expr .aside key h.left.left.tail,
      residue_expr .aside value h.left.right.tail, residue_members rest h.right]
  | .spread operand :: rest, h => by
    rw [membersResidue, membersResidue, residue_expr .aside operand h.left.tail,
      residue_members rest h.right]

theorem residue_code : ∀ (place : Place) (code : Code), ModeFree code.nodes →
    code.residue mode place = code.residue other place
  | place, .mk _ _ _ params body, h => by
    rw [Code.residue, Code.residue, residue_exprs .aside params h.left,
      residue_stmts place body h.right]

theorem residue_declarators : ∀ (place : Place) (items : List Declarator),
    ModeFree (declaratorsNodes items) →
      declaratorsResidue mode place items = declaratorsResidue other place items
  | _, [], _ => rfl
  | place, .mk target none :: rest, h => by
    rw [declaratorsResidue, declaratorsResidue, residue_expr .aside target h.left.tail,
      residue_declarators place rest h.right]
  | place, .mk target (some init) :: rest, h => by
    rw [declaratorsResidue, declaratorsResidue, residue_expr .aside target h.left.left.tail,
      residue_expr place.inner init h.left.right.tail, residue_declarators place rest h.right]

/-- A statement that does not name the mode leaves the same in all modes. -/
theorem residue_stmt : ∀ (place : Place) (s : Stmt), ModeFree s.nodes →
    s.residue mode place = s.residue other place
  | place, .expr value, h => congrArg Stmt.expr (residue_expr place value h.tail)
  | place, .declare kind items, h =>
    congrArg (Stmt.declare kind) (residue_declarators place items h)
  | _, .function code, h => congrArg Stmt.function (residue_code .aside code h)
  | _, .class name parts, h => congrArg (Stmt.class name) (residue_exprs .aside parts h)
  | place, .block body, h => congrArg Stmt.block (residue_stmts place body h)
  | place, .ifThen test yes none, h => by
    rw [Stmt.residue, Stmt.residue, h.left.holdsIn?_eq mode other, residue_stmt place yes h.right]
  | place, .ifThen test yes (some no), h => by
    rw [Stmt.residue, Stmt.residue, h.left.left.holdsIn?_eq mode other,
      residue_stmt place yes h.left.right, residue_stmt place no h.right]
  | place, .tryCatch body none handler finalizer, h => by
    rw [Stmt.residue, Stmt.residue, residue_stmts place body h.left.left,
      residue_stmts .aside handler h.left.right, residue_stmts .aside finalizer h.right]
  | place, .tryCatch body (some param) handler finalizer, h => by
    rw [Stmt.residue, Stmt.residue, residue_stmts place body h.left.left.left,
      residue_expr .aside param h.left.left.right.tail,
      residue_stmts .aside handler h.left.right, residue_stmts .aside finalizer h.right]
  | _, .return none, _ => rfl
  | _, .return (some value), h => by
    rw [Stmt.residue, Stmt.residue, residue_expr .aside value h.tail]
  | _, .other form exprs body, h => by
    rw [Stmt.residue, Stmt.residue, residue_exprs .aside exprs h.left,
      residue_stmts .aside body h.right]

theorem residue_stmts : ∀ (place : Place) (body : List Stmt),
    ModeFree (stmtsNodes body) →
      stmtsResidue mode place body = stmtsResidue other place body
  | _, [], _ => rfl
  | place, first :: rest, h => by
    rw [stmtsResidue, stmtsResidue, residue_stmt place first h.left,
      residue_stmts place rest h.right]

end

end ModeFree

end NamedExports.Script
