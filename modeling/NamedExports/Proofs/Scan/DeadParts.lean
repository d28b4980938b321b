import NamedExports.Proofs.Scan.Residue

/-!
# Parts that cannot run

A scan of a program in a mode finds what it finds in the program's residue, and in the residue it
finds the same in every mode.  So parts that cannot run in the mode have no influence on the scan,
and programs that do not mention `process.env.NODE_ENV` are scanned alike in both modes.
-/

namespace NamedExports.Script

variable {mode : Mode} {place : Place}

/-! ## The first look -/

/-- Of a name with the residue as its initial value the same is known. -/
theorem Binding.ofValue_residue : ∀ (place : Place) (e : Expr),
    ofValue (e.residue mode place.inner) = ofValue e
  | place, .paren inner => ofValue_residue place inner
  | _, .object members => by
    rw [Expr.residue, ofValue, ofValue, staticKeys_residue, spreadOperands_residue,
      List.filterMap_map]
    congr 2
    exact funext Expr.requiredSpecifier?_residue
  | place, .call callee args => by
    have hcall : ((Expr.call callee args).residue mode place.inner).requiredSpecifier? =
        (Expr.call callee args).requiredSpecifier? := Expr.requiredSpecifier?_residue _
    rw [Expr.residue] at hcall ⊢
    have hfirst : ((firstValue? args).map (Expr.residue mode .aside)).bind
        Expr.requiredSpecifier? = (firstValue? args).bind Expr.requiredSpecifier? := by
      cases firstValue? args <;> simp
    rw [ofValue, ofValue, hcall, isInteropCall_residue, firstValue?_residue, hfirst]
  | place, .function code => by
    rw [Expr.residue, Place.ofBody_inner, ofValue, ofValue, returnedKeys_residue]
  | place, .arrow code => by
    rw [Expr.residue, Place.ofBody_inner, ofValue, ofValue, returnedKeys_residue]
  | _, .arrowValue async params value => by
    rw [Expr.residue, ofValue, ofValue, valueKeys_residue]
  | _, .assign _ _ value => ofValue_residue .aside value
  | _, .ident _ | _, .literal _ | _, .unary _ _ | _, .binary _ _ _ | _, .logical _ _ _
  | _, .conditional _ _ _ | _, .sequence _ | _, .member _ _ | _, .index _ _ | _, .spread _
  | _, .chain _ | _, .other _ _ => rfl

namespace Bindings

variable (other : Mode)

/-- Declarations record the same. -/
theorem declareAll_residue (b : Bindings) (items : List Declarator) :
    (declaratorsResidue mode place items).foldl declare b = items.foldl declare b := by
  induction items generalizing b with
  | nil => rfl
  | cons first rest ih =>
    match first with
    | .mk target none =>
      rw [declaratorsResidue, List.foldl_cons, ih]
      cases target <;> rfl
    | .mk target (some init) =>
      rw [declaratorsResidue, List.foldl_cons, ih, List.foldl_cons]
      cases target with
      | ident name => simp only [Expr.residue, declare, Binding.ofValue_residue]
      | _ => rfl

/-- Assignments to properties record the same. -/
theorem assign_residue (b : Bindings) (target : Expr) :
    b.assign (target.residue mode .aside) = b.assign target := by
  rw [assign, assign, Expr.propertyTarget?_residue]
  cases target.propertyTarget? <;> simp

/-- Calls that define properties record the same. -/
theorem call_residue (b : Bindings) (callee : Expr) (args : List Expr) :
    b.call (callee.residue mode place) (exprsResidue mode .aside args) = b.call callee args := by
  have hname : ((firstValue? args).map (Expr.residue mode .aside)).bind Expr.identName? =
      (firstValue? args).bind Expr.identName? := by
    cases firstValue? args <;> simp
  simp only [call, Expr.isMemberOf_residue, Expr.calleeName?_residue, firstValue?_residue,
    secondValue?_residue, hname]
  cases (firstValue? args).bind Expr.identName? with
  | none => rfl
  | some name =>
    cases secondValue? args with
    | none => rfl
    | some second =>
      cases second with
      | object members => simp
      | literal value => cases value <;> rfl
      | _ => rfl

mutual

/-- The first look goes through what the mode leaves of an expression as through the expression,
even in another mode. -/
theorem expr_residue : ∀ (place : Place) (b : Bindings) (e : Expr),
    expr other b (e.residue mode place) = expr mode b e
  | place, b, .paren inner => expr_residue place b inner
  | place, b, .call callee args => by
    rw [Expr.residue, expr, expr, invoked_residue, call_residue]
  | place, b, .unary _ operand => negated_residue place.inner b operand
  | place, b, .sequence items => exprs_residue place.inner b items
  | place, b, .assign _ target value => by
    rw [Expr.residue, expr, expr, assign_residue, expr_residue .aside _ value]
  | _, _, .ident _ | _, _, .literal _ | _, _, .object _ | _, _, .function _ | _, _, .arrow _
  | _, _, .arrowValue _ _ _ | _, _, .binary _ _ _ | _, _, .logical _ _ _
  | _, _, .conditional _ _ _ | _, _, .member _ _ | _, _, .index _ _ | _, _, .spread _
  | _, _, .chain _ | _, _, .other _ _ => rfl

/-- So it does with the operand of a unary operator. -/
theorem negated_residue : ∀ (place : Place) (b : Bindings) (e : Expr),
    negated other b (e.residue mode place) = negated mode b e
  | place, b, .paren inner => negated_residue place b inner
  | place, b, .call callee args => by
    rw [Expr.residue, negated, negated, invoked_residue]
  | _, _, .ident _ | _, _, .literal _ | _, _, .object _ | _, _, .function _ | _, _, .arrow _
  | _, _, .arrowValue _ _ _ | _, _, .unary _ _ | _, _, .binary _ _ _ | _, _, .logical _ _ _
  | _, _, .conditional _ _ _ | _, _, .assign _ _ _ | _, _, .sequence _ | _, _, .member _ _
  | _, _, .index _ _ | _, _, .spread _ | _, _, .chain _ | _, _, .other _ _ => rfl

/-- It finds the same function to follow in a callee. -/
theorem invoked_residue : ∀ (place : Place) (b : Bindings) (e : Expr),
    invoked other b (e.residue mode place) = invoked mode b e
  | place, b, .paren inner => invoked_residue place b inner
  | place, b, .member owner name => by
    rw [Expr.residue, invoked, invoked, body_residue]
  | place, b, .function (.mk _ _ _ _ statements) =>
    congrArg some (stmts_residue place.ofBody b statements)
  | place, b, .arrow (.mk _ _ _ _ statements) =>
    congrArg some (stmts_residue place.ofBody b statements)
  | _, _, .ident _ | _, _, .literal _ | _, _, .object _ | _, _, .arrowValue _ _ _ | _, _, .unary _ _
  | _, _, .binary _ _ _ | _, _, .logical _ _ _ | _, _, .conditional _ _ _ | _, _, .assign _ _ _
  | _, _, .sequence _ | _, _, .index _ _ | _, _, .call _ _ | _, _, .spread _ | _, _, .chain _
  | _, _, .other _ _ => rfl

/-- It finds the same function to follow in the owner of a `.call`. -/
theorem body_residue : ∀ (place : Place) (b : Bindings) (e : Expr),
    body other b (e.residue mode place) = body mode b e
  | place, b, .paren inner => body_residue place b inner
  | place, b, .function (.mk _ _ _ _ statements) =>
    congrArg some (stmts_residue place.ofBody b statements)
  | place, b, .arrow (.mk _ _ _ _ statements) =>
    congrArg some (stmts_residue place.ofBody b statements)
  | _, _, .ident _ | _, _, .literal _ | _, _, .object _ | _, _, .arrowValue _ _ _ | _, _, .unary _ _
  | _, _, .binary _ _ _ | _, _, .logical _ _ _ | _, _, .conditional _ _ _ | _, _, .assign _ _ _
  | _, _, .sequence _ | _, _, .member _ _ | _, _, .index _ _ | _, _, .call _ _ | _, _, .spread _
  | _, _, .chain _ | _, _, .other _ _ => rfl

/-- So it goes through sequences. -/
theorem exprs_residue : ∀ (place : Place) (b : Bindings) (items : List Expr),
    exprs other b (exprsResidue mode place items) = exprs mode b items
  | _, _, [] => rfl
  | place, b, first :: rest => by
    rw [exprsResidue, exprs, exprs, expr_residue place b first, exprs_residue place _ rest]

/-- So it goes through statements. -/
theorem stmt_residue : ∀ (place : Place) (b : Bindings) (s : Stmt),
    stmt other b (s.residue mode place) = stmt mode b s
  | place, b, .expr e => expr_residue place b e
  | _, b, .declare _ items => declareAll_residue b items
  | _, b, .function code => by
    cases code
    rw [Stmt.residue, stmt, stmt, returnedKeys_residue]
    rfl
  | place, b, .block statements => stmts_residue place b statements
  | place, b, .tryCatch statements none _ _ => stmts_residue place b statements
  | place, b, .tryCatch statements (some _) _ _ => stmts_residue place b statements
  | place, b, .ifThen test yes none => by
    rw [Stmt.residue, stmt, stmt, holdsIn?_settled]
    -- a branch is only left out where it is not taken
    rcases test.holdsIn? mode with _ | _ | _ <;>
      simp [Stmt.blankIf, stmt_residue place b yes]
  | place, b, .ifThen test yes (some no) => by
    rw [Stmt.residue, stmt, stmt, holdsIn?_settled]
    rcases test.holdsIn? mode with _ | _ | _ <;>
      simp [Stmt.blankIf, stmt_residue place _ yes, stmt_residue place _ no]
  | _, _, .class (some _) _ | _, _, .class none _ | _, _, .return none | _, _, .return (some _)
  | _, _, .other _ _ _ => rfl

/-- So it goes through a whole program, and comes to know the same names. -/
theorem stmts_residue : ∀ (place : Place) (b : Bindings) (statements : List Stmt),
    stmts other b (stmtsResidue mode place statements) = stmts mode b statements
  | _, _, [] => rfl
  | place, b, first :: rest => by
    rw [stmtsResidue, stmts, stmts, stmt_residue place b first, stmts_residue place _ rest]

end

end Bindings

/-! ## The second look -/

namespace Context

/-- The same scan in another mode. -/
def inMode (c : Context) (mode : Mode) : Context := { c with mode }

variable {c : Context} {other : Mode}

/-- A scan skips a right operand exactly if the operator does, by what the mode says of the left
one. -/
theorem skipsRight_eq (c : Context) (op : LogicalOp) (left : Expr) :
    c.skipsRight op left = op.skips (left.holdsIn? c.mode) := by
  unfold skipsRight LogicalOp.skips
  cases op <;> rcases left.holdsIn? c.mode with _ | _ | _ <;> rfl

mutual

/-- What the mode leaves of an expression requires the same module, even in another mode. -/
theorem requiredBy?_residue : ∀ (place : Place) (e : Expr),
    (c.inMode other).requiredBy? (e.residue c.mode place) = c.requiredBy? e
  | place, .paren inner => requiredBy?_residue place inner
  | _, .ident name => (rfl : (c.lookup name).bind Binding.required = _)
  | place, .call callee args => by
    have hcall : ((Expr.call callee args).residue c.mode place).requiredSpecifier? =
        (Expr.call callee args).requiredSpecifier? := Expr.requiredSpecifier?_residue _
    rw [Expr.residue] at hcall ⊢
    rw [requiredBy?, requiredBy?, hcall, isInteropCall_residue, firstRequiredBy?_residue args]
  | _, .literal _ | _, .object _ | _, .function _ | _, .arrow _ | _, .arrowValue _ _ _
  | _, .unary _ _ | _, .binary _ _ _ | _, .logical _ _ _ | _, .conditional _ _ _
  | _, .assign _ _ _ | _, .sequence _ | _, .member _ _ | _, .index _ _ | _, .spread _
  | _, .chain _ | _, .other _ _ => (rfl : none = none)

theorem firstRequiredBy?_residue : ∀ args : List Expr,
    (c.inMode other).firstRequiredBy? (exprsResidue c.mode .aside args) = c.firstRequiredBy? args
  | [] => rfl
  | first :: _ => requiredBy?_residue .aside first

end

/-- The same is copied from it. -/
theorem spread_residue (source : Expr) :
    (c.inMode other).spread (source.residue c.mode place) = c.spread source := by
  rw [spread, spread, requiredBy?_residue, Expr.identName?_residue]
  rfl

/-- A factory makes an object with the same keys. -/
theorem factoryKeys?_residue (hplace : place.ofBody = .aside) (callee : Expr) :
    (c.inMode other).factoryKeys? (callee.residue c.mode place) = c.factoryKeys? callee := by
  rw [factoryKeys?, factoryKeys?, Expr.withoutParens_residue]
  cases callee.withoutParens with
  | function code => simp only [Expr.residue, hplace, returnedKeys_residue]
  | arrow code => simp only [Expr.residue, hplace, returnedKeys_residue]
  | arrowValue async params result => simp only [Expr.residue, valueKeys_residue]
  | _ => rfl

mutual

/-- As a value it exports the same. -/
theorem value_residue : ∀ (called : Bool) (e : Expr),
    (c.inMode other).value called (e.residue c.mode .aside) = c.value called e
  | called, .paren inner => value_residue called inner
  | called, .object members => by
    have hspreads : ((spreadOperands members).map (Expr.residue c.mode .aside)).map
        (c.inMode other).spread = (spreadOperands members).map c.spread := by
      rw [List.map_map]
      exact congrArg (List.map · _) (funext spread_residue)
    rw [Expr.residue, value, value, staticKeys_residue, spreadOperands_residue, hspreads]
  | called, .call callee args => by
    have hcall : ((Expr.call callee args).residue c.mode .aside).requiredSpecifier? =
        (Expr.call callee args).requiredSpecifier? := Expr.requiredSpecifier?_residue _
    rw [Expr.residue] at hcall ⊢
    rw [value, value, hcall, Expr.requiredSpecifier?_residue, Expr.isMemberOf_residue,
      Expr.calleeName?_residue, isInteropCall_residue, values_residue false args,
      firstValue_residue called args, factoryKeys?_residue rfl]
  | called, .ident name => (rfl : c.named called name = _)
  | called, .function code => by
    have hkeys : (code.residue c.mode .aside).returnedKeys = code.returnedKeys :=
      returnedKeys_residue code
    exact congrArg (fun keys => if called then Findings.names keys else ∅) hkeys
  | called, .arrow code => by
    have hkeys : (code.residue c.mode .aside).returnedKeys = code.returnedKeys :=
      returnedKeys_residue code
    exact congrArg (fun keys => if called then Findings.names keys else ∅) hkeys
  | called, .arrowValue _ _ result => by
    rw [Expr.residue, value, value, valueKeys_residue]
  | called, .conditional test yes no => by
    have hyes := value_residue called yes
    have hno := value_residue called no
    rw [Expr.residue, value, value, holdsIn?_settled]
    -- an arm is only left out where it is not selected
    rcases test.holdsIn? c.mode with _ | _ | _
    · show (c.inMode other).value called (yes.residue c.mode .aside) ++
        (c.inMode other).value called (no.residue c.mode .aside) = _
      rw [hyes, hno]
    · exact hno
    · exact hyes
  | called, .assign _ _ right => value_residue called right
  | _, .literal _ | _, .unary _ _ | _, .binary _ _ _ | _, .logical _ _ _ | _, .sequence _
  | _, .member _ _ | _, .index _ _ | _, .spread _ | _, .chain _ | _, .other _ _ =>
    (rfl : (∅ : Findings) = ∅)

theorem values_residue : ∀ (called : Bool) (args : List Expr),
    (c.inMode other).values called (exprsResidue c.mode .aside args) = c.values called args
  | _, [] => rfl
  | called, first :: rest => by
    rw [exprsResidue, values, values, value_residue called first, values_residue called rest]

theorem firstValue_residue : ∀ (called : Bool) (args : List Expr),
    (c.inMode other).firstValue called (exprsResidue c.mode .aside args) = c.firstValue called args
  | _, [] => rfl
  | called, first :: _ => value_residue called first

end

/-- What the mode leaves of an assignment exports the same, even in another mode. -/
theorem assign_residue (target right : Expr) :
    (c.inMode other).assign (target.residue c.mode .aside) (right.residue c.mode .aside) =
      c.assign target right := by
  rw [assign, assign, Expr.isModuleExportsTarget_residue, Expr.propertyTarget?_residue,
    value_residue]
  cases target.propertyTarget? with
  | none => rfl
  | some found => simp only [Option.map_some, Expr.isExportsObject_residue]; rfl

/-- So does what it leaves of a chain of assignments. -/
theorem chain_residue :
    ∀ e : Expr, (c.inMode other).chain (e.residue c.mode .aside) = c.chain e
  | .paren inner => chain_residue inner
  | .assign op target right => by
    rw [Expr.residue, chain, assign_residue, chain_residue right, chain]
  | .ident _ | .literal _ | .object _ | .function _ | .arrow _ | .arrowValue _ _ _ | .unary _ _
  | .binary _ _ _ | .logical _ _ _ | .conditional _ _ _ | .sequence _ | .member _ _ | .index _ _
  | .call _ _ | .spread _ | .chain _ | .other _ _ => rfl

/-- So does what it leaves of a call of a helper that re-exports. -/
theorem helperCall_residue (args : List Expr) :
    (c.inMode other).helperCall (exprsResidue c.mode .aside args) = c.helperCall args := by
  unfold helperCall
  rw [argumentValues_residue, firstValue?_residue, secondValue?_residue, List.map_map]
  congr 1
  · refine congrArg Findings.join (List.map_congr_left fun arg _ => ?_)
    rw [Function.comp_apply, requiredBy?_residue]
  · cases firstValue? args with
    | none => rfl
    | some target =>
      cases secondValue? args with
      | none => rfl
      | some second =>
        cases second with
        | object members =>
          simp only [Option.map_some, Expr.residue, Expr.isExportsObject_residue,
            staticKeys_residue]
        | _ => rfl

/-- So does what it leaves of a call. -/
theorem call_residue (callee : Expr) (args : List Expr) :
    (c.inMode other).call (callee.residue c.mode place) (exprsResidue c.mode .aside args) =
      c.call callee args := by
  have hsources : (c.inMode other).values false ((exprsResidue c.mode .aside args).drop 1) =
      c.values false (args.drop 1) := by
    cases args with
    | nil => rfl
    | cons first rest => exact values_residue false rest
  have hobject : ((firstValue? args).map (Expr.residue c.mode .aside)).any Expr.isExportsObject =
      (firstValue? args).any Expr.isExportsObject := by
    cases firstValue? args <;> simp
  have hcalled : (c.inMode other).called = c.called := rfl
  rw [call, call, Expr.isMemberOf_residue, Expr.isMemberOf_residue, Expr.calleeName?_residue,
    firstValue?_residue, secondValue?_residue, iteratedKeys?_residue, helperCall_residue,
    hsources, hobject, hcalled]
  congr 1
  · cases firstValue? args with
    | none => rfl
    | some target =>
      cases secondValue? args with
      | none => rfl
      | some second =>
        cases second with
        | literal value =>
          cases value <;> simp
        | _ => rfl
  · congr 2
    cases iteratedKeys? callee with
    | none => rfl
    | some source => exact spread_residue source

mutual

/-- A scan finds the same in what the mode leaves of an expression. -/
theorem expr_residue : ∀ (place : Place) (e : Expr),
    (c.inMode other).expr (e.residue c.mode place) = c.expr e
  | place, .paren inner => expr_residue place inner
  | _, .assign _ target right => by
    rw [Expr.residue, expr, expr, assign_residue, chain_residue]
  | place, .call callee args => by
    rw [Expr.residue, expr, expr, invoked_residue, call_residue]
  | place, .sequence items => exprs_residue place.inner items
  | place, .conditional test yes no => by
    rw [Expr.residue, expr, expr, holdsIn?_settled]
    have hyes := expr_residue place.inner yes
    have hno := expr_residue place.inner no
    rcases test.holdsIn? c.mode with _ | _ | _
    · show (c.inMode other).expr (yes.residue c.mode place.inner) ++
        (c.inMode other).expr (no.residue c.mode place.inner) = _
      rw [hyes, hno]
    · exact hno
    · exact hyes
  | place, .logical op left right => by
    have hright := expr_residue place.inner right
    rw [Expr.residue, expr, expr, skipsRight_eq, skipsRight_eq, holdsIn?_settled]
    cases op.skips (left.holdsIn? c.mode) with
    | true => rfl
    | false => exact hright
  | place, .unary _ operand => expr_residue place.inner operand
  | _, .ident _ | _, .literal _ | _, .object _ | _, .function _ | _, .arrow _ | _, .arrowValue _ _ _
  | _, .binary _ _ _ | _, .member _ _ | _, .index _ _ | _, .spread _ | _, .chain _
  | _, .other _ _ => (rfl : (∅ : Findings) = ∅)

/-- It finds the same in a function that is called where it is written. -/
theorem invoked_residue : ∀ (place : Place) (e : Expr),
    (c.inMode other).invoked (e.residue c.mode place) = c.invoked e
  | place, .paren inner => invoked_residue place inner
  | place, .member owner name => by
    rw [Expr.residue, invoked, invoked, body_residue]
  | place, .function (.mk _ _ _ _ statements) =>
    congrArg some (stmts_residue place.ofBody statements)
  | place, .arrow (.mk _ _ _ _ statements) =>
    congrArg some (stmts_residue place.ofBody statements)
  | _, .ident _ | _, .literal _ | _, .object _ | _, .arrowValue _ _ _ | _, .unary _ _
  | _, .binary _ _ _ | _, .logical _ _ _ | _, .conditional _ _ _ | _, .assign _ _ _
  | _, .sequence _ | _, .index _ _ | _, .call _ _ | _, .spread _ | _, .chain _
  | _, .other _ _ => (rfl : none = none)

/-- It finds the same in the owner of a `.call`. -/
theorem body_residue : ∀ (place : Place) (e : Expr),
    (c.inMode other).body (e.residue c.mode place) = c.body e
  | place, .paren inner => body_residue place inner
  | place, .function (.mk _ _ _ _ statements) =>
    congrArg some (stmts_residue place.ofBody statements)
  | place, .arrow (.mk _ _ _ _ statements) =>
    congrArg some (stmts_residue place.ofBody statements)
  | _, .ident _ | _, .literal _ | _, .object _ | _, .arrowValue _ _ _ | _, .unary _ _
  | _, .binary _ _ _ | _, .logical _ _ _ | _, .conditional _ _ _ | _, .assign _ _ _
  | _, .sequence _ | _, .member _ _ | _, .index _ _ | _, .call _ _ | _, .spread _
  | _, .chain _ | _, .other _ _ => (rfl : none = none)

theorem exprs_residue : ∀ (place : Place) (items : List Expr),
    (c.inMode other).exprs (exprsResidue c.mode place items) = c.exprs items
  | _, [] => rfl
  | place, first :: rest => by
    rw [exprsResidue, exprs, exprs, expr_residue place first, exprs_residue place rest]

/-- It finds the same in declarations. -/
theorem declarators_residue : ∀ (place : Place) (items : List Declarator),
    (c.inMode other).declarators (declaratorsResidue c.mode place items) = c.declarators items
  | _, [] => rfl
  | place, .mk _ none :: rest => declarators_residue place rest
  | place, .mk target (some init) :: rest => by
    rw [declaratorsResidue, declarators, declarators, expr_residue place.inner init,
      declarators_residue place rest]

/-- It finds the same in what the mode leaves of a statement. -/
theorem stmt_residue : ∀ (place : Place) (s : Stmt),
    (c.inMode other).stmt (s.residue c.mode place) = c.stmt s
  | place, .expr e => expr_residue place e
  | place, .declare _ items => declarators_residue place items
  | place, .block statements => stmts_residue place statements
  | place, .tryCatch statements none _ _ => stmts_residue place statements
  | place, .tryCatch statements (some _) _ _ => stmts_residue place statements
  | place, .ifThen test yes none => by
    rw [Stmt.residue, stmt, stmt, holdsIn?_settled]
    rcases test.holdsIn? c.mode with _ | _ | _ <;>
      simp [Stmt.blankIf, stmt_residue place yes]
  | place, .ifThen test yes (some no) => by
    rw [Stmt.residue, stmt, stmt, holdsIn?_settled]
    rcases test.holdsIn? c.mode with _ | _ | _ <;>
      simp [Stmt.blankIf, stmt_residue place yes, stmt_residue place no]
  | _, .function _ | _, .class _ _ | _, .return none | _, .return (some _) | _, .other _ _ _ =>
    (rfl : (∅ : Findings) = ∅)

/-- It finds the same in what the mode leaves of a program. -/
theorem stmts_residue : ∀ (place : Place) (statements : List Stmt),
    (c.inMode other).stmts (stmtsResidue c.mode place statements) = c.stmts statements
  | _, [] => rfl
  | place, first :: rest => by
    rw [stmtsResidue, stmts, stmts, stmt_residue place first, stmts_residue place rest]

end

end Context

/-! ## What cannot run does not matter -/

/-- In any mode, the residue is scanned as the program is in the mode that the residue is for. -/
theorem Program.findings_residue (program : Program) (mode other : Mode) (called : Bool) :
    (program.residue mode).findings other called = program.findings mode called := by
  have hbindings : Bindings.ofProgram other (program.residue mode) =
      Bindings.ofProgram mode program := Bindings.stmts_residue other .effect .empty program
  rw [findings, findings, hbindings]
  exact Context.stmts_residue (c := ⟨mode, called, _⟩) .effect program

/-- Programs that differ only in parts that cannot run in a mode have the same residue and the same
findings in it.  A program without `process.env.NODE_ENV` has the same findings in both modes. -/
theorem Program.findings_of_residue_eq (called : Bool) :
    (∀ (mode : Mode) (program other : Program), program.residue mode = other.residue mode →
      program.findings mode called = other.findings mode called) ∧
    ∀ program : Program, ModeFree (stmtsNodes program) →
      program.findings .production called = program.findings .development called := by
  constructor
  · intro mode program other hresidue
    calc program.findings mode called
        = (program.residue mode).findings mode called := (findings_residue ..).symm
      _ = (other.residue mode).findings mode called := by rw [hresidue]
      _ = other.findings mode called := findings_residue ..
  · intro program hfree
    have hresidue : program.residue .production = program.residue .development :=
      hfree.residue_stmts .effect program
    calc program.findings .production called
        = (program.residue .production).findings .production called := (findings_residue ..).symm
      _ = (program.residue .development).findings .production called := by rw [hresidue]
      _ = program.findings .development called := findings_residue ..

/-- `process.env.NODE_ENV === 'production'` -/
def inProduction : Expr := .binary .strictEqual nodeEnv (.literal (.string "production"))

theorem holdsIn?_inProduction : inProduction.holdsIn? .production = some true := rfl

/-- `!function () { if (process.env.NODE_ENV === 'production') exports.a = 1; else branch }()` -/
def choosingBranch (branch : Stmt) : Stmt :=
  .expr (.unary .not (.call (.function (.mk none false false [] [.ifThen inProduction
    (.expr (.assign .plain (.member (.ident "exports") "a") (.literal (.number "1"))))
    (some branch)])) []))

/-- `var x = process.env.NODE_ENV === 'production' || operand;` -/
def choosingOperand (operand : Expr) : Stmt :=
  .declare .var [.mk (.ident "x") (some (.logical .or inProduction operand))]

/-- `module.exports = process.env.NODE_ENV === 'production' ? { b: 1 } : arm;` -/
def choosingArm (arm : Expr) : Stmt :=
  .expr (.assign .plain (.member (.ident "module") "exports") (.conditional inProduction
    (.object [.property (.literal (.string "b")) (.literal (.number "1"))]) arm))

/-- The other branch, the skipped operand and the other arm leave nothing in production. -/
theorem residue_choosing (branch branch' : Stmt) (operand operand' arm arm' : Expr) :
    Program.residue [choosingBranch branch, choosingOperand operand, choosingArm arm] .production =
      Program.residue [choosingBranch branch', choosingOperand operand', choosingArm arm']
        .production := by
  have hbranch : (choosingBranch branch).residue .production .effect =
      (choosingBranch branch').residue .production .effect :=
    congrArg (fun s => Stmt.expr (.unary .not (.call (.function (.mk none false false [] [s])) [])))
      (Stmt.residue_ifElse_of_true holdsIn?_inProduction _ branch branch')
  have hoperand : (choosingOperand operand).residue .production .effect =
      (choosingOperand operand').residue .production .effect :=
    congrArg (fun e => Stmt.declare .var [.mk (.ident "x") (some e)])
      (Expr.residue_logical_of_skips rfl .effect operand operand')
  have harm : (choosingArm arm).residue .production .effect =
      (choosingArm arm').residue .production .effect :=
    congrArg (fun e => Stmt.expr (.assign .plain (.member (.ident "module") "exports") e))
      (Expr.residue_conditional_of_true holdsIn?_inProduction .aside _ arm arm')
  simp only [Program.residue, stmtsResidue, hbranch, hoperand, harm]

/-- `if (flag) exports.a = 1;` -/
def testingFlag : Program :=
  [.ifThen (.ident "flag")
    (.expr (.assign .plain (.member (.ident "exports") "a") (.literal (.number "1")))) none]

/-- A name, a module or nothing at all may stand in the parts that production leaves out, and a
program that tests `flag` alone is scanned alike in both modes. -/
theorem findings_choosing_eq :
    Program.findings [choosingBranch (.expr (.call (.ident "__exportStar")
          [.call (.ident "require") [.literal (.string "m")], .ident "exports"])),
        choosingOperand (.assign .plain (.member (.ident "exports") "c") (.literal .null)),
        choosingArm (.call (.ident "require") [.literal (.string "n")])] .production false =
      Program.findings [choosingBranch (.block []), choosingOperand (.ident "y"),
        choosingArm (.ident "x")] .production false ∧
    ModeFree (stmtsNodes testingFlag) ∧
      testingFlag.findings .production false = testingFlag.findings .development false := by
  have hfree : ModeFree (stmtsNodes testingFlag) := by decide
  refine ⟨?_, hfree, ?_⟩
  · exact (Program.findings_of_residue_eq false).1 .production _ _ (residue_choosing ..)
  · exact (Program.findings_of_residue_eq false).2 testingFlag hfree

end NamedExports.Script
