import NamedExports.Proofs.Scan.Findings
import NamedExports.Proofs.Script.Standing

/-!
# What a scan reaches

A scan walks down to assignments and calls, and it finds what these export one after the other.
Which of them it reaches depends on the mode alone, and they all stand in the program.
-/

namespace NamedExports.Script.Context

variable {c : Context}

/-- What an assignment or a call exports by itself. -/
def effect (c : Context) : Expr → Findings
  | .assign _ target right => c.assign target right ++ c.chain right
  | .call callee args => c.call callee args
  | _ => ∅

/-- What assignments and calls export in order. -/
def effects (c : Context) (reached : List Expr) : Findings := .join (reached.map c.effect)

@[simp] theorem effects_nil : c.effects [] = ∅ := rfl

@[simp] theorem effects_singleton (e : Expr) : c.effects [e] = c.effect e :=
  Findings.append_empty _

/-- What some expressions export one after the other is exported by each part in turn. -/
@[simp] theorem effects_append (front back : List Expr) :
    c.effects (front ++ back) = c.effects front ++ c.effects back := by
  rw [effects, List.map_append, Findings.join_append]
  rfl

mutual

/-- The assignments and calls that the scan of an expression comes to. -/
def reached (c : Context) : Expr → List Expr
  | .paren inner => reached c inner
  | .assign op target right => [.assign op target right]
  | .call callee args =>
    match invokedReached c callee with
    | some found => found
    | none => [.call callee args]
  | .sequence items => exprsReached c items
  | .conditional test yes no =>
    match test.holdsIn? c.mode with
    | some true => reached c yes
    | some false => reached c no
    | none => reached c yes ++ reached c no
  | .logical op left right => if c.skipsRight op left then [] else reached c right
  | .unary _ operand => reached c operand
  | _ => []

/-- Those of a function's body, for a function that is called where it is written. -/
def invokedReached (c : Context) : Expr → Option (List Expr)
  | .paren inner => invokedReached c inner
  | .member owner name => if Bindings.callsOwner name then bodyReached c owner else none
  | .function (.mk _ _ _ _ statements) => some (stmtsReached c statements)
  | .arrow (.mk _ _ _ _ statements) => some (stmtsReached c statements)
  | _ => none

/-- Those of a function's body. -/
def bodyReached (c : Context) : Expr → Option (List Expr)
  | .paren inner => bodyReached c inner
  | .function (.mk _ _ _ _ statements) => some (stmtsReached c statements)
  | .arrow (.mk _ _ _ _ statements) => some (stmtsReached c statements)
  | _ => none

/-- Those of expressions in order. -/
def exprsReached (c : Context) : List Expr → List Expr
  | [] => []
  | first :: rest => reached c first ++ exprsReached c rest

/-- Those of the initial values of declared variables. -/
def declaratorsReached (c : Context) : List Declarator → List Expr
  | [] => []
  | .mk _ none :: rest => declaratorsReached c rest
  | .mk _ (some init) :: rest => reached c init ++ declaratorsReached c rest

/-- Those of a statement. -/
def stmtReached (c : Context) : Stmt → List Expr
  | .expr e => reached c e
  | .declare _ items => declaratorsReached c items
  | .block statements => stmtsReached c statements
  | .tryCatch statements _ _ _ => stmtsReached c statements
  | .ifThen test yes none =>
    if test.holdsIn? c.mode == some false then [] else stmtReached c yes
  | .ifThen test yes (some no) =>
    match test.holdsIn? c.mode with
    | some true => stmtReached c yes
    | some false => stmtReached c no
    | none => stmtReached c yes ++ stmtReached c no
  | _ => []

/-- Those of statements in order. -/
def stmtsReached (c : Context) : List Stmt → List Expr
  | [] => []
  | first :: rest => stmtReached c first ++ stmtsReached c rest

end

/-! ## Findings are those of what is reached -/

mutual

/-- What a scan finds in an expression is what is reached in it exports. -/
theorem expr_eq_effects : ∀ e : Expr, c.expr e = c.effects (c.reached e)
  | .paren inner => expr_eq_effects inner
  | .assign op target right => (effects_singleton (.assign op target right)).symm
  | .call callee args => by
    rw [expr, reached, invoked_eq_effects callee]
    cases c.invokedReached callee with
    | none => exact (effects_singleton (.call callee args)).symm
    | some found => rfl
  | .sequence items => exprs_eq_effects items
  | .conditional test yes no => by
    rw [expr, reached, expr_eq_effects yes, expr_eq_effects no]
    cases test.holdsIn? c.mode with
    | none => exact (effects_append _ _).symm
    | some holds => cases holds <;> rfl
  | .logical op left right => by
    rw [expr, reached, expr_eq_effects right]
    split <;> rfl
  | .unary _ operand => expr_eq_effects operand
  | .ident _ | .literal _ | .object _ | .function _ | .arrow _ | .arrowValue _ _ _ | .binary _ _ _
  | .member _ _ | .index _ _ | .spread _ | .chain _ | .other _ _ => rfl

/-- So it is in a function that is called where it is written. -/
theorem invoked_eq_effects : ∀ e : Expr, c.invoked e = (c.invokedReached e).map c.effects
  | .paren inner => invoked_eq_effects inner
  | .member owner name => by
    rw [invoked, invokedReached, body_eq_effects owner]
    split <;> rfl
  | .function (.mk _ _ _ _ statements) => congrArg some (stmts_eq_effects statements)
  | .arrow (.mk _ _ _ _ statements) => congrArg some (stmts_eq_effects statements)
  | .ident _ | .literal _ | .object _ | .arrowValue _ _ _ | .unary _ _ | .binary _ _ _
  | .logical _ _ _ | .conditional _ _ _ | .assign _ _ _ | .sequence _ | .index _ _ | .call _ _
  | .spread _ | .chain _ | .other _ _ => rfl

/-- So it is in the owner of a `.call`. -/
theorem body_eq_effects : ∀ e : Expr, c.body e = (c.bodyReached e).map c.effects
  | .paren inner => body_eq_effects inner
  | .function (.mk _ _ _ _ statements) => congrArg some (stmts_eq_effects statements)
  | .arrow (.mk _ _ _ _ statements) => congrArg some (stmts_eq_effects statements)
  | .ident _ | .literal _ | .object _ | .arrowValue _ _ _ | .unary _ _ | .binary _ _ _
  | .logical _ _ _ | .conditional _ _ _ | .assign _ _ _ | .sequence _ | .member _ _ | .index _ _
  | .call _ _ | .spread _ | .chain _ | .other _ _ => rfl

theorem exprs_eq_effects : ∀ items : List Expr, c.exprs items = c.effects (c.exprsReached items)
  | [] => rfl
  | first :: rest => by
    rw [exprs, exprsReached, effects_append, expr_eq_effects first, exprs_eq_effects rest]

/-- So it is in declarations. -/
theorem declarators_eq_effects :
    ∀ items : List Declarator, c.declarators items = c.effects (c.declaratorsReached items)
  | [] => rfl
  | .mk _ none :: rest => declarators_eq_effects rest
  | .mk _ (some init) :: rest => by
    rw [declarators, declaratorsReached, effects_append, expr_eq_effects init,
      declarators_eq_effects rest]

/-- So it is in a statement. -/
theorem stmt_eq_effects : ∀ s : Stmt, c.stmt s = c.effects (c.stmtReached s)
  | .expr e => expr_eq_effects e
  | .declare _ items => declarators_eq_effects items
  | .block statements => stmts_eq_effects statements
  | .tryCatch statements _ _ _ => stmts_eq_effects statements
  | .ifThen test yes none => by
    rw [stmt, stmtReached, stmt_eq_effects yes]
    split <;> rfl
  | .ifThen test yes (some no) => by
    rw [stmt, stmtReached, stmt_eq_effects yes, stmt_eq_effects no]
    cases test.holdsIn? c.mode with
    | none => exact (effects_append _ _).symm
    | some holds => cases holds <;> rfl
  | .function _ | .class _ _ | .return _ | .other _ _ _ => rfl

/-- So it is in a program: its findings are what the assignments and calls that are reached
export. -/
theorem stmts_eq_effects :
    ∀ statements : List Stmt, c.stmts statements = c.effects (c.stmtsReached statements)
  | [] => rfl
  | first :: rest => by
    rw [stmts, stmtsReached, effects_append, stmt_eq_effects first, stmts_eq_effects rest]

end

/-! ## What is reached stands in the program -/

section Standing

variable {program : Program}

mutual

/-- What is reached from an expression of the program stands in the program. -/
theorem reached_stands : ∀ {e : Expr}, HasExpr program e →
    ∀ found ∈ c.reached e, HasExpr program found
  | .paren inner, h, found, hfound => reached_stands h.ofParen found hfound
  | .assign op target right, h, found, hfound => by
    rw [List.mem_singleton.mp hfound]
    exact h
  | .call callee args, h, found, hfound => by
    rw [reached] at hfound
    cases hfollow : c.invokedReached callee with
    | none =>
      rw [hfollow] at hfound
      rw [List.mem_singleton.mp hfound]
      exact h
    | some more =>
      rw [hfollow] at hfound
      exact invokedReached_stands h.callee more hfollow found hfound
  | .sequence items, h, found, hfound =>
    exprsReached_stands items (fun _ hitem => h.operand hitem) found hfound
  | .conditional test yes no, h, found, hfound => by
    have hyes : HasExpr program yes := h.operand (by simp [Expr.operands])
    have hno : HasExpr program no := h.operand (by simp [Expr.operands])
    rw [reached] at hfound
    split at hfound
    · exact reached_stands hyes found hfound
    · exact reached_stands hno found hfound
    · rcases List.mem_append.mp hfound with hfound | hfound
      · exact reached_stands hyes found hfound
      · exact reached_stands hno found hfound
  | .logical op left right, h, found, hfound => by
    have hright : HasExpr program right := h.operand (by simp [Expr.operands])
    rw [reached] at hfound
    split at hfound
    · cases hfound
    · exact reached_stands hright found hfound
  | .unary _ operand, h, found, hfound =>
    reached_stands (h.operand List.mem_cons_self) found hfound

theorem invokedReached_stands : ∀ {e : Expr}, HasExpr program e →
    ∀ more, c.invokedReached e = some more → ∀ found ∈ more, HasExpr program found
  | .paren inner, h, more, hmore => invokedReached_stands h.ofParen more hmore
  | .member owner name, h, more, hmore => by
    rw [invokedReached] at hmore
    split at hmore
    · exact bodyReached_stands (h.operand List.mem_cons_self) more hmore
    · cases hmore
  | .function (.mk _ _ _ _ statements), h, _, rfl =>
    stmtsReached_stands statements fun _ hs => .body h hs
  | .arrow (.mk _ _ _ _ statements), h, _, rfl =>
    stmtsReached_stands statements fun _ hs => .body h hs

theorem bodyReached_stands : ∀ {e : Expr}, HasExpr program e →
    ∀ more, c.bodyReached e = some more → ∀ found ∈ more, HasExpr program found
  | .paren inner, h, more, hmore => bodyReached_stands h.ofParen more hmore
  | .function (.mk _ _ _ _ statements), h, _, rfl =>
    stmtsReached_stands statements fun _ hs => .body h hs
  | .arrow (.mk _ _ _ _ statements), h, _, rfl =>
    stmtsReached_stands statements fun _ hs => .body h hs

theorem exprsReached_stands : ∀ items : List Expr, (∀ item ∈ items, HasExpr program item) →
    ∀ found ∈ c.exprsReached items, HasExpr program found
  | first :: rest, h, found, hfound => by
    rw [List.forall_mem_cons] at h
    rcases List.mem_append.mp hfound with hfound | hfound
    · exact reached_stands h.1 found hfound
    · exact exprsReached_stands rest h.2 found hfound

theorem declaratorsReached_stands : ∀ items : List Declarator,
    (∀ item ∈ items, ∀ init, item.init? = some init → HasExpr program init) →
    ∀ found ∈ c.declaratorsReached items, HasExpr program found
  | .mk _ none :: rest, h, found, hfound => by
    rw [List.forall_mem_cons] at h
    exact declaratorsReached_stands rest h.2 found hfound
  | .mk _ (some init) :: rest, h, found, hfound => by
    rw [List.forall_mem_cons] at h
    rcases List.mem_append.mp hfound with hfound | hfound
    · exact reached_stands (h.1 init rfl) found hfound
    · exact declaratorsReached_stands rest h.2 found hfound

/-- What is reached from a statement of the program stands in the program. -/
theorem stmtReached_stands : ∀ {s : Stmt}, HasStmt program s →
    ∀ found ∈ c.stmtReached s, HasExpr program found
  | .expr _, h, found, hfound => reached_stands (.evaluated h List.mem_cons_self) found hfound
  | .declare _ items, h, found, hfound =>
    declaratorsReached_stands items (fun _ hitem _ hinit => h.initial hitem hinit) found hfound
  | .block statements, h, found, hfound =>
    stmtsReached_stands statements (fun _ hpart => .part h hpart) found hfound
  | .tryCatch statements _ handler finalizer, h, found, hfound => by
    refine stmtsReached_stands statements (fun s hs => .part h ?_) found hfound
    exact List.mem_append_left finalizer (List.mem_append_left handler hs)
  | .ifThen test yes none, h, found, hfound => by
    rw [stmtReached] at hfound
    split at hfound
    · cases hfound
    · exact stmtReached_stands (.part h List.mem_cons_self) found hfound
  | .ifThen test yes (some no), h, found, hfound => by
    have hyes : HasStmt program yes := .part h List.mem_cons_self
    have hno : HasStmt program no := .part h (List.mem_cons_of_mem yes List.mem_cons_self)
    rw [stmtReached] at hfound
    split at hfound
    · exact stmtReached_stands hyes found hfound
    · exact stmtReached_stands hno found hfound
    · rcases List.mem_append.mp hfound with hfound | hfound
      · exact stmtReached_stands hyes found hfound
      · exact stmtReached_stands hno found hfound

/-- What is reached from statements of the program stands in the program. -/
theorem stmtsReached_stands : ∀ statements : List Stmt, (∀ s ∈ statements, HasStmt program s) →
    ∀ found ∈ c.stmtsReached statements, HasExpr program found
  | first :: rest, h, found, hfound => by
    rw [List.forall_mem_cons] at h
    rcases List.mem_append.mp hfound with hfound | hfound
    · exact stmtReached_stands h.1 found hfound
    · exact stmtsReached_stands rest h.2 found hfound

end

/-- Nothing is reached but what stands in the program with all its parts. -/
theorem stmtsReached_within (program : Program) :
    ∀ e ∈ c.stmtsReached program, e.nodes ⊆ stmtsNodes program :=
  fun e he => (stmtsReached_stands program (fun _ hs => .top hs) e he).nodes_subset

/-- So does what `Object.keys(…).forEach` iterates over. -/
theorem iteratedKeys?_stands {callee source : Expr} (h : HasExpr program callee)
    (hsource : iteratedKeys? callee = some source) : HasExpr program source := by
  have hcallee := h.withoutParens
  rw [iteratedKeys?] at hsource
  split at hsource
  · rename_i owner hshape
    rw [hshape] at hcallee
    have howner : HasExpr program owner.withoutParens :=
      (hcallee.operand List.mem_cons_self).withoutParens
    split at hsource
    · rename_i keys args hkeys
      rw [hkeys] at howner
      split at hsource
      · exact howner.arg (mem_of_firstValue? hsource)
      · cases hsource
    · cases hsource
  · cases hsource

end Standing

/-! ## What is reached depends on the mode alone -/

section Mode

variable {d : Context}

/-- Scans in the same mode skip the same right operands. -/
theorem skipsRight_congr (h : c.mode = d.mode) (op : LogicalOp) (left : Expr) :
    c.skipsRight op left = d.skipsRight op left := by
  unfold skipsRight
  rw [h]

-- where nothing is followed, the common value is named, so that each side is computed by itself
mutual

/-- Scans in the same mode reach the same from an expression, whatever they know. -/
theorem reached_congr (h : c.mode = d.mode) : ∀ e : Expr, c.reached e = d.reached e
  | .paren inner => reached_congr h inner
  | .assign op target right => (rfl : [Expr.assign op target right] = _)
  | .call callee args => by rw [reached, reached, invokedReached_congr h callee]
  | .sequence items => exprsReached_congr h items
  | .conditional test yes no => by
    rw [reached, reached, h, reached_congr h yes, reached_congr h no]
  | .logical op left right => by
    rw [reached, reached, skipsRight_congr h, reached_congr h right]
  | .unary _ operand => reached_congr h operand
  | .ident _ | .literal _ | .object _ | .function _ | .arrow _ | .arrowValue _ _ _ | .binary _ _ _
  | .member _ _ | .index _ _ | .spread _ | .chain _ | .other _ _ => (rfl : [] = [])

theorem invokedReached_congr (h : c.mode = d.mode) :
    ∀ e : Expr, c.invokedReached e = d.invokedReached e
  | .paren inner => invokedReached_congr h inner
  | .member owner name => by rw [invokedReached, invokedReached, bodyReached_congr h owner]
  | .function (.mk _ _ _ _ statements) => congrArg some (stmtsReached_congr h statements)
  | .arrow (.mk _ _ _ _ statements) => congrArg some (stmtsReached_congr h statements)
  | .ident _ | .literal _ | .object _ | .arrowValue _ _ _ | .unary _ _ | .binary _ _ _
  | .logical _ _ _ | .conditional _ _ _ | .assign _ _ _ | .sequence _ | .index _ _ | .call _ _
  | .spread _ | .chain _ | .other _ _ => (rfl : none = none)

theorem bodyReached_congr (h : c.mode = d.mode) : ∀ e : Expr, c.bodyReached e = d.bodyReached e
  | .paren inner => bodyReached_congr h inner
  | .function (.mk _ _ _ _ statements) => congrArg some (stmtsReached_congr h statements)
  | .arrow (.mk _ _ _ _ statements) => congrArg some (stmtsReached_congr h statements)
  | .ident _ | .literal _ | .object _ | .arrowValue _ _ _ | .unary _ _ | .binary _ _ _
  | .logical _ _ _ | .conditional _ _ _ | .assign _ _ _ | .sequence _ | .member _ _ | .index _ _
  | .call _ _ | .spread _ | .chain _ | .other _ _ => (rfl : none = none)

theorem exprsReached_congr (h : c.mode = d.mode) :
    ∀ items : List Expr, c.exprsReached items = d.exprsReached items
  | [] => rfl
  | first :: rest => by
    rw [exprsReached, exprsReached, reached_congr h first, exprsReached_congr h rest]

theorem declaratorsReached_congr (h : c.mode = d.mode) :
    ∀ items : List Declarator, c.declaratorsReached items = d.declaratorsReached items
  | [] => rfl
  | .mk _ none :: rest => declaratorsReached_congr h rest
  | .mk _ (some init) :: rest => by
    rw [declaratorsReached, declaratorsReached, reached_congr h init,
      declaratorsReached_congr h rest]

/-- Scans in the same mode reach the same from a statement. -/
theorem stmtReached_congr (h : c.mode = d.mode) : ∀ s : Stmt, c.stmtReached s = d.stmtReached s
  | .expr e => reached_congr h e
  | .declare _ items => declaratorsReached_congr h items
  | .block statements => stmtsReached_congr h statements
  | .tryCatch statements _ _ _ => stmtsReached_congr h statements
  | .ifThen test yes none => by rw [stmtReached, stmtReached, h, stmtReached_congr h yes]
  | .ifThen test yes (some no) => by
    rw [stmtReached, stmtReached, h, stmtReached_congr h yes, stmtReached_congr h no]
  | .function _ | .class _ _ | .return _ | .other _ _ _ => (rfl : [] = [])

/-- Scans in the same mode reach the same in a program. -/
theorem stmtsReached_congr (h : c.mode = d.mode) :
    ∀ statements : List Stmt, c.stmtsReached statements = d.stmtsReached statements
  | [] => rfl
  | first :: rest => by
    rw [stmtsReached, stmtsReached, stmtReached_congr h first, stmtsReached_congr h rest]

end

end Mode

end NamedExports.Script.Context
