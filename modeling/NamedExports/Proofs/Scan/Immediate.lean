import NamedExports.Proofs.Scan.Executions
import NamedExports.Scan.Exports

/-!
# Functions that are called where they are written

Both looks at a program go into a function that is called where it is written, as
`(function () { … })()`, `(() => { … }).call(this)` and, without using what it returns,
`!function () { … }()`.  `Expr.immediate?` is that function, and what is followed is its body.
-/

namespace NamedExports.Script

/-- The function that a call runs where it is written, parentheses set aside. -/
def Expr.called? : Expr → Option Code
  | .paren inner => inner.called?
  | .call callee _ => callee.invoked?
  | _ => none

/-- The function that is called where it is written, as `(function () { … })()`,
`!function () { … }()`, `(() => { … }).call(this)` and the like. -/
def Expr.immediate? : Expr → Option Code
  | .paren inner => inner.immediate?
  | .call callee _ => callee.invoked?
  | .unary _ operand => operand.called?
  | _ => none

/-- `(function () { … })()` -/
def immediately (body : List Stmt) : Expr :=
  .call (.paren (.function (.mk none false false [] body))) []

/-! ## Looking for a function that is called -/

/-- Whether a search for a function goes on in an expression. -/
def Expr.leadsOn : Expr → Bool
  | .paren _ | .member _ _ | .function _ | .arrow _ => true
  | _ => false

section Search

variable {α : Type} {body invoked : Expr → Option α} {follow : Code → α}

/-- A search that goes through parentheses into a function, and nowhere else, finds
`Expr.function?`. -/
theorem Expr.eq_map_function? (hparen : ∀ inner, body (.paren inner) = body inner)
    (hmember : ∀ owner name, body (.member owner name) = none)
    (hfunction : ∀ code, body (.function code) = some (follow code))
    (harrow : ∀ code, body (.arrow code) = some (follow code))
    (hother : ∀ e : Expr, e.leadsOn = false → body e = none) (e : Expr) :
    body e = e.function?.map follow := by
  fun_induction Expr.function? e with
  | case1 inner ih => exact (hparen inner).trans ih
  | case2 code => exact hfunction code
  | case3 code => exact harrow code
  | case4 e hnoParen hnoFunction hnoArrow =>
    cases e with
    | paren inner => exact absurd rfl (hnoParen inner)
    | function code => exact absurd rfl (hnoFunction code)
    | arrow code => exact absurd rfl (hnoArrow code)
    | member owner name => exact hmember owner name
    | _ => exact hother _ rfl

/-- A search that also goes into the owner of a `call` or an `apply` finds `Expr.invoked?`. -/
theorem Expr.eq_map_invoked? (hbody : ∀ e, body e = e.function?.map follow)
    (hparen : ∀ inner, invoked (.paren inner) = invoked inner)
    (hmember : ∀ owner name,
      invoked (.member owner name) = if Bindings.callsOwner name then body owner else none)
    (hfunction : ∀ code, invoked (.function code) = some (follow code))
    (harrow : ∀ code, invoked (.arrow code) = some (follow code))
    (hother : ∀ e : Expr, e.leadsOn = false → invoked e = none) (e : Expr) :
    invoked e = e.invoked?.map follow := by
  fun_induction Expr.invoked? e with
  | case1 inner ih => exact (hparen inner).trans ih
  | case2 owner name hname =>
    rw [hmember, Bindings.callsOwner, if_pos (by simpa using hname), hbody]
  | case3 owner name hname =>
    rw [hmember, Bindings.callsOwner, if_neg (by simpa using hname)]
    rfl
  | case4 code => exact hfunction code
  | case5 code => exact harrow code
  | case6 e hnoParen hnoMember hnoFunction hnoArrow =>
    cases e with
    | paren inner => exact absurd rfl (hnoParen inner)
    | member owner name => exact absurd rfl (hnoMember owner name)
    | function code => exact absurd rfl (hnoFunction code)
    | arrow code => exact absurd rfl (hnoArrow code)
    | _ => exact hother _ rfl

end Search

namespace Bindings

variable {mode : Mode} {b : Bindings} {code : Code}

/-- The first look follows the body of the function that an expression is. -/
theorem body_eq_map (mode : Mode) (b : Bindings) (e : Expr) :
    body mode b e = e.function?.map fun code => stmts mode b code.body := by
  refine Expr.eq_map_function? (fun _ => rfl) (fun _ _ => rfl) (fun code => ?_) (fun code => ?_)
    (fun e he => ?_) e
  · cases code; rfl
  · cases code; rfl
  · cases e <;> first | rfl | cases he

/-- The first look follows the body of the function that a callee runs. -/
theorem invoked_eq_map (mode : Mode) (b : Bindings) (e : Expr) :
    invoked mode b e = e.invoked?.map fun code => stmts mode b code.body := by
  refine Expr.eq_map_invoked? (body_eq_map mode b) (fun _ => rfl) (fun _ _ => rfl) (fun code => ?_)
    (fun code => ?_) (fun e he => ?_) e
  · cases code; rfl
  · cases code; rfl
  · cases e <;> first | rfl | cases he

/-- Of an operand the body of the function that is called is followed, and nothing else. -/
theorem negated_eq_map (mode : Mode) (b : Bindings) (e : Expr) :
    negated mode b e = (e.called?.map fun code => stmts mode b code.body).getD b := by
  fun_induction Expr.called? e with
  | case1 inner ih => exact ih
  | case2 callee args => rw [negated, invoked_eq_map]
  | case3 e hparen hcall =>
    cases e with
    | paren inner => exact absurd rfl (hparen inner)
    | call callee args => exact absurd rfl (hcall callee args)
    | _ => rfl

/-- The body of the function is followed in place of the call. -/
theorem expr_of_immediate? {e : Expr} (h : e.immediate? = some code) :
    expr mode b e = stmts mode b code.body := by
  fun_induction Expr.immediate? e with
  | case1 inner ih => exact ih h
  | case2 callee args =>
    rw [expr, invoked_eq_map, h]
    rfl
  | case3 op operand =>
    rw [expr, negated_eq_map, h]
    rfl
  | case4 => cases h

end Bindings

namespace Context

variable {c : Context} {code : Code}

/-- The second look follows the body of the function that an expression is. -/
theorem body_eq_map (c : Context) (e : Expr) :
    c.body e = e.function?.map fun code => c.stmts code.body := by
  refine Expr.eq_map_function? (fun _ => rfl) (fun _ _ => rfl) (fun code => ?_) (fun code => ?_)
    (fun e he => ?_) e
  · cases code; rfl
  · cases code; rfl
  · cases e <;> first | rfl | cases he

/-- The second look follows the body of the function that a callee runs. -/
theorem invoked_eq_map (c : Context) (e : Expr) :
    c.invoked e = e.invoked?.map fun code => c.stmts code.body := by
  refine Expr.eq_map_invoked? (body_eq_map c) (fun _ => rfl) (fun _ _ => rfl) (fun code => ?_)
    (fun code => ?_) (fun e he => ?_) e
  · cases code; rfl
  · cases code; rfl
  · cases e <;> first | rfl | cases he

theorem expr_of_called? {e : Expr} (h : e.called? = some code) : c.expr e = c.stmts code.body := by
  fun_induction Expr.called? e with
  | case1 inner ih => exact ih h
  | case2 callee args =>
    rw [expr, invoked_eq_map, h]
    rfl
  | case3 => cases h

theorem expr_of_immediate? {e : Expr} (h : e.immediate? = some code) :
    c.expr e = c.stmts code.body := by
  fun_induction Expr.immediate? e with
  | case1 inner ih => exact ih h
  | case2 callee args =>
    rw [expr, invoked_eq_map, h]
    rfl
  | case3 op operand => exact (expr_of_called? h : c.expr operand = _)
  | case4 => cases h

theorem expr_immediately (body : List Stmt) : c.expr (immediately body) = c.stmts body := rfl

end Context

end NamedExports.Script
