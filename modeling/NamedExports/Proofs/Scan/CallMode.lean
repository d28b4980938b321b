import NamedExports.Proofs.Scan.Untouched

/-!
# Scans for a call

When a module is required in order to be called, only the value given to `module.exports` is to
count.  Assignments to properties, `Object.defineProperty` and `Object.assign` heed that, and two
kinds of calls do not: a helper that is handed the exports and an object literal, and
`Object.keys(x).forEach` over a name whose keys are known.  `exports_findings_called` says that the
names found in a program that gives nothing to `module.exports` are exactly those of such calls.
-/

namespace NamedExports.Script

/-- Whether an expression is an assignment to `module.exports` itself. -/
def Expr.givesModule : Expr → Bool
  | .assign _ target _ => target.isModuleExportsTarget
  | _ => false

/-- No expression of a list is an assignment to `module.exports`. -/
def GivesNothing (nodes : List Expr) : Prop := ∀ e ∈ nodes, e.givesModule = false

instance (nodes : List Expr) : Decidable (GivesNothing nodes) :=
  inferInstanceAs (Decidable (∀ e ∈ nodes, e.givesModule = false))

/-- What gives the module nothing has no part that does. -/
theorem GivesNothing.mono {nodes more : List Expr} (h : GivesNothing more) (hsub : nodes ⊆ more) :
    GivesNothing nodes :=
  fun e he => h e (hsub he)

/-! ## The names of calls that do not ask what the scan is for -/

/-- The keys that a helper is handed for the exports, as in `__export(exports, { a: … })`. -/
def handedKeys (args : List Expr) : List String :=
  match firstValue? args, secondValue? args with
  | some target, some (.object members) =>
    if target.isExportsObject then staticKeys members else []
  | _, _ => []

namespace Context

/-- The keys that are known of a name, unless it holds a required module. -/
def copiedKeys (c : Context) (source : Expr) : List String :=
  match c.requiredBy? source with
  | some _ => []
  | none => ((source.identName?.bind c.lookup).map Binding.keys).getD []

/-- The names that an assignment or a call puts on the exports whatever the scan is for. -/
def unguarded (c : Context) : Expr → List String
  | .call callee args =>
    if callee.calleeName?.any reexportHelpers.contains then handedKeys args
    else ((iteratedKeys? callee).map c.copiedKeys).getD []
  | _ => []

variable {c : Context}

/-- A spread exports the keys that it copies. -/
theorem exports_spread (source : Expr) : (c.spread source).exports = c.copiedKeys source := by
  rw [spread, copiedKeys]
  cases c.requiredBy? source with
  | some specifier => rfl
  | none =>
    cases source.identName?.bind c.lookup with
    | none => rfl
    | some binding =>
      have hmodules : (Findings.join
          (binding.reexports.map (Findings.reexport · false))).exports = [] := by
        simp [Findings.exports_join]
      simp [hmodules]

/-- A call of an interop helper exports the keys that it is handed. -/
theorem exports_helperCall (args : List Expr) : (c.helperCall args).exports = handedKeys args := by
  rw [helperCall, handedKeys, Findings.exports_append, Findings.exports_join, List.flatMap_map]
  -- each value gives a module or nothing, so the names are those of the literal
  refine (congrArg (· ++ _) (List.flatMap_eq_nil_iff.mpr fun arg _ => ?_)).trans ?_
  · cases c.requiredBy? arg <;> rfl
  rw [List.nil_append]
  cases firstValue? args with
  | none => rfl
  | some target =>
    cases secondValue? args with
    | none => rfl
    | some second =>
      cases second with
      | object members =>
        by_cases htarget : target.isExportsObject = true <;> simp [htarget]
      | _ => rfl

/-! ## What a scan for a call finds -/

/-- In call mode an assignment that does not give the module finds nothing. -/
theorem assign_of_called (hcalled : c.called = true) {op : AssignOp} {target right : Expr}
    (h : (Expr.assign op target right).givesModule = false) : c.assign target right = ∅ := by
  have htarget : target.isModuleExportsTarget = false := h
  rw [assign, htarget, if_neg Bool.false_ne_true, hcalled]
  cases target.propertyTarget? <;> rfl

/-- Nor does a chain of such assignments. -/
theorem chain_of_called (hcalled : c.called = true) {e : Expr} (h : GivesNothing e.nodes) :
    c.chain e = ∅ := by
  fun_induction chain c e with
  | case1 inner ih => exact ih (h.mono (List.subset_cons_self _ _))
  | case2 op target right ih =>
    have hassign : c.assign target right = ∅ :=
      assign_of_called hcalled (h (.assign op target right) List.mem_cons_self)
    rw [hassign, ih (h.mono (Expr.nodes_right_subset op target right)), Findings.append_empty]
  | case3 e => rfl

/-- In call mode a call exports what the branches without a guard add. -/
theorem exports_call_of_called (hcalled : c.called = true) (callee : Expr) (args : List Expr) :
    (c.call callee args).exports = c.unguarded (.call callee args) := by
  rw [call, unguarded]
  by_cases hdefine : callee.isMemberOf "Object" "defineProperty" = true
  · have hhelper : callee.calleeName?.any reexportHelpers.contains = false := by
      rw [Expr.calleeName?_of_isMemberOf hdefine]
      decide
    rw [if_pos hdefine, hhelper, iteratedKeys?_of_isMemberOf hdefine (by decide), hcalled]
    split <;> rfl
  rw [if_neg hdefine]
  by_cases hassign : callee.isMemberOf "Object" "assign" = true
  · have hhelper : callee.calleeName?.any reexportHelpers.contains = false := by
      rw [Expr.calleeName?_of_isMemberOf hassign]
      decide
    rw [if_pos hassign, hhelper, iteratedKeys?_of_isMemberOf hassign (by decide), hcalled]
    simp
  rw [if_neg hassign]
  by_cases hhelper : callee.calleeName?.any reexportHelpers.contains = true
  · rw [if_pos hhelper, if_pos hhelper, exports_helperCall]
  · rw [if_neg hhelper, if_neg hhelper]
    cases iteratedKeys? callee with
    | none => rfl
    | some source => exact exports_spread source

/-- So does an expression that gives the module nothing. -/
theorem exports_effect_of_called (hcalled : c.called = true) {e : Expr}
    (h : GivesNothing e.nodes) : (c.effect e).exports = c.unguarded e := by
  cases e with
  | assign op target right =>
    have hassign : c.assign target right = ∅ :=
      assign_of_called hcalled (h (.assign op target right) List.mem_cons_self)
    have hchain : c.chain right = ∅ :=
      chain_of_called hcalled (h.mono (Expr.nodes_right_subset op target right))
    rw [effect, hassign, hchain]
    rfl
  | call callee args => exact exports_call_of_called hcalled callee args
  | _ => rfl

/-- Of a program that gives nothing to `module.exports`, a scan for a call finds the names of calls
that do not ask what the scan is for. -/
theorem exports_stmts_of_called (hcalled : c.called = true) {program : Program}
    (h : GivesNothing (stmtsNodes program)) :
    (c.stmts program).exports = (c.stmtsReached program).flatMap c.unguarded := by
  rw [stmts_eq_effects, effects, Findings.exports_join, List.flatMap_map]
  rw [List.flatMap_def, List.flatMap_def]
  refine congrArg List.flatten (List.map_congr_left fun e he => ?_)
  exact exports_effect_of_called hcalled (h.mono (stmtsReached_within program e he))

/-- A call adds no name to what a scan for a call finds: as a helper it is handed no keys for the
exports, and as a loop over keys it is over nothing whose keys are known. -/
structure AddsNothing (c : Context) (callee : Expr) (args : List Expr) : Prop where
  helper : callee.calleeName?.any reexportHelpers.contains = true → handedKeys args = []
  loop : ∀ source, iteratedKeys? callee = some source → c.copiedKeys source = []

/-- These branches add nothing to a call exactly if the conditions of `AddsNothing` hold. -/
theorem unguarded_call_eq_nil_iff {callee : Expr} {args : List Expr} :
    c.unguarded (.call callee args) = [] ↔ c.AddsNothing callee args := by
  rw [unguarded]
  by_cases hhelper : callee.calleeName?.any reexportHelpers.contains = true
  · -- a helper is not called `forEach`
    have hloop : iteratedKeys? callee = none := by
      rw [Option.eq_none_iff_forall_ne_some]
      intro source hsource
      rw [Expr.calleeName?_of_iteratedKeys? hsource] at hhelper
      cases hhelper
    rw [if_pos hhelper]
    constructor
    · intro hkeys
      exact ⟨fun _ => hkeys, fun source hsource => by simp [hloop] at hsource⟩
    · intro h
      exact h.helper hhelper
  · rw [if_neg hhelper]
    constructor
    · intro hkeys
      refine ⟨fun h => absurd h hhelper, fun source hsource => ?_⟩
      rw [hsource] at hkeys
      exact hkeys
    · intro h
      cases hsource : iteratedKeys? callee with
      | none => rfl
      | some source => exact h.loop source hsource

end Context

/-- In a scan for a call, the names found in a program that gives nothing to `module.exports` are
those of reached calls that do not ask what the scan is for.  So there are none exactly if every
reached call adds none. -/
theorem Program.exports_findings_called {program : Program}
    (h : GivesNothing (stmtsNodes program)) (mode : Mode) :
    (program.findings mode true).exports =
        ((program.context mode true).stmtsReached program).flatMap
          (program.context mode true).unguarded ∧
      ((program.findings mode true).exports = [] ↔
        ∀ callee args, .call callee args ∈ (program.context mode true).stmtsReached program →
          (program.context mode true).AddsNothing callee args) := by
  have hfound : (program.findings mode true).exports =
      ((program.context mode true).stmtsReached program).flatMap
        (program.context mode true).unguarded :=
    Context.exports_stmts_of_called (c := program.context mode true) rfl h
  refine ⟨hfound, ?_⟩
  rw [hfound, List.flatMap_eq_nil_iff]
  constructor
  · intro hnone callee args hcall
    exact Context.unguarded_call_eq_nil_iff.mp (hnone _ hcall)
  · intro hcalls e he
    cases e with
    | call callee args => exact Context.unguarded_call_eq_nil_iff.mpr (hcalls callee args he)
    | _ => rfl

/-- `exports.a = 1; Object.defineProperty(exports, 'b', {}); Object.assign(exports, { c: 1 });` -/
def addingProperties : Program :=
  [.expr (.assign .plain (.member (.ident "exports") "a") (.literal (.number "1"))),
    .expr (.call (.member (.ident "Object") "defineProperty")
      [.ident "exports", .literal (.string "b"), .object []]),
    .expr (.call (.member (.ident "Object") "assign") [.ident "exports",
      .object [.property (.literal (.string "c")) (.literal (.number "1"))]])]

/-- None of these names counts in a scan for a call. -/
theorem exports_findings_addingProperties :
    GivesNothing (stmtsNodes addingProperties) ∧
      (addingProperties.findings .production true).exports = [] := by
  have hgives : GivesNothing (stmtsNodes addingProperties) := by decide
  refine ⟨hgives, ?_⟩
  rw [(Program.exports_findings_called hgives .production).1]
  rfl

/-- `__export(exports, { a: f });` -/
def exportingGetters : Program :=
  [.expr (.call (.ident "__export")
    [.ident "exports", .object [.property (.literal (.string "a")) (.ident "f")]])]

/-- The helper's key and the key of the object whose keys are looped over are found in a scan for a
call, though neither program gives anything to `module.exports`. -/
theorem exports_findings_called_ne_nil :
    GivesNothing (stmtsNodes exportingGetters) ∧
      (exportingGetters.findings .production true).exports ≠ [] ∧
    GivesNothing (stmtsNodes loggingKnown) ∧
      (loggingKnown.findings .production true).exports ≠ [] := by
  have hhelper : (exportingGetters.findings .production true).exports = ["a"] := rfl
  have hloop : (loggingKnown.findings .production true).exports = ["a"] := rfl
  rw [hhelper, hloop]
  exact ⟨by decide, List.cons_ne_nil _ _, by decide, List.cons_ne_nil _ _⟩

end NamedExports.Script
