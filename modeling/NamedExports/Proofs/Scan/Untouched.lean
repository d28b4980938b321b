import NamedExports.Proofs.Scan.Reached
import NamedExports.Proofs.Scan.Shape

/-!
# Programs that leave their exports alone

A program that names neither `exports` nor `module` and calls no helper that copies exports has, by
itself, no exports.  A scan of it still finds something where it calls `Object.keys(x).forEach`: it
takes every such call for a copy onto the exports, whatever the callback does.
`findings_eq_empty_iff_of_untouched` says that this is the only way, and when it finds nothing.
-/

namespace NamedExports.Script

/-- Whether an expression touches the exports by itself: as the name of an object that holds them,
or as the call of a helper that copies them. -/
def Expr.touchesExports : Expr → Bool
  | .ident name => name == "exports" || name == "module"
  | .call callee _ => callee.calleeName?.any reexportHelpers.contains
  | _ => false

/-- No expression of a list touches the exports. -/
def Untouched (nodes : List Expr) : Prop := ∀ e ∈ nodes, e.touchesExports = false

instance (nodes : List Expr) : Decidable (Untouched nodes) :=
  inferInstanceAs (Decidable (∀ e ∈ nodes, e.touchesExports = false))

/-- What does not touch the exports object has no part that does. -/
theorem Untouched.mono {nodes more : List Expr} (h : Untouched more) (hsub : nodes ⊆ more) :
    Untouched nodes :=
  fun e he => h e (hsub he)

/-! ## Shapes that mention the exports -/

namespace Expr

variable {e : Expr} {name : String}

/-- A name that may stand for the exports is not there. -/
theorem identName?_ne_of_untouched (h : Untouched e.nodes)
    (hname : name = "exports" ∨ name = "module") : e.identName? ≠ some name := by
  intro hident
  have htouch := h _ (ident_mem_nodes_of_identName? hident)
  rcases hname with rfl | rfl <;> simp [touchesExports] at htouch

/-- Such an expression does not denote the exports object. -/
theorem isExportsObject_of_untouched (h : Untouched e.nodes) : e.isExportsObject = false := by
  rw [isExportsObject, Bool.or_eq_false_iff]
  constructor
  · rw [beq_eq_false_iff_ne]
    exact identName?_ne_of_untouched h (Or.inl rfl)
  · rw [isModuleExports, ← Bool.not_eq_true]
    intro hmember
    obtain ⟨base, hshape, hbase⟩ := exists_member_of_isMemberOf hmember
    have hsub : base.nodes ⊆ e.nodes := by
      refine List.Subset.trans ?_ (nodes_withoutParens_subset e)
      rw [hshape]
      exact List.subset_cons_self _ _
    exact identName?_ne_of_untouched (h.mono hsub) (Or.inr rfl) hbase

/-- Nor does it denote `module.exports`. -/
theorem isModuleExportsTarget_of_untouched (h : Untouched e.nodes) :
    e.isModuleExportsTarget = false := by
  cases e with
  | member base found =>
    rw [isModuleExportsTarget, Bool.and_eq_false_iff, beq_eq_false_iff_ne (a := base.identName?)]
    exact Or.inr
      (identName?_ne_of_untouched (h.mono (List.subset_cons_self _ _)) (Or.inr rfl))
  | _ => rfl

end Expr

/-- The expression whose keys a call iterates over. -/
def Expr.iterated? : Expr → Option Expr
  | .call callee _ => Context.iteratedKeys? callee
  | _ => none

namespace Context

variable {c : Context}

/-! ## What is found without touching the exports -/

/-- An assignment to a target that does not touch the exports object finds nothing. -/
theorem assign_of_untouched {target right : Expr} (h : Untouched target.nodes) :
    c.assign target right = ∅ := by
  rw [assign, Expr.isModuleExportsTarget_of_untouched h, if_neg Bool.false_ne_true]
  split
  · rename_i object key hproperty
    rw [Expr.isExportsObject_of_untouched (h.mono (Expr.nodes_subset_of_propertyTarget? hproperty)),
      Bool.and_false, if_neg Bool.false_ne_true]
  · rfl

/-- Nor does a chain of such assignments. -/
theorem chain_of_untouched {e : Expr} (h : Untouched e.nodes) : c.chain e = ∅ := by
  fun_induction chain c e with
  | case1 inner ih => exact ih (h.mono (List.subset_cons_self _ _))
  | case2 op target right ih =>
    have htarget : Untouched target.nodes := h.mono (Expr.nodes_target_subset op target right)
    have hright : Untouched right.nodes := h.mono (Expr.nodes_right_subset op target right)
    rw [assign_of_untouched htarget, ih hright, Findings.append_empty]
  | case3 e => rfl

/-- What copying the properties of several values onto the exports exports. -/
def copied (c : Context) (sources : List Expr) : Findings := .join (sources.map c.spread)

/-- A call finds what it iterates over, and nothing else. -/
theorem call_of_untouched {callee : Expr} {args : List Expr}
    (h : Untouched (Expr.call callee args).nodes) :
    c.call callee args = c.copied (iteratedKeys? callee).toList := by
  have hargs : Untouched (exprsNodes args) := h.mono (Expr.exprsNodes_args_subset callee args)
  have hfirst : ∀ first, firstValue? args = some first → first.isExportsObject = false := by
    intro first hfirst
    exact Expr.isExportsObject_of_untouched
      (hargs.mono (nodes_subset_exprsNodes (mem_of_firstValue? hfirst)))
  have hhelper : callee.calleeName?.any reexportHelpers.contains = false :=
    h _ List.mem_cons_self
  rw [call]
  split
  · rename_i hdefine
    rw [iteratedKeys?_of_isMemberOf hdefine (by decide)]
    split
    · rename_i target key htarget _
      rw [hfirst target htarget, Bool.and_false, if_neg Bool.false_ne_true]
      rfl
    · rfl
  -- neither of the recognised members of `Object` is a `forEach`
  · split
    · rename_i hassign
      rw [iteratedKeys?_of_isMemberOf hassign (by decide)]
      split
      · rename_i hexports
        rw [Bool.and_eq_true, Option.any_eq_true] at hexports
        obtain ⟨⟨first, hvalue, hobject⟩, -⟩ := hexports
        rw [hfirst first hvalue] at hobject
        cases hobject
      · rfl
    · rw [hhelper, if_neg Bool.false_ne_true]
      cases iteratedKeys? callee with
      | none => rfl
      | some source => exact (Findings.append_empty _).symm

/-- An expression that does not touch the exports object finds what its loop over keys copies, if it
is one. -/
theorem effect_of_untouched {e : Expr} (h : Untouched e.nodes) :
    c.effect e = c.copied e.iterated?.toList := by
  cases e with
  | assign op target right =>
    have htarget : Untouched target.nodes := h.mono (Expr.nodes_target_subset op target right)
    have hright : Untouched right.nodes := h.mono (Expr.nodes_right_subset op target right)
    rw [effect, assign_of_untouched htarget, chain_of_untouched hright]
    rfl
  | call callee args => exact call_of_untouched h
  | _ => rfl

/-- The expressions whose keys reached calls iterate over. -/
def iterated (c : Context) (program : Program) : List Expr :=
  (c.stmtsReached program).filterMap Expr.iterated?

/-- Several such expressions find what their loops copy. -/
theorem effects_of_untouched {found : List Expr} (h : ∀ e ∈ found, Untouched e.nodes) :
    c.effects found = c.copied (found.filterMap Expr.iterated?) := by
  induction found with
  | nil => rfl
  | cons first rest ih =>
    rw [List.forall_mem_cons] at h
    show c.effect first ++ c.effects rest = _
    rw [ih h.2, effect_of_untouched h.1, List.filterMap_cons]
    cases first.iterated? with
    | none => rfl
    | some source =>
      show (c.spread source ++ ∅) ++ _ = _
      rw [Findings.append_empty]
      rfl

/-- What statements that never touch the exports are found to export: the properties of whatever
they iterate over. -/
theorem stmts_of_untouched {program : Program} (h : Untouched (stmtsNodes program)) :
    c.stmts program = c.copied (c.iterated program) := by
  rw [stmts_eq_effects]
  exact effects_of_untouched fun e he => h.mono (stmtsReached_within program e he)

/-- A value of which a scan knows nothing: no required module, and no name that holds known keys or
spread modules. -/
def Unknown (c : Context) (source : Expr) : Prop :=
  c.requiredBy? source = none ∧ ∀ name binding, source.identName? = some name →
    c.lookup name = some binding → binding.keys = [] ∧ binding.reexports = []

/-- A spread finds nothing exactly if nothing is known of its source. -/
theorem spread_eq_empty_iff {source : Expr} : c.spread source = ∅ ↔ c.Unknown source := by
  rw [spread, Unknown]
  cases c.requiredBy? source with
  | some specifier => simp [Findings.reexport_ne_empty]
  | none =>
    cases hname : source.identName? with
    | none => simp
    | some name =>
      cases hlookup : c.lookup name with
      | none =>
        refine iff_of_true (by simp [hlookup]) ⟨rfl, ?_⟩
        intro other binding hother hbinding
        rw [← Option.some.inj hother, hlookup] at hbinding
        cases hbinding
      | some binding =>
        simp only [Option.bind_some, hlookup, Findings.names_append_reexports_eq_empty_iff,
          true_and, Option.some.injEq]
        constructor
        · rintro hnothing _ _ rfl hbinding
          obtain rfl := Option.some.inj (hlookup.symm.trans hbinding)
          exact hnothing
        · exact fun h => h name binding rfl hlookup

end Context

/-- What a scan of a program knows, in a mode. -/
def Program.context (program : Program) (mode : Mode) (called : Bool) : Context :=
  ⟨mode, called, Bindings.ofProgram mode program⟩

/-- A program that never touches its exports is found to export the properties of whatever it
iterates over with `Object.keys(…).forEach`.  So nothing is found exactly if nothing is known of any
of these. -/
theorem Program.findings_eq_empty_iff_of_untouched {program : Program}
    (h : Untouched (stmtsNodes program)) (mode : Mode) (called : Bool) :
    program.findings mode called =
        (program.context mode called).copied ((program.context mode called).iterated program) ∧
      (program.findings mode called = ∅ ↔
        ∀ source ∈ (program.context mode called).iterated program,
          (program.context mode called).Unknown source) := by
  have hfound : program.findings mode called =
      (program.context mode called).copied ((program.context mode called).iterated program) :=
    Context.stmts_of_untouched h
  refine ⟨hfound, ?_⟩
  rw [hfound, Context.copied, Findings.join_eq_empty_iff, List.forall_mem_map]
  exact forall₂_congr fun source _ => Context.spread_eq_empty_iff

/-- `Object.keys(x).forEach(function (k) { log(k); });` -/
def logging : Stmt :=
  .expr (.call (.member (.call (.member (.ident "Object") "keys") [.ident "x"]) "forEach")
    [.function (.mk none false false [.ident "k"] [.expr (.call (.ident "log") [.ident "k"])])])

/-- Nothing is found where nothing is known of `x`. -/
theorem findings_logging_eq_empty :
    Untouched (stmtsNodes [logging]) ∧ Program.findings [logging] .production false = ∅ := by
  have huntouched : Untouched (stmtsNodes [logging]) := by decide
  refine ⟨huntouched, ?_⟩
  rw [(Program.findings_eq_empty_iff_of_untouched huntouched .production false).2]
  have hiterated : (Program.context [logging] .production false).iterated [logging] =
      [.ident "x"] := rfl
  rw [hiterated, List.forall_mem_singleton]
  refine ⟨rfl, ?_⟩
  intro name binding _ hlookup
  cases hlookup

/-- `var x = { a: 1 };` and a loop that logs its keys. -/
def loggingKnown : Program :=
  [.declare .var [.mk (.ident "x")
    (some (.object [.property (.literal (.string "a")) (.literal (.number "1"))]))], logging]

/-- The key of a local object is found, though the loop only logs it. -/
theorem findings_loggingKnown_ne_empty :
    Untouched (stmtsNodes loggingKnown) ∧
      loggingKnown.findings .production false = .names ["a"] ∧
      loggingKnown.findings .production false ≠ ∅ := by
  have hfound : loggingKnown.findings .production false = .names ["a"] := rfl
  refine ⟨by decide, hfound, ?_⟩
  rw [hfound, Ne, Findings.names_eq_empty_iff]
  exact List.cons_ne_nil _ _

end NamedExports.Script
