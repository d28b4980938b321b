import NamedExports.Proofs.Scan.Building

/-!
# The keys of what factories build

The scan goes through all branches of a factory in the order of the text and has one table of
locals.  While the body runs, the table covers the heap: each local that holds an object stands in
the table with the keys of the object.  Branches that are not taken leave the heap as it is and only
add to the table, as long as no local is declared twice.  So the keys of the object that is returned
in the end have been found.
-/

namespace NamedExports.Script.Building

variable {evaluation : Evaluation}

/-! ## The table covers the heap -/

/-- Each local that holds an object stands in the table of a scan with the keys of the object, but
for keys that were put aside.  No object is held by two locals. -/
structure Covers (total : List String) (s : Heap) (r : Returns) : Prop where
  known : ∀ {name : String} {object : Nat}, s.holds name = some object →
    ∃ names, r.locals name = some names ∧ ∀ key ∈ s.keys object, key ∈ total ∨ Lists names key
  made : ∀ {name : String} {object : Nat}, s.holds name = some object → object < s.size
  apart : ∀ {name other : String} {object : Nat}, s.holds name = some object →
    s.holds other = some object → name = other

namespace Covers

variable {total aside : List String} {s s' : Heap} {r : Returns}

/-- Before the first statement everything is covered. -/
theorem start (total : List String) : Covers total .start .start where
  known h := by cases h
  made h := by cases h
  apart h := by cases h

/-- What is put aside on the way may be covered by the total alone. -/
theorem evolves (h : Covers total s r) (hevolves : Heap.Evolves aside s s')
    (haside : aside ⊆ total) : Covers total s' r where
  known {name object} hname := by
    rw [hevolves.holds] at hname
    obtain ⟨names, hnames, hkeys⟩ := h.known hname
    refine ⟨names, hnames, fun key hkey => ?_⟩
    rcases List.mem_append.mp (hevolves.keys hname hkey) with hkey | hkey
    · exact hkeys key hkey
    · exact Or.inl (haside hkey)
  made hname := Nat.lt_of_lt_of_le (h.made (hevolves.holds ▸ hname)) hevolves.size
  apart hname hother := h.apart (hevolves.holds ▸ hname) (hevolves.holds ▸ hother)

/-- A local takes a new object, of which all keys are listed. -/
theorem declare (h : Covers total s r) (name : String) {keys names : List String}
    (hkeys : ∀ key ∈ keys, Lists names key) :
    Covers total ((s.make keys).bind name s.size) (r.declare name names) where
  known {other object} hother := by
    simp only [Heap.bind, Heap.make, Returns.declare] at hother ⊢
    by_cases hname : other = name
    · rw [if_pos hname, Option.some.injEq] at hother
      simp only [hname, ← hother, beq_self_eq_true, if_true]
      exact ⟨names, rfl, fun key hkey => Or.inr (hkeys key hkey)⟩
    · rw [if_neg hname] at hother
      have hold : object ≠ s.size := Nat.ne_of_lt (h.made hother)
      simp only [beq_eq_false_iff_ne.mpr hname, if_neg hold, if_false, Bool.false_eq_true]
      exact h.known hother
  made {other object} hother := by
    simp only [Heap.bind, Heap.make] at hother ⊢
    split at hother
    · rw [← Option.some.inj hother]
      exact Nat.lt_succ_self _
    · exact Nat.lt_succ_of_lt (h.made hother)
  apart {other another object} hother hanother := by
    simp only [Heap.bind, Heap.make] at hother hanother
    split at hother <;> split at hanother
    · rw [‹other = name›, ‹another = name›]
    · exact absurd (Option.some.inj hother).symm (Nat.ne_of_lt (h.made hanother))
    · exact absurd (Option.some.inj hanother).symm (Nat.ne_of_lt (h.made hother))
    · exact h.apart hother hanother

/-- A key is put on the object of a local and on its entry in the table. -/
theorem put (h : Covers total s r) {name : String} {object : Nat}
    (hname : s.holds name = some object) (key : String) :
    Covers total (s.put object key) (r.addKey name key) where
  known {other found} hother := by
    obtain ⟨names, hnames, hkeys⟩ := h.known hother
    by_cases hsame : other = name
    · subst hsame
      obtain rfl : found = object := Option.some.inj (hother.symm.trans hname)
      refine ⟨names ++ [key], by simp [Returns.addKey, hnames], fun added hadded => ?_⟩
      simp only [Heap.put, if_true, List.mem_append, List.mem_singleton] at hadded
      rcases hadded with hadded | rfl
      · exact (hkeys added hadded).imp_right fun h => h.mono (List.subset_append_left _ _)
      · exact Or.inr ⟨added, List.mem_append_right _ (List.mem_singleton_self _), Or.inl rfl⟩
    · -- the object is another one, since no two locals hold the same
      have hobject : found ≠ object := fun h' => hsame (h.apart hother (h' ▸ hname))
      refine ⟨names, by simp [Returns.addKey, hsame, hnames], fun added hadded => ?_⟩
      simp only [Heap.put, if_neg hobject] at hadded
      exact hkeys added hadded
  made := h.made
  apart := h.apart

/-- More returned keys cover more. -/
theorem give (h : Covers total s r) (keys : List String) : Covers total s (r.give keys) where
  known := h.known
  made := h.made
  apart := h.apart

/-- What a branch does that is not taken only adds to the table, if it declares no local that holds
an object. -/
theorem act (h : Covers total s r) (act : Act)
    (hfree : ∀ name, local? act = some name → s.holds name = none) :
    Covers total s (r.act act) := by
  cases act with
  | declare name keys =>
    refine ⟨fun {other object} hother => ?_, h.made, h.apart⟩
    have hname : other ≠ name := by
      rintro rfl
      rw [hfree other rfl] at hother
      cases hother
    simpa [Returns.act, Returns.declare, hname] using h.known hother
  | put name key =>
    refine ⟨fun {other object} hother => ?_, h.made, h.apart⟩
    obtain ⟨names, hnames, hkeys⟩ := h.known hother
    by_cases hname : other = name
    · subst hname
      refine ⟨names ++ [key], by simp [Returns.act, Returns.addKey, hnames], fun k hk => ?_⟩
      exact (hkeys k hk).imp_right fun h => h.mono (List.subset_append_left _ _)
    · exact ⟨names, by simp [Returns.act, Returns.addKey, hname, hnames], hkeys⟩
  | giveKeys keys => exact h.give keys
  | giveLocal name => exact h.give _

/-- Acts that make no local which holds something keep what is covered. -/
theorem foldl (h : Covers total s r) (acts : List Act)
    (hfree : ∀ name ∈ locals acts, s.holds name = none) :
    Covers total s (acts.foldl Returns.act r) := by
  induction acts generalizing r with
  | nil => exact h
  | cons first rest ih =>
    refine ih (h.act first fun name hname => hfree name ?_) fun name hname => hfree name ?_
    · exact List.mem_filterMap.mpr ⟨first, List.mem_cons_self, hname⟩
    · rw [← List.singleton_append, locals_append]
      exact List.mem_append_right _ hname

end Covers

/-- No returned key is lost. -/
theorem keys_subset_foldl (acts : List Act) (r : Returns) :
    r.keys ⊆ (acts.foldl Returns.act r).keys := by
  induction acts generalizing r with
  | nil => exact List.Subset.refl _
  | cons first rest ih =>
    refine List.Subset.trans ?_ (ih (r.act first))
    cases first with
    | declare name keys => exact List.Subset.refl _
    | put name key => exact List.Subset.refl _
    | giveKeys keys => exact List.subset_append_left _ _
    | giveLocal name => exact List.subset_append_left _ _

/-- Where a body goes on the table covers the heap, and where it returns an object the keys of the
object have been found, but for keys that were put aside. -/
def Covered (total : List String) (s : Heap) (r : Returns) : Completion → Prop
  | .normal => Covers total s r
  | .returned none => True
  | .returned (some object) => ∀ key ∈ s.keys object, key ∈ total ∨ Lists r.keys key

/-- A body that has returned stays covered, whatever stands behind the return. -/
theorem Covered.foldl {total : List String} {s : Heap} {r : Returns} {done : Completion}
    (h : Covered total s r done) (acts : List Act)
    (hfree : ∀ name ∈ locals acts, s.holds name = none) :
    Covered total s (acts.foldl Returns.act r) done := by
  match done with
  | .normal => exact Covers.foldl h acts hfree
  | .returned none => trivial
  | .returned (some object) =>
    exact fun key hkey => (h key hkey).imp_right fun h => h.mono (keys_subset_foldl acts r)

/-! ## Runs keep the heap covered -/

section Covered

variable {total : List String}

/-- Declarations keep what is covered, for the locals that they make are scanned as they run. -/
theorem Declares.covers {items : List Declarator} {s s' : Heap} {aside : List String}
    (h : Declares evaluation items s aside s') (haside : aside ⊆ total) {r : Returns}
    (hcovers : Covers total s r) : Covers total s' (items.foldl Returns.declarator r) := by
  induction h generalizing r with
  | nil => exact hcovers
  | cons hinit hmembers _ ih =>
    obtain ⟨hfirst, hmore⟩ := List.append_subset.mp haside
    rw [List.foldl_cons, Returns.declarator, hinit]
    exact ih hmore ((hcovers.evolves hmembers.evolves hfirst).declare _ hmembers.lists)

-- by recursion on the runs
mutual

/-- Whatever a statement runs to is covered by the scan of the whole statement, by induction over
the run. -/
theorem Runs.covered : ∀ {stmt : Stmt} {s s' : Heap} {aside : List String} {done : Completion},
    Runs evaluation stmt s aside s' done → aside ⊆ total → ∀ {r : Returns}, Covers total s r →
      Fresh (actsOf stmt) s → Covered total s' (r.statement stmt) done
  | _, _, _, _, _, .declare h, haside, _, hcovers, _ => h.covers haside hcovers
  | _, _, _, _, _, .put he htarget hname hvalue, haside, _, hcovers, _ => by
    have hevolves := evaluation.evolves hvalue
    obtain ⟨base, htarget, hbase⟩ := htarget.propertyTarget?
    rw [Returns.statement, Returns.effect, he]
    simp only [htarget, hbase]
    exact (hcovers.evolves hevolves haside).put (hevolves.holds ▸ hname) _
  | _, _, _, _, _, .block h, haside, _, hcovers, hfresh => RunsAll.covered h haside hcovers hfresh
  | _, _, _, _, _, .skip htest, haside, _, hcovers, hfresh => by
    have hevolves := evaluation.evolves htest
    rw [Returns.statement, Returns.statement_eq_foldl]
    exact (hcovers.evolves hevolves haside).foldl _ (hfresh.evolves hevolves).free
  | _, _, _, _, _, .enter htest hyes, haside, _, hcovers, hfresh => by
    have hevolves := evaluation.evolves htest
    obtain ⟨hfirst, hmore⟩ := List.append_subset.mp haside
    exact Runs.covered hyes hmore (hcovers.evolves hevolves hfirst) (hfresh.evolves hevolves)
  | .ifThen _ yes (some no), _, _, _, _, .yes htest hyes, haside, r, hcovers, hfresh => by
    have hevolves := evaluation.evolves htest
    obtain ⟨hfirst, hmore⟩ := List.append_subset.mp haside
    have hfresh : Fresh (actsOf yes ++ actsOf no) _ := hfresh.evolves hevolves
    have hcovered := Runs.covered hyes hmore (hcovers.evolves hevolves hfirst) hfresh.left
    -- the other branch comes later in the text
    rw [Returns.statement, Returns.statement_eq_foldl no]
    exact hcovered.foldl _ (hfresh.after (Runs.free hyes)).free
  | .ifThen _ yes (some no), _, _, _, _, .no htest hno, haside, r, hcovers, hfresh => by
    have hevolves := evaluation.evolves htest
    obtain ⟨hfirst, hmore⟩ := List.append_subset.mp haside
    have hfresh : Fresh (actsOf yes ++ actsOf no) _ := hfresh.evolves hevolves
    have hcovers := (hcovers.evolves hevolves hfirst).foldl _ hfresh.left.free
    rw [Returns.statement, Returns.statement_eq_foldl yes]
    exact Runs.covered hno hmore hcovers hfresh.right
  | _, _, _, _, _, @Runs.returnLocal _ _ name s hvalue, _, r, hcovers, _ => by
    rw [Returns.statement, Returns.value, hvalue]
    cases hname : s.holds name with
    | none => trivial
    | some object =>
      obtain ⟨names, hnames, hkeys⟩ := hcovers.known hname
      intro key hkey
      refine (hkeys key hkey).imp_right fun h => h.mono ?_
      simp only [hnames]
      exact List.subset_append_right _ _
  | _, _, _, _, _, .returnLiteral hvalue hmembers, _, _, _, _ => by
    rw [Returns.statement, Returns.value, hvalue]
    intro key hkey
    rw [Heap.keys_make_size] at hkey
    exact Or.inr ((hmembers.lists key hkey).mono (List.subset_append_right _ _))

/-- The same for a body. -/
theorem RunsAll.covered : ∀ {body : List Stmt} {s s' : Heap} {aside : List String}
    {done : Completion}, RunsAll evaluation body s aside s' done → aside ⊆ total →
      ∀ {r : Returns}, Covers total s r → Fresh (actsOfAll body) s →
        Covered total s' (r.statements body) done
  | _, _, _, _, _, .nil, _, _, hcovers, _ => hcovers
  | first :: rest, _, _, _, _, .cons hfirst hrest, haside, _, hcovers, hfresh => by
    obtain ⟨hbefore, hmore⟩ := List.append_subset.mp haside
    have hfresh : Fresh (actsOf first ++ actsOfAll rest) _ := hfresh
    have hcovers : Covers total _ _ := Runs.covered hfirst hbefore hcovers hfresh.left
    exact RunsAll.covered hrest hmore hcovers (hfresh.after (Runs.free hfirst))
  | first :: rest, _, _, _, _, .stop hfirst, haside, _, hcovers, hfresh => by
    have hfresh : Fresh (actsOf first ++ actsOfAll rest) _ := hfresh
    have hcovered := Runs.covered hfirst haside hcovers hfresh.left
    -- what comes after the return is followed as well
    rw [Returns.statements, Returns.statements_eq_foldl rest]
    exact hcovered.foldl _ (hfresh.after (Runs.free hfirst)).free

end

end Covered

/-! ## What is found of a result -/

/-- `function () { … }` -/
def factory (body : List Stmt) : Code := .mk none false false [] body

/-- In call mode the keys of a factory that is given to `module.exports` are found. -/
theorem findings_givingFactory (code : Code) (mode : Mode) :
    (givingFactory code).findings mode true = .names code.returnedKeys := by
  show Findings.names code.returnedKeys ++ ∅ ++ ∅ = _
  rw [Findings.append_empty, Findings.append_empty]

/-- Outside call mode the keys of a factory whose result is given are found. -/
theorem findings_givingResult (code : Code) (mode : Mode) :
    (givingResult code).findings mode false = .names code.returnedKeys := by
  show Findings.names code.returnedKeys ++ ∅ ++ ∅ = _
  rw [Findings.append_empty, Findings.append_empty]

/-- However a factory runs through its body, each key of the object that it returns is found,
whether the factory is scanned for a call or called where it stands, in either mode.  Only keys that
are put on objects aside, while a value or a test is evaluated, may be missed. -/
theorem found_of_returned {body : List Stmt} (hlocals : (locals (actsOfAll body)).Nodup)
    {s : Heap} {aside : List String} {object : Nat}
    (hrun : RunsAll evaluation body .start aside s (.returned (some object))) (mode : Mode)
    {key : String} (hkey : key ∈ s.keys object) :
    key ∈ aside ∨ Lists ((givingFactory (factory body)).findings mode true).exports key ∧
      Lists ((givingResult (factory body)).findings mode false).exports key := by
  have hcovered : Covered aside s (Returns.start.statements body) (.returned (some object)) :=
    hrun.covered (List.Subset.refl _) (.start aside) ⟨hlocals, fun _ _ => rfl⟩
  rw [findings_givingFactory, findings_givingResult]
  exact (hcovered key hkey).imp_right fun h => ⟨h, h⟩

/-- Names, literals, and chains of assignments of literals to properties of locals. -/
inductive Chains : Expr → Heap → List String → Heap → Prop where
  | ident {name : String} {s : Heap} : Chains (.ident name) s [] s
  | literal {value : Literal} {s : Heap} : Chains (.literal value) s [] s
  | put {target value : Expr} {name key : String} {object : Nat} {aside : List String}
      {s s' : Heap} (htarget : IsProperty target name key) (hname : s.holds name = some object)
      (hvalue : Chains value s aside s') :
      Chains (.assign .plain target value) s (aside ++ [key]) (s'.put object key)

/-- The evaluation of names, literals and chains of assignments. -/
def chains : Evaluation where
  relates := Chains
  evolves h := by
    induction h with
    | ident => exact .refl _
    | literal => exact .refl _
    | put _ _ _ ih => exact ih.put _ _

/-- `var x = { a: 1 }; if (flag) { x['b'] = 2; return x; } else return { c: 3 };` -/
def branching : List Stmt :=
  [.declare .var [.mk (.ident "x")
      (some (.object [.property (.literal (.string "a")) (.literal (.number "1"))]))],
    .ifThen (.ident "flag")
      (.block [.expr (.assign .plain (.index (.ident "x") (.literal (.string "b")))
          (.literal (.number "2"))),
        .return (some (.ident "x"))])
      (some (.return (some
        (.object [.property (.literal (.string "c")) (.literal (.number "3"))]))))]

/-- The keys are found of an object that is returned early. -/
theorem found_of_branching :
    (locals (actsOfAll branching)).Nodup ∧ ∃ s,
      RunsAll chains branching .start [] s (.returned (some 0)) ∧ s.keys 0 = ["a", "b"] ∧
        ∀ key ∈ s.keys 0,
          Lists ((givingFactory (factory branching)).findings .development true).exports key := by
  have hlocals : (locals (actsOfAll branching)).Nodup := by decide
  have hrun : RunsAll chains branching .start _ _ _ :=
    .cons (.declare (.cons rfl (.cons rfl .literal .nil) .nil)) (.stop (.yes .ident (.block
      (.cons (.put rfl (.index rfl rfl) rfl .literal) (.stop (.returnLocal rfl))))))
  refine ⟨hlocals, _, hrun, rfl, fun key hkey => ?_⟩
  exact ((found_of_returned hlocals hrun .development hkey).resolve_left List.not_mem_nil).1

/-- `var x = {}; x.a = x.b = 1; return x;` -/
def chained : List Stmt :=
  [.declare .var [.mk (.ident "x") (some (.object []))],
    .expr (.assign .plain (.member (.ident "x") "a")
      (.assign .plain (.member (.ident "x") "b") (.literal (.number "1")))),
    .return (some (.ident "x"))]

/-- Of a chain of assignments only the first key is found. -/
theorem missed_of_chained :
    (locals (actsOfAll chained)).Nodup ∧ ∃ s,
      RunsAll chains chained .start ["b"] s (.returned (some 0)) ∧ s.keys 0 = ["b", "a"] ∧
        (givingFactory (factory chained)).findings .production true = .names ["a"] ∧
        (givingResult (factory chained)).findings .production false = .names ["a"] := by
  have hrun : RunsAll chains chained .start _ _ _ :=
    .cons (.declare (.cons rfl .nil .nil)) (.cons
      (.put rfl (.member rfl) rfl (.put (.member rfl) rfl .literal)) (.stop (.returnLocal rfl)))
  exact ⟨by decide, _, hrun, rfl, rfl, rfl⟩

end NamedExports.Script.Building
