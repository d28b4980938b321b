import NamedExports.Proofs.ExportList
import NamedExports.Proofs.Fallback
import NamedExports.Proofs.Path
import NamedExports.Proofs.Traversal.Provenance
import NamedExports.Resolver

/-!
# What a resolution does

A resolution resolves the entry, traverses the modules reached from it, and loads the entry if that
found nothing and the policy allows it.  `run_accounts_for_request` says which calls are made, how
they decide the outcome, and what stands on a list of exports.
-/

namespace NamedExports

/-- The names of a loaded value are its keys, if it is an object or a function. -/
theorem ModuleValue.mem_exportedKeys_iff {value : ModuleValue} {name : String} :
    name ∈ value.exportedKeys ↔
      (value.kind = .object ∨ value.kind = .function) ∧ name ∈ value.keys ∧ name ≠ "" := by
  rw [exportedKeys]
  split
  · rename_i hkind
    simp only [exposesKeys, Bool.or_eq_true, beq_iff_eq] at hkind
    simp [hkind]
  · rename_i hkind
    simp only [exposesKeys, Bool.or_eq_true, beq_iff_eq] at hkind
    simp [hkind]

namespace Resolver

variable {r : Resolver} {request : Request} {entry : Path} {candidates : List String}

/-- The entry of a request is loaded: it is a module that is scanned, nothing was found, and the
policy lists the package that the specifier names. -/
def FallsBack (r : Resolver) (request : Request) (entry : Path) (candidates : List String) : Prop :=
  (entry.extension? = some "js" ∨ entry.extension? = some "cjs") ∧ candidates = [] ∧
    r.policy.enabled = true ∧ ∃ package ∈ r.policy.packages,
      request.specifier = package ∨ ∃ rest, request.specifier = package ++ "/" ++ rest

theorem fallsBack_iff : r.FallsBack request entry candidates ↔
    (entry.isScanned && r.policy.shouldLoad request.specifier candidates.length) = true := by
  rw [FallsBack, Bool.and_eq_true, Path.isScanned_iff, FallbackPolicy.shouldLoad,
    Bool.and_eq_true, beq_iff_eq, List.length_eq_zero_iff, FallbackPolicy.allows_iff]

/-! ## The candidates of an entry -/

/-- A traversal that fails decides the outcome. -/
theorem candidates_of_error {failure : Failure}
    (h : (Traversal.collect r.collaborators request.mode r.limit entry).outcome = .error failure) :
    r.candidates request entry =
      ⟨(Traversal.collect r.collaborators request.mode r.limit entry).calls, .error failure⟩ :=
  Traced.bind_of_error h

/-- The keys of the entry's value are the candidates if it is loaded. -/
theorem candidates_of_fallsBack
    (h : (Traversal.collect r.collaborators request.mode r.limit entry).outcome = .ok candidates)
    (hfall : r.FallsBack request entry candidates) :
    r.candidates request entry =
      ⟨(Traversal.collect r.collaborators request.mode r.limit entry).calls ++
        [.load entry request.mode],
        (r.collaborators.load entry request.mode).map ModuleValue.exportedKeys⟩ := by
  rw [Resolver.candidates, Traced.bind_of_ok h, if_pos (fallsBack_iff.mp hfall), loadedKeys]
  cases hload : r.collaborators.load entry request.mode with
  | error failure =>
    rw [Traced.bind_of_error (x := r.collaborators.loadModule entry request.mode) hload]
    rfl
  | ok value =>
    rw [Traced.bind_of_ok (x := r.collaborators.loadModule entry request.mode) hload]
    rfl

/-- The names that the traversal collected are the candidates otherwise. -/
theorem candidates_of_not_fallsBack
    (h : (Traversal.collect r.collaborators request.mode r.limit entry).outcome = .ok candidates)
    (hfall : ¬ r.FallsBack request entry candidates) :
    r.candidates request entry =
      ⟨(Traversal.collect r.collaborators request.mode r.limit entry).calls, .ok candidates⟩ := by
  rw [fallsBack_iff] at hfall
  rw [Resolver.candidates, Traced.bind_of_ok h, if_neg hfall, Traced.calls_pure, List.append_nil,
    Traced.outcome_pure]

/-- Every candidate has an origin. -/
theorem origin_of_candidates {name : String}
    (h : (r.candidates request entry).outcome = .ok candidates) (hname : name ∈ candidates) :
    Origin r.collaborators request.mode (r.candidates request entry).calls name := by
  cases hcollect : (Traversal.collect r.collaborators request.mode r.limit entry).outcome with
  | error failure =>
    rw [candidates_of_error hcollect] at h
    cases h
  | ok collected =>
    by_cases hfall : r.FallsBack request entry collected
    · rw [candidates_of_fallsBack hcollect hfall] at h ⊢
      cases hload : r.collaborators.load entry request.mode with
      | error failure => simp [hload, Except.map] at h
      | ok value =>
        obtain rfl : value.exportedKeys = candidates := by simpa [hload, Except.map] using h
        obtain ⟨hkind, hmem, hnonempty⟩ := ModuleValue.mem_exportedKeys_iff.mp hname
        exact .loaded (by simp) hload hkind hmem hnonempty
    · rw [candidates_of_not_fallsBack hcollect hfall] at h ⊢
      obtain rfl := Except.ok.inj h
      exact Traversal.origin_of_collect hcollect hname

/-! ## The run of a request -/

/-- A request whose entry does not resolve fails before anything is read. -/
theorem run_of_unresolved {failure : Failure}
    (h : r.collaborators.resolve request.buildDirectory request.specifier = .error failure) :
    r.run request =
      ⟨[.resolve request.buildDirectory request.specifier], .error failure⟩ :=
  Traced.bind_of_error h

/-- The candidates of the entry that a request resolves to decide its outcome. -/
theorem run_of_resolved
    (h : r.collaborators.resolve request.buildDirectory request.specifier = .ok entry) :
    r.run request = ⟨.resolve request.buildDirectory request.specifier ::
        (r.candidates request entry).calls,
      (r.candidates request entry).outcome.map ExportList.ofCandidates⟩ := by
  rw [Resolver.run, Traced.bind_of_ok (x := r.collaborators.resolvePath _ _) h]
  cases hnames : (r.candidates request entry).outcome with
  | error failure =>
    rw [Traced.bind_of_error hnames]
    rfl
  | ok names =>
    rw [Traced.bind_of_ok hnames, Traced.calls_pure, List.append_nil]
    rfl

/-- What is loaded is the entry of a run that falls back. -/
theorem fallsBack_of_mem_loads {path : Path} {mode : Mode}
    (h : (path, mode) ∈ Traced.loads (r.run request).calls) :
    r.collaborators.resolve request.buildDirectory request.specifier = .ok path ∧
      ∃ candidates, r.FallsBack request path candidates := by
  cases hentry : r.collaborators.resolve request.buildDirectory request.specifier with
  | error failure =>
    rw [run_of_unresolved hentry] at h
    cases h
  | ok entry =>
    rw [run_of_resolved hentry] at h
    replace h : (path, mode) ∈ Traced.loads (r.candidates request entry).calls := h
    have hquiet :
        Traced.loads (Traversal.collect r.collaborators request.mode r.limit entry).calls = [] :=
      Traversal.loads_collect r.limit entry
    cases hcollect : (Traversal.collect r.collaborators request.mode r.limit entry).outcome with
    | error failure =>
      rw [candidates_of_error hcollect, hquiet] at h
      cases h
    | ok candidates =>
      by_cases hfall : r.FallsBack request entry candidates
      · rw [candidates_of_fallsBack hcollect hfall, Traced.loads_append, hquiet] at h
        obtain ⟨rfl, -⟩ := Prod.mk.inj (List.mem_singleton.mp h)
        exact ⟨rfl, candidates, hfall⟩
      · rw [candidates_of_not_fallsBack hcollect hfall, hquiet] at h
        cases h

/-- What stands on a list of exports: words that are not reserved, each once and with an origin. -/
theorem run_lists_exports {list : ExportList} (h : (r.run request).outcome = .ok list) :
    list.exports.Nodup ∧ ∀ name ∈ list.exports,
      Name.IsWord name ∧ name ∉ Name.reservedWords ∧
        Origin r.collaborators request.mode (r.run request).calls name := by
  cases hentry : r.collaborators.resolve request.buildDirectory request.specifier with
  | error failure =>
    rw [run_of_unresolved hentry] at h
    cases h
  | ok entry =>
    rw [run_of_resolved hentry] at h ⊢
    cases hnames : (r.candidates request entry).outcome with
    | error failure => simp [hnames, Except.map] at h
    | ok names =>
      obtain rfl : ExportList.ofCandidates names = list := by simpa [hnames, Except.map] using h
      refine ⟨ExportList.nodup_ofCandidates names, ?_⟩
      intro name hname
      obtain ⟨hmem, hword, hreserved⟩ := ExportList.mem_ofCandidates_iff.mp hname
      exact ⟨hword, hreserved, (origin_of_candidates hnames hmem).mono (List.subset_cons_self _ _)⟩

/-- An entry that does not resolve ends a run before anything else is called.  A traversal that
fails ends it before anything is loaded.  Otherwise the entry is loaded, in the mode of the request,
exactly if the run falls back: then its keys are listed or its failure is answered, and if not, what
was collected is listed.  On every list stand words that are not reserved, each once and with an
origin. -/
theorem run_accounts_for_request (r : Resolver) (request : Request) :
    (∀ failure,
      r.collaborators.resolve request.buildDirectory request.specifier = .error failure →
        r.run request = ⟨[.resolve request.buildDirectory request.specifier], .error failure⟩) ∧
    (∀ entry, r.collaborators.resolve request.buildDirectory request.specifier = .ok entry →
      (∀ failure,
        (Traversal.collect r.collaborators request.mode r.limit entry).outcome = .error failure →
          (r.run request).outcome = .error failure ∧ Traced.loads (r.run request).calls = []) ∧
      (∀ candidates,
        (Traversal.collect r.collaborators request.mode r.limit entry).outcome = .ok candidates →
          (r.FallsBack request entry candidates →
            Traced.loads (r.run request).calls = [(entry, request.mode)] ∧
              (r.run request).outcome = (r.collaborators.load entry request.mode).map fun value =>
                ExportList.ofCandidates value.exportedKeys) ∧
          (¬ r.FallsBack request entry candidates →
            Traced.loads (r.run request).calls = [] ∧
              (r.run request).outcome = .ok (ExportList.ofCandidates candidates)))) ∧
    (∀ list, (r.run request).outcome = .ok list →
      list.exports.Nodup ∧ ∀ name ∈ list.exports,
        Name.IsWord name ∧ name ∉ Name.reservedWords ∧ name ≠ "__esModule" ∧
          Origin r.collaborators request.mode (r.run request).calls name) := by
  refine ⟨fun failure => run_of_unresolved, ?_, ?_⟩
  · intro entry hentry
    rw [run_of_resolved hentry]
    have hquiet :
        Traced.loads (Traversal.collect r.collaborators request.mode r.limit entry).calls = [] :=
      Traversal.loads_collect r.limit entry
    refine ⟨?_, ?_⟩
    · intro failure hfailure
      rw [candidates_of_error hfailure]
      exact ⟨rfl, hquiet⟩
    · intro candidates hcollect
      refine ⟨?_, ?_⟩
      · intro hfall
        -- the one load comes after the calls of the traversal, which loads nothing
        rw [candidates_of_fallsBack hcollect hfall]
        refine ⟨?_, ?_⟩
        · show Traced.loads (_ ++ _) = _
          rw [Traced.loads_append, hquiet]
          rfl
        · cases r.collaborators.load entry request.mode <;> rfl
      · intro hfall
        rw [candidates_of_not_fallsBack hcollect hfall]
        exact ⟨hquiet, rfl⟩
  · intro list hlist
    obtain ⟨hnodup, hnames⟩ := run_lists_exports hlist
    refine ⟨hnodup, ?_⟩
    intro name hname
    obtain ⟨hword, hreserved, horigin⟩ := hnames name hname
    refine ⟨hword, hreserved, ?_, horigin⟩
    rintro rfl
    -- `__esModule` is among the reserved words
    exact hreserved (by decide)

/-- A resolver for one package, whose module exports nothing that a scan sees, and which may be
loaded. -/
def loadingResolver : Resolver where
  collaborators := {
    read := fun _ => .ok ""
    resolve := fun base specifier =>
      if specifier = "he" ∨ specifier = "fs" then .ok (base.join "index.js")
      else .error (.moduleNotFound specifier base)
    scan := fun _ _ _ _ => .ok ∅
    load := fun _ _ => .ok ⟨.object, ["encode", "class"]⟩ }
  policy := .ofPackages ["he"]
  limit := 1

/-- The package that is listed is loaded, and the key that is a reserved word is left out.  Another
one has no exports, one that does not resolve and one whose traversal exceeds the limit have no list
at all, and nothing is loaded for any of them. -/
theorem loadingResolver_run_accounts :
    loadingResolver.run ⟨"/p", "os", .production⟩ =
        ⟨[.resolve "/p" "os"], .error (.moduleNotFound "os" "/p")⟩ ∧
      ({ loadingResolver with limit := 0 }.run ⟨"/p", "he", .production⟩).outcome =
        .error (.cycleLimitExceeded "/p/index.js" 0) ∧
      loadingResolver.FallsBack ⟨"/p", "he", .production⟩ "/p/index.js" [] ∧
      Traced.loads (loadingResolver.run ⟨"/p", "he", .production⟩).calls =
        [⟨"/p/index.js", .production⟩] ∧
      (∃ list, (loadingResolver.run ⟨"/p", "he", .production⟩).outcome = .ok list ∧
        list.exports = ["encode"] ∧ list.exports.Nodup) ∧
      ¬ loadingResolver.FallsBack ⟨"/p", "fs", .production⟩ "/p/index.js" [] ∧
      Traced.loads (loadingResolver.run ⟨"/p", "fs", .production⟩).calls = [] := by
  have hfails : loadingResolver.collaborators.resolve "/p" "os" =
      .error (.moduleNotFound "os" "/p") := rfl
  have hhe : loadingResolver.collaborators.resolve "/p" "he" = .ok "/p/index.js" := rfl
  have hfs : loadingResolver.collaborators.resolve "/p" "fs" = .ok "/p/index.js" := rfl
  have hcollect : (Traversal.collect loadingResolver.collaborators .production 1
      "/p/index.js").outcome = .ok [] := rfl
  have hlimit : (Traversal.collect loadingResolver.collaborators .production 0
      "/p/index.js").outcome = .error (.cycleLimitExceeded "/p/index.js" 0) := rfl
  have hfalls : loadingResolver.FallsBack ⟨"/p", "he", .production⟩ "/p/index.js" [] :=
    fallsBack_iff.mpr (by decide)
  have hstays : ¬ loadingResolver.FallsBack ⟨"/p", "fs", .production⟩ "/p/index.js" [] :=
    fun h => absurd (fallsBack_iff.mp h) (by decide)
  obtain ⟨hunresolved, -, -⟩ :=
    run_accounts_for_request loadingResolver ⟨"/p", "os", .production⟩
  obtain ⟨-, hlimited, -⟩ :=
    run_accounts_for_request { loadingResolver with limit := 0 } ⟨"/p", "he", .production⟩
  obtain ⟨-, hresolved, hlisted⟩ :=
    run_accounts_for_request loadingResolver ⟨"/p", "he", .production⟩
  obtain ⟨-, hother, -⟩ := run_accounts_for_request loadingResolver ⟨"/p", "fs", .production⟩
  obtain ⟨hloads, hlist⟩ := ((hresolved _ hhe).2 _ hcollect).1 hfalls
  refine ⟨hunresolved _ hfails, ((hlimited _ hhe).1 _ hlimit).1, hfalls, hloads, ?_, hstays,
    (((hother _ hfs).2 _ hcollect).2 hstays).1⟩
  exact ⟨_, hlist, by decide, (hlisted _ hlist).1⟩

end Resolver

end NamedExports
