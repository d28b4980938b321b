import NamedExports.Proofs.Json.Value
import NamedExports.Proofs.Trace
import NamedExports.Traversal

/-!
# Where collected names come from

A traversal loads nothing, and it makes up no name: each name it collects is an export of a module
it scanned or a key of a JSON file it read.  `Origin` says so of one name and the calls that were
made.
-/

namespace NamedExports

variable {c : Collaborators} {mode : Mode} {calls : List Call} {name : String}

/-- What a name is known from: a module that was scanned, an object in a JSON file that was read, or
a module that was loaded. -/
inductive Origin (c : Collaborators) (mode : Mode) (calls : List Call) (name : String) : Prop where
  | scanned {path : Path} {source : String} {called : Bool} {found : Findings}
      (made : .scan path mode called ∈ calls) (read : c.read path = .ok source)
      (scan : c.scan path source mode called = .ok found) (mem : name ∈ found.exports)
  | json {path : Path} {text : String} {members : List (String × Json.Value)}
      (made : .read path ∈ calls) (isJson : path.isJson = true) (read : c.read path = .ok text)
      (value : Json.read text = .ok (.object members)) (mem : name ∈ members.map Prod.fst)
  | loaded {path : Path} {value : ModuleValue}
      (made : .load path mode ∈ calls) (load : c.load path mode = .ok value)
      (kind : value.kind = .object ∨ value.kind = .function) (mem : name ∈ value.keys)
      (nonempty : name ≠ "")

/-- More calls take no origin away. -/
theorem Origin.mono {more : List Call} (h : Origin c mode calls name) (hsub : calls ⊆ more) :
    Origin c mode more name := by
  cases h with
  | scanned made read scan mem => exact .scanned (hsub made) read scan mem
  | json made isJson read value mem => exact .json (hsub made) isJson read value mem
  | loaded made load kind mem nonempty => exact .loaded (hsub made) load kind mem nonempty

namespace Traversal

/-! ## Nothing is loaded -/

/-- Reading keys loads nothing. -/
theorem loads_readKeys (path : Path) : Traced.loads (readKeys c path).calls = [] := by
  refine Traced.loads_bind_eq_nil rfl ?_
  intro text _
  rfl

/-- Following targets loads nothing. -/
theorem loads_follow (base : Path) (targets : List String) :
    Traced.loads (follow c base targets).calls = [] := by
  induction targets with
  | nil => rfl
  | cons target rest ih =>
    refine Traced.loads_bind_eq_nil rfl ?_
    intro path _
    split
    · refine Traced.loads_bind_eq_nil (loads_readKeys path) ?_
      intro keys _
      exact Traced.loads_bind_eq_nil ih fun _ _ => rfl
    · exact Traced.loads_bind_eq_nil ih fun _ _ => rfl

/-- Visiting a module loads nothing. -/
theorem loads_visit (task : Task) : Traced.loads (visit c mode task).calls = [] := by
  refine Traced.loads_bind_eq_nil rfl ?_
  intro source _
  refine Traced.loads_bind_eq_nil rfl ?_
  intro found _
  exact Traced.loads_bind_eq_nil (loads_follow _ _) fun _ _ => rfl

/-- A traversal loads nothing, whatever the stack and the fuel. -/
theorem loads_run (journey : Journey) (fuel : Nat) (stack : List Task) :
    Traced.loads (journey.run c fuel stack).calls = [] := by
  induction fuel generalizing stack with
  | zero => cases stack <;> rfl
  | succ scans ih =>
    cases stack with
    | nil => rfl
    | cons task waiting =>
      refine Traced.loads_bind_eq_nil (loads_visit task) ?_
      intro visited _
      exact Traced.loads_bind_eq_nil (ih _) fun _ _ => rfl

/-- A traversal loads no module. -/
theorem loads_collect (limit : Nat) (entry : Path) :
    Traced.loads (collect c mode limit entry).calls = [] := by
  unfold collect
  split
  · exact loads_readKeys entry
  · split
    · rfl
    · exact loads_run _ _ _

/-! ## Every name has an origin -/

/-- The keys of a JSON file are those of the object in it. -/
theorem origin_of_readKeys {path : Path} {keys : List String} (hjson : path.isJson = true)
    (h : (readKeys c path).outcome = .ok keys) (hname : name ∈ keys) :
    Origin c mode (readKeys c path).calls name := by
  obtain ⟨text, hread, hkeys⟩ := Traced.outcome_bind_eq_ok_iff.mp h
  have hmade : .read path ∈ (readKeys c path).calls :=
    Traced.mem_calls_bind_iff.mpr (Or.inl List.mem_cons_self)
  simp only [jsonKeys] at hkeys
  split at hkeys
  · rename_i value hvalue
    obtain rfl := Except.ok.inj hkeys
    obtain ⟨members, rfl, hmem⟩ := Json.Value.exists_object_of_mem_keys hname
    exact .json hmade hjson hread hvalue hmem
  · cases hkeys

/-- The names that targets are asked for come from JSON files. -/
theorem origin_of_follow {base : Path} {targets names : List String} {tasks : List Task}
    (h : (follow c base targets).outcome = .ok (names, tasks)) (hname : name ∈ names) :
    Origin c mode (follow c base targets).calls name := by
  induction targets generalizing names tasks with
  | nil =>
    obtain ⟨rfl, -⟩ : [] = names ∧ [] = tasks := by simpa [follow, Traced.done] using h
    cases hname
  | cons target rest ih =>
    rw [follow] at h ⊢
    obtain ⟨path, hpath, h⟩ := Traced.outcome_bind_eq_ok_iff.mp h
    rw [Traced.bind_of_ok hpath]
    split at h
    · rename_i hjson
      obtain ⟨keys, hkeys, h⟩ := Traced.outcome_bind_eq_ok_iff.mp h
      obtain ⟨⟨others, more⟩, hrest, h⟩ := Traced.outcome_bind_eq_ok_iff.mp h
      obtain ⟨rfl, -⟩ : keys ++ others = names ∧ more = tasks := by simpa using h
      rw [if_pos hjson, Traced.bind_of_ok hkeys, Traced.bind_of_ok hrest]
      -- the calls of each part are among those of the whole
      rcases List.mem_append.mp hname with hname | hname
      · exact (origin_of_readKeys hjson hkeys hname).mono (by simp)
      · exact (ih hrest hname).mono (by simp)
    · rename_i hmodule
      obtain ⟨⟨others, more⟩, hrest, h⟩ := Traced.outcome_bind_eq_ok_iff.mp h
      obtain ⟨rfl, -⟩ : others = names ∧ _ :: more = tasks := by simpa using h
      rw [if_neg hmodule, Traced.bind_of_ok hrest]
      exact (ih hrest hname).mono (by simp)

/-- The names of a visited module come from its scan or from JSON files. -/
theorem origin_of_visit {task : Task} {names : List String} {tasks : List Task}
    (h : (visit c mode task).outcome = .ok (names, tasks)) (hname : name ∈ names) :
    Origin c mode (visit c mode task).calls name := by
  rw [visit] at h ⊢
  obtain ⟨source, hsource, h⟩ := Traced.outcome_bind_eq_ok_iff.mp h
  obtain ⟨found, hfound, h⟩ := Traced.outcome_bind_eq_ok_iff.mp h
  obtain ⟨⟨keys, more⟩, hkeys, h⟩ := Traced.outcome_bind_eq_ok_iff.mp h
  obtain ⟨rfl, -⟩ : found.exports ++ keys = names ∧ more = tasks := by simpa using h
  rw [Traced.bind_of_ok hsource, Traced.bind_of_ok hfound, Traced.bind_of_ok hkeys]
  rcases List.mem_append.mp hname with hname | hname
  · exact .scanned (by simp) hsource hfound hname
  · exact (origin_of_follow hkeys hname).mono (by simp)

/-- The names of a whole run come from its visits, by induction on the fuel. -/
theorem origin_of_run {journey : Journey} {fuel : Nat} {stack : List Task} {names : List String}
    (h : (journey.run c fuel stack).outcome = .ok names) (hname : name ∈ names) :
    Origin c journey.mode (journey.run c fuel stack).calls name := by
  induction fuel generalizing stack names with
  | zero =>
    cases stack with
    | nil =>
      obtain rfl : [] = names := by simpa [Journey.run, Traced.done] using h
      cases hname
    | cons task waiting => simp [Journey.run, Traced.fail] at h
  | succ scans ih =>
    cases stack with
    | nil =>
      obtain rfl : [] = names := by simpa [Journey.run, Traced.done] using h
      cases hname
    | cons task waiting =>
      rw [Journey.run] at h ⊢
      obtain ⟨⟨own, tasks⟩, hvisit, h⟩ := Traced.outcome_bind_eq_ok_iff.mp h
      obtain ⟨others, hothers, h⟩ := Traced.outcome_bind_eq_ok_iff.mp h
      obtain rfl : own ++ others = names := by simpa using h
      simp only [Traced.bind_of_ok hvisit, Traced.bind_of_ok hothers]
      rcases List.mem_append.mp hname with hname | hname
      · exact (origin_of_visit hvisit hname).mono (by simp)
      · exact (ih hothers hname).mono (by simp)

/-- A traversal collects nothing but exports of modules it scanned and keys of JSON files it
read. -/
theorem origin_of_collect {limit : Nat} {entry : Path} {names : List String}
    (h : (collect c mode limit entry).outcome = .ok names) (hname : name ∈ names) :
    Origin c mode (collect c mode limit entry).calls name := by
  unfold collect at h ⊢
  split
  · rename_i hjson
    rw [if_pos hjson] at h
    exact origin_of_readKeys hjson h hname
  · rename_i hjson
    rw [if_neg hjson] at h
    split
    · rename_i hother
      rw [if_pos hother] at h
      obtain rfl : [] = names := by simpa [Traced.done] using h
      cases hname
    · rename_i hscanned
      rw [if_neg hscanned] at h
      exact origin_of_run h hname

end Traversal

end NamedExports
