import Mathlib.Data.List.Perm.Basic
import NamedExports.Proofs.Path
import NamedExports.Proofs.Traversal.Calls
import NamedExports.Proofs.Traversal.Limit

/-!
# The discipline of a traversal's calls

Every call of a traversal has its reason in the calls before it.  `Allowed` says what a call may be
after a past: a module is scanned right after it was read, and only if it is the entry or a target
that was reported and resolved before; a specifier is resolved for a target of the module that was
scanned last.  `run_disciplined` carries this through the stack, on which every task is reached by
the past.

In a run that succeeds nothing that was reported is forgotten, and nothing is followed twice.
-/

namespace NamedExports

/-! ## Targets as text -/

namespace Reexport

/-- A target is its specifier, with the marker behind it if the module is called. -/
theorem encode_decode (target : String) : (decode target).encode = target := by
  rw [decode]
  split
  · rename_i hmarked
    obtain ⟨front, hfront⟩ := List.isSuffixOf_iff_suffix.mp hmarked
    have htake : target.toList.take (target.toList.length - callMarker.toList.length) = front := by
      rw [← hfront, List.length_append, Nat.add_sub_cancel, List.take_left]
    show String.ofList _ ++ callMarker = target
    rw [htake, ← String.toList_inj, String.toList_append, String.toList_ofList, hfront]
  · rfl

/-- The marker of a call is read back, whatever the specifier ends with. -/
theorem decode_encode_of_called (specifier : String) :
    decode (Reexport.mk specifier true).encode = ⟨specifier, true⟩ := by
  have htext : (Reexport.mk specifier true).encode.toList =
      specifier.toList ++ callMarker.toList := String.toList_append
  rw [decode, if_pos (List.isSuffixOf_iff_suffix.mpr (htext ▸ List.suffix_append _ _))]
  simp only [htext, List.length_append, Nat.add_sub_cancel, List.take_left, String.ofList_toList]

/-- A module is called exactly if its target ends with the marker. -/
theorem called_decode_iff (target : String) :
    (decode target).called = true ↔ callMarker.toList <:+ target.toList := by
  rw [← List.isSuffixOf_iff_suffix, decode]
  split
  · rename_i hmarked
    exact iff_of_true rfl hmarked
  · rename_i hmarked
    exact iff_of_false nofun hmarked

end Reexport

namespace Traversal

variable {c : Collaborators} {mode : Mode} {entry : Path}

/-! ## What a call may follow -/

/-- The targets that the scan of a task reports. -/
def targets (c : Collaborators) (mode : Mode) (task : Task) : List String :=
  match c.read task.path >>= fun source => c.scan task.path source mode task.called with
  | .ok found => found.reexports
  | .error _ => []

/-- The tasks that calls reach: the entry, which is not called, and the paths that the specifiers of
reported targets were resolved to, which are called exactly if the target has the marker. -/
inductive Reached (c : Collaborators) (mode : Mode) (entry : Path) (past : List Call) :
    Task → Prop where
  | entry : Reached c mode entry past ⟨entry, false⟩
  | target {parent : Task} {target specifier : String} {called : Bool} {path : Path}
      (scanned : .scan parent.path mode parent.called ∈ past)
      (reported : target ∈ targets c mode parent)
      (text : target = if called then specifier ++ callMarker else specifier)
      (marked : called = true ↔ callMarker.toList <:+ target.toList)
      (resolved : .resolve (directoryOf parent.path) specifier ∈ past)
      (answer : c.resolve (directoryOf parent.path) specifier = .ok path) :
      Reached c mode entry past ⟨path, called⟩

/-- The calls that may come after a past. -/
inductive Allowed (c : Collaborators) (mode : Mode) (entry : Path) (past : List Call) :
    Call → Prop where
  | read {task : Task} (reached : Reached c mode entry past task) :
      Allowed c mode entry past (.read task.path)
  /-- A module is scanned right after it was read. -/
  | scan {task : Task} {before : List Call} {source : String}
      (reached : Reached c mode entry past task) (isModule : task.path.isJson = false)
      (last : past = before ++ [.read task.path]) (read : c.read task.path = .ok source) :
      Allowed c mode entry past (.scan task.path mode task.called)
  /-- A specifier is that of a target of the module that was scanned last. -/
  | resolve {task : Task} {target : String} (last : (scans past).getLast? = some task)
      (reported : target ∈ targets c mode task) :
      Allowed c mode entry past
        (.resolve (directoryOf task.path) (Reexport.decode target).specifier)

/-- Calls each of which may come after those before it, none of which failed. -/
def Disciplined (c : Collaborators) (mode : Mode) (entry : Path) (past calls : List Call) : Prop :=
  ∀ front made back, calls = front ++ made :: back →
    Answered c (past ++ front) ∧ Allowed c mode entry (past ++ front) made

/-- A past that grows reaches more. -/
theorem Reached.mono {past more : List Call} {task : Task} (h : Reached c mode entry past task)
    (hsub : past ⊆ more) : Reached c mode entry more task := by
  cases h with
  | entry => exact .entry
  | target scanned reported text marked resolved answer =>
    exact .target (hsub scanned) reported text marked (hsub resolved) answer

namespace Disciplined

variable {past : List Call}

/-- No calls are disciplined. -/
theorem nil : Disciplined c mode entry past [] := by
  intro front made back h
  cases front <;> cases h

/-- One call is disciplined if it is allowed after the calls so far. -/
theorem singleton {made : Call} (hpast : Answered c past) (h : Allowed c mode entry past made) :
    Disciplined c mode entry past [made] := by
  intro front other back heq
  obtain ⟨rfl, rfl⟩ : front = [] ∧ other = made := by
    cases front with
    | nil => exact ⟨rfl, (List.cons.inj heq).1.symm⟩
    | cons first rest => simp at heq
  rw [List.append_nil]
  exact ⟨hpast, h⟩

/-- Disciplined calls can be followed by others, which are disciplined after them. -/
theorem append {first rest : List Call} (hfirst : Disciplined c mode entry past first)
    (hrest : Disciplined c mode entry (past ++ first) rest) :
    Disciplined c mode entry past (first ++ rest) := by
  intro front made back h
  rcases List.append_eq_append_iff.mp h with ⟨middle, rfl, hback⟩ | ⟨middle, hfront, hback⟩
  · rw [← List.append_assoc]
    exact hrest middle made back hback
  · cases middle with
    | nil =>
      obtain rfl : first = front := by simpa using hfront
      have hnext := hrest [] made back hback.symm
      rwa [List.append_nil] at hnext
    | cons next others =>
      obtain ⟨rfl, -⟩ := List.cons.inj hback
      exact hfirst front made others hfront

/-- A step that goes on after its calls were answered is disciplined if both parts are. -/
theorem bind {α β : Type} {x : Traced α} {f : α → Traced β}
    (hx : Disciplined c mode entry past x.calls)
    (hf : ∀ a, x.outcome = .ok a → Disciplined c mode entry (past ++ x.calls) (f a).calls) :
    Disciplined c mode entry past (x >>= f).calls := by
  cases h : x.outcome with
  | error failure =>
    rw [Traced.bind_of_error h]
    exact hx
  | ok a =>
    rw [Traced.bind_of_ok h]
    exact hx.append (hf a h)

end Disciplined

/-! ## Each part keeps the discipline -/

variable {past : List Call}

/-- Reading the keys of a module that was reached is disciplined. -/
theorem readKeys_disciplined {task : Task} (hpast : Answered c past)
    (hreached : Reached c mode entry past task) :
    Disciplined c mode entry past (readKeys c task.path).calls := by
  rw [calls_readKeys]
  exact .singleton hpast (.read hreached)

/-- A target that was resolved is reached. -/
theorem reached_of_resolved {parent : Task} {target : String} {path : Path}
    (hscanned : .scan parent.path mode parent.called ∈ past)
    (hreported : target ∈ targets c mode parent)
    (hresolved : .resolve (directoryOf parent.path) (Reexport.decode target).specifier ∈ past)
    (hpath : c.resolve (directoryOf parent.path) (Reexport.decode target).specifier = .ok path) :
    Reached c mode entry past ⟨path, (Reexport.decode target).called⟩ :=
  .target hscanned hreported (Reexport.encode_decode target).symm
    (Reexport.called_decode_iff target) hresolved hpath

/-- Between the scan of a module and the next one, all its targets are followed. -/
theorem follow_disciplined {parent : Task} {reported : List String} (hpast : Answered c past)
    (hscanned : .scan parent.path mode parent.called ∈ past)
    (hlast : (scans past).getLast? = some parent)
    (hreported : ∀ target ∈ reported, target ∈ targets c mode parent) :
    Disciplined c mode entry past (follow c (directoryOf parent.path) reported).calls := by
  induction reported generalizing past with
  | nil => exact .nil
  | cons target rest ih =>
    obtain ⟨htarget, hrest⟩ := List.forall_mem_cons.mp hreported
    rw [follow]
    refine Disciplined.bind (.singleton hpast (.resolve hlast htarget)) fun path hpath => ?_
    have hpath :
        c.resolve (directoryOf parent.path) (Reexport.decode target).specifier = .ok path := hpath
    -- neither the specifier nor a JSON file is a scan, so the module scanned last stays the same
    have hresolve : Answered c (past ++ [.resolve (directoryOf parent.path)
        (Reexport.decode target).specifier]) := by
      refine answered_append_iff.mpr ⟨hpast, answered_singleton_iff.mpr ?_⟩
      rw [Collaborators.failure?, hpath]
      rfl
    split
    · have hreached : Reached c mode entry (past ++ [.resolve (directoryOf parent.path)
          (Reexport.decode target).specifier]) ⟨path, (Reexport.decode target).called⟩ :=
        reached_of_resolved (by simp [hscanned]) htarget (by simp) hpath
      refine Disciplined.bind (readKeys_disciplined hresolve hreached) fun keys hkeys => ?_
      refine Disciplined.bind (ih ?_ ?_ ?_ hrest) fun _ _ => .nil
      · exact answered_append_iff.mpr ⟨hresolve, (readKeys_accounts path).answered _ hkeys⟩
      · simp [hscanned]
      · rw [scans_append, scans_readKeys, List.append_nil, scans_append]
        simpa [scans] using hlast
    · refine Disciplined.bind (ih hresolve ?_ ?_ hrest) fun _ _ => .nil
      · simp [hscanned]
      · rw [scans_append]
        simpa [scans] using hlast

/-- What following targets adds to the stack is reached. -/
theorem reached_of_follow {parent : Task} {reported names : List String} {tasks : List Task}
    (hscanned : .scan parent.path mode parent.called ∈ past)
    (hreported : ∀ target ∈ reported, target ∈ targets c mode parent)
    (h : (follow c (directoryOf parent.path) reported).outcome = .ok (names, tasks)) :
    ∀ task ∈ tasks, task.path.isJson = false ∧
      Reached c mode entry (past ++ (follow c (directoryOf parent.path) reported).calls) task := by
  induction reported generalizing names tasks past with
  | nil =>
    obtain ⟨-, rfl⟩ : [] = names ∧ [] = tasks := by simpa [follow, Traced.done] using h
    simp
  | cons target rest ih =>
    obtain ⟨htarget, hrest⟩ := List.forall_mem_cons.mp hreported
    obtain ⟨path, others, more, hpath, hmore, hcases⟩ := follow_cons_of_ok h
    have hreached := ih hscanned hrest hmore
    rcases hcases with ⟨-, rfl, hcalls⟩ | ⟨hmodule, rfl, hcalls⟩
    · intro task htask
      obtain ⟨htask, hreached⟩ := hreached task htask
      refine ⟨htask, hreached.mono ?_⟩
      rw [hcalls]
      exact List.append_subset.mpr ⟨List.subset_append_left _ _, fun made hmade => by simp [hmade]⟩
    · rw [List.forall_mem_cons]
      refine ⟨⟨hmodule, ?_⟩, fun task htask => ?_⟩
      · rw [hcalls]
        exact reached_of_resolved (by simp [hscanned]) htarget (by simp) hpath
      · obtain ⟨htask, hreached⟩ := hreached task htask
        refine ⟨htask, hreached.mono ?_⟩
        rw [hcalls]
        exact List.append_subset.mpr
          ⟨List.subset_append_left _ _, fun made hmade => by simp [hmade]⟩

/-- The targets of a module that was scanned are those of its findings. -/
theorem targets_of_scan {task : Task} {source : String} {found : Findings}
    (hread : c.read task.path = .ok source)
    (hscan : c.scan task.path source mode task.called = .ok found) :
    targets c mode task = found.reexports := by
  rw [targets, hread]
  show (match c.scan task.path source mode task.called with | .ok found => _ | .error _ => _) = _
  rw [hscan]

/-- A visit of a task that is reached reads it, scans it and follows what was reported. -/
theorem visit_disciplined {task : Task} (hpast : Answered c past)
    (hreached : Reached c mode entry past task) (hmodule : task.path.isJson = false) :
    Disciplined c mode entry past (visit c mode task).calls := by
  refine Disciplined.bind (.singleton hpast (.read hreached)) fun source hread => ?_
  have hread : c.read task.path = .ok source := hread
  have hanswered : Answered c (past ++ [.read task.path]) := by
    refine answered_append_iff.mpr ⟨hpast, answered_singleton_iff.mpr ?_⟩
    rw [Collaborators.failure?, hread]
    rfl
  refine Disciplined.bind (.singleton hanswered ?_) fun found hscan => ?_
  · exact .scan (hreached.mono (List.subset_append_left _ _)) hmodule rfl hread
  have hscan : c.scan task.path source mode task.called = .ok found := hscan
  refine Disciplined.bind (follow_disciplined ?_ ?_ ?_ ?_) fun _ _ => .nil
  · refine answered_append_iff.mpr ⟨hanswered, answered_singleton_iff.mpr ?_⟩
    rw [Collaborators.failure?, hread]
    show failureOf? (c.scan task.path source mode task.called) = _
    rw [hscan]
    rfl
  · simp
  · rw [scans_append]
    simp [scans]
  · rw [targets_of_scan hread hscan]
    exact fun target htarget => htarget

/-- What a visit adds to the stack is reached. -/
theorem reached_of_visit {task : Task} {names : List String} {tasks : List Task}
    (h : (visit c mode task).outcome = .ok (names, tasks)) :
    ∀ child ∈ tasks, child.path.isJson = false ∧
      Reached c mode entry (past ++ (visit c mode task).calls) child := by
  obtain ⟨source, found, keys, hread, hscan, hfollow, hcalls⟩ := calls_visit h
  have hreported : ∀ target ∈ found.reexports, target ∈ targets c mode task := by
    rw [targets_of_scan hread hscan]
    exact fun target htarget => htarget
  have hscanned : .scan task.path mode task.called ∈
      past ++ [.read task.path, .scan task.path mode task.called] := by simp
  intro child hchild
  obtain ⟨hmodule, hreached⟩ := reached_of_follow hscanned hreported hfollow child hchild
  refine ⟨hmodule, ?_⟩
  rw [hcalls]
  simpa using hreached

/-- A stack of reached tasks is worked off with discipline. -/
theorem run_disciplined {limit fuel : Nat} {stack : List Task} (hpast : Answered c past)
    (hstack : ∀ task ∈ stack, task.path.isJson = false ∧ Reached c mode entry past task) :
    Disciplined c mode entry past (Journey.run c ⟨entry, mode, limit⟩ fuel stack).calls := by
  induction fuel generalizing past stack with
  | zero => cases stack <;> exact .nil
  | succ scans ih =>
    cases stack with
    | nil => exact .nil
    | cons task waiting =>
      obtain ⟨⟨hmodule, hreached⟩, hwaiting⟩ := List.forall_mem_cons.mp hstack
      have hvisit := visit_disciplined hpast hreached hmodule
      cases houtcome : (visit c mode task).outcome with
      | error failure =>
        rw [run_cons_of_error ⟨entry, mode, limit⟩ houtcome]
        exact hvisit
      | ok visited =>
        obtain ⟨names, tasks⟩ := visited
        rw [run_cons_of_ok ⟨entry, mode, limit⟩ houtcome]
        refine hvisit.append (ih ?_ ?_)
        · exact answered_append_iff.mpr ⟨hpast, (visit_accounts task).answered _ houtcome⟩
        · intro other hother
          rcases List.mem_append.mp hother with hother | hother
          · exact reached_of_visit houtcome other (List.mem_reverse.mp hother)
          · obtain ⟨hmodule, hreached⟩ := hwaiting other hother
            exact ⟨hmodule, hreached.mono (List.subset_append_left _ _)⟩

/-! ## Nothing is forgotten -/

/-- What targets resolve to, seen from a directory, each with whether it is called. -/
def answers (c : Collaborators) (base : Path) (reported : List String) : List Task :=
  reported.filterMap fun target =>
    match c.resolve base (Reexport.decode target).specifier with
    | .ok path => some ⟨path, (Reexport.decode target).called⟩
    | .error _ => none

/-- The specifiers of targets, with the directory that they are resolved from. -/
def requests (base : Path) (reported : List String) : List (Path × String) :=
  reported.map fun target => (base, (Reexport.decode target).specifier)

/-- Whether a specifier resolves to something else than a JSON file. -/
def leadsToModule (c : Collaborators) (request : Path × String) : Bool :=
  match c.resolve request.1 request.2 with
  | .ok path => !path.isJson
  | .error _ => false

/-- Calls in which each target that a scan reports is resolved once, in order, and what it resolves
to is scanned or read once for it: scanned are the roots and the targets that are modules, and of
JSON files those are read that are targets. -/
structure Complete (c : Collaborators) (mode : Mode) (roots : List Task) (calls : List Call) :
    Prop where
  resolves : resolves calls = (scans calls).flatMap fun task =>
    requests (directoryOf task.path) (targets c mode task)
  scans : (scans calls).Perm (roots ++ (scans calls).flatMap fun task =>
    (answers c (directoryOf task.path) (targets c mode task)).filter (!·.path.isJson))
  reads : (reads calls).filter Path.isJson = (Traversal.scans calls).flatMap fun task =>
    ((answers c (directoryOf task.path) (targets c mode task)).filter (·.path.isJson)).map Task.path

/-- Following targets resolves each of them, reads the JSON files and leaves the modules. -/
theorem follow_complete {base : Path} {reported names : List String} {tasks : List Task}
    (h : (follow c base reported).outcome = .ok (names, tasks)) :
    resolves (follow c base reported).calls = requests base reported ∧
      reads (follow c base reported).calls =
        ((answers c base reported).filter (·.path.isJson)).map Task.path ∧
      tasks = (answers c base reported).filter (!·.path.isJson) := by
  induction reported generalizing names tasks with
  | nil =>
    obtain ⟨-, rfl⟩ : [] = names ∧ [] = tasks := by simpa [follow, Traced.done] using h
    exact ⟨rfl, rfl, rfl⟩
  | cons target rest ih =>
    obtain ⟨path, others, more, hpath, hmore, hcases⟩ := follow_cons_of_ok h
    obtain ⟨hresolves, hreads, hmodules⟩ := ih hmore
    have hanswers : answers c base (target :: rest) =
        ⟨path, (Reexport.decode target).called⟩ :: answers c base rest := by
      rw [answers, List.filterMap_cons, hpath]
      rfl
    have hrequests : requests base (target :: rest) =
        (base, (Reexport.decode target).specifier) :: requests base rest := rfl
    rw [hanswers, hrequests, ← hresolves]
    rcases hcases with ⟨hjson, rfl, hcalls⟩ | ⟨hmodule, rfl, hcalls⟩
    · refine ⟨by rw [hcalls]; rfl, ?_, ?_⟩
      · simp only [List.filter_cons, hjson, if_true, List.map_cons]
        rw [← hreads, hcalls]
        rfl
      · rw [hmodules, List.filter_cons_of_neg (by simp [hjson])]
    · refine ⟨by rw [hcalls]; rfl, ?_, ?_⟩
      · rw [List.filter_cons_of_neg (by simp [hmodule]), ← hreads, hcalls]
        rfl
      · rw [hmodules, List.filter_cons_of_pos (by simp [hmodule])]

/-- What a visit adds to the stack are modules. -/
theorem isJson_of_visit {task : Task} {names : List String} {tasks : List Task}
    (h : (visit c mode task).outcome = .ok (names, tasks)) :
    ∀ child ∈ tasks, child.path.isJson = false := by
  intro child hchild
  obtain ⟨_, _, _, _, _, hfollow, -⟩ := calls_visit h
  rw [(follow_complete hfollow).2.2] at hchild
  simpa using (List.mem_filter.mp hchild).2

/-- A visit in front of calls that are complete for what it adds to the stack. -/
theorem Complete.of_visit {task : Task} {waiting tasks : List Task} {names : List String}
    {later : List Call} (htask : task.path.isJson = false)
    (hvisit : (visit c mode task).outcome = .ok (names, tasks))
    (hlater : Complete c mode (tasks.reverse ++ waiting) later) :
    Complete c mode (task :: waiting) ((visit c mode task).calls ++ later) := by
  obtain ⟨source, found, keys, hread, hscan, hfollow, hcalls⟩ := calls_visit hvisit
  obtain ⟨hresolves, hreads, hmodules⟩ := follow_complete hfollow
  have htargets := targets_of_scan hread hscan
  have hscans : Traversal.scans ((visit c mode task).calls ++ later) =
      task :: Traversal.scans later := by
    rw [scans_append, scans_visit hvisit]
    rfl
  refine ⟨?_, ?_, ?_⟩
  · rw [hscans, List.flatMap_cons, ← hlater.resolves, resolves_append, htargets, ← hresolves,
      hcalls]
    rfl
  -- the tasks are put on the stack in front of those that wait, and counted behind them
  · rw [hscans, List.flatMap_cons, htargets, ← hmodules]
    have hperm : (tasks.reverse ++ waiting).Perm (waiting ++ tasks) :=
      (List.perm_append_comm).trans (.append_left _ (List.reverse_perm tasks))
    rw [List.cons_append, ← List.append_assoc]
    exact .cons task (hlater.scans.trans (hperm.append_right _))
  · have hown : Traversal.reads (visit c mode task).calls =
        task.path :: Traversal.reads (follow c (directoryOf task.path) found.reexports).calls := by
      rw [hcalls]
      rfl
    rw [hscans, List.flatMap_cons, ← hlater.reads, reads_append, List.filter_append, hown,
      List.filter_cons_of_neg (by simp [htask]), hreads, htargets]
    congr 1
    rw [List.filter_eq_self]
    intro path hpath
    obtain ⟨answer, hanswer, rfl⟩ := List.mem_map.mp hpath
    exact (List.mem_filter.mp hanswer).2

/-- A stack that is worked off is scanned, with all that its modules lead to. -/
theorem run_complete {limit fuel : Nat} {stack : List Task} {names : List String}
    (hstack : ∀ task ∈ stack, task.path.isJson = false)
    (h : (Journey.run c ⟨entry, mode, limit⟩ fuel stack).outcome = .ok names) :
    Complete c mode stack (Journey.run c ⟨entry, mode, limit⟩ fuel stack).calls := by
  induction fuel generalizing stack names with
  | zero =>
    cases stack with
    | nil => exact ⟨rfl, .refl _, rfl⟩
    | cons task waiting => cases h
  | succ scans ih =>
    cases stack with
    | nil => exact ⟨rfl, .refl _, rfl⟩
    | cons task waiting =>
      obtain ⟨htask, hwaiting⟩ := List.forall_mem_cons.mp hstack
      cases houtcome : (visit c mode task).outcome with
      | error failure =>
        rw [run_cons_of_error ⟨entry, mode, limit⟩ houtcome] at h
        cases h
      | ok visited =>
        obtain ⟨own, tasks⟩ := visited
        rw [run_cons_of_ok ⟨entry, mode, limit⟩ houtcome] at h ⊢
        cases hothers : (Journey.run c ⟨entry, mode, limit⟩ scans
            (tasks.reverse ++ waiting)).outcome with
        | error failure =>
          rw [hothers] at h
          cases h
        | ok others =>
          have hmore : ∀ other ∈ tasks.reverse ++ waiting, other.path.isJson = false := by
            intro other hother
            rcases List.mem_append.mp hother with hother | hother
            · exact isJson_of_visit houtcome other (List.mem_reverse.mp hother)
            · exact hwaiting other hother
          exact .of_visit htask houtcome (ih hmore hothers)

/-- As many targets are modules as specifiers lead to one. -/
theorem length_modules (base : Path) (reported : List String) :
    ((answers c base reported).filter (!·.path.isJson)).length =
      ((requests base reported).filter (leadsToModule c)).length := by
  induction reported with
  | nil => rfl
  | cons target rest ih =>
    have hrequests : requests base (target :: rest) =
        (base, (Reexport.decode target).specifier) :: requests base rest := rfl
    rw [hrequests, List.filter_cons, answers, List.filterMap_cons]
    cases hpath : c.resolve base (Reexport.decode target).specifier with
    | error failure =>
      simp only [leadsToModule, hpath]
      exact ih
    | ok path =>
      simp only [leadsToModule, hpath, List.filter_cons]
      cases path.isJson with
      | true => exact ih
      | false => exact congrArg (· + 1) ih

/-- Beside the roots, there is one scan for each specifier that leads to a module. -/
theorem Complete.length_scans {roots : List Task} {calls : List Call}
    (h : Complete c mode roots calls) :
    (Traversal.scans calls).length =
      roots.length + ((Traversal.resolves calls).filter (leadsToModule c)).length := by
  rw [h.scans.length_eq, List.length_append, h.resolves]
  congr 1
  induction Traversal.scans calls with
  | nil => rfl
  | cons task rest ih =>
    rw [List.flatMap_cons, List.length_append, ih, length_modules, List.flatMap_cons,
      List.filter_append, List.length_append]

/-! ## Runs -/

/-- Every call of a traversal, whether it succeeds or fails, comes after calls that were answered,
and it is allowed by them.  If the traversal succeeds, each reported target is resolved once and
leads to one scan or one JSON file that is read; so if the entry is a module that is scanned, there
is one scan more than there are specifiers that lead to modules.  Any other entry leads to no scan
and to no resolution. -/
theorem collect_disciplined (c : Collaborators) (mode : Mode) (limit : Nat) (entry : Path) :
    (∀ front made back, (collect c mode limit entry).calls = front ++ made :: back →
      (∀ earlier ∈ front, c.failure? earlier = none) ∧ Allowed c mode entry front made) ∧
    (entry.isScanned = true → ∀ names, (collect c mode limit entry).outcome = .ok names →
      Complete c mode [⟨entry, false⟩] (collect c mode limit entry).calls ∧
        (scans (collect c mode limit entry).calls).length =
          1 + ((resolves (collect c mode limit entry).calls).filter (leadsToModule c)).length) ∧
    (entry.isScanned = false → scans (collect c mode limit entry).calls = [] ∧
      resolves (collect c mode limit entry).calls = []) := by
  refine ⟨?_, fun hscanned => ?_, fun hscanned => ?_⟩
  · have hdisciplined : Disciplined c mode entry [] (collect c mode limit entry).calls := by
      unfold collect
      split
      · exact readKeys_disciplined answered_nil .entry
      · rename_i hmodule
        split
        · exact .nil
        · refine run_disciplined answered_nil ?_
          rw [List.forall_mem_singleton]
          exact ⟨by simpa using hmodule, .entry⟩
    exact hdisciplined
  · have hmodule : entry.isJson = false :=
      Path.isJson_eq_false_of_extension (Path.isScanned_iff.mp hscanned)
    have hrun : collect c mode limit entry =
        Journey.run c ⟨entry, mode, limit⟩ limit [⟨entry, false⟩] := by
      rw [collect, hmodule, hscanned]
      rfl
    rw [hrun]
    intro names h
    have hcomplete : Complete c mode [⟨entry, false⟩]
        (Journey.run c ⟨entry, mode, limit⟩ limit [⟨entry, false⟩]).calls :=
      run_complete (List.forall_mem_singleton.mpr hmodule) h
    exact ⟨hcomplete, hcomplete.length_scans⟩
  · rw [collect, hscanned]
    split
    · rw [calls_readKeys]
      exact ⟨rfl, rfl⟩
    · exact ⟨rfl, rfl⟩

/-- In the circle the second module is scanned after it was resolved for the first one and read, and
the limit ends the run.  A module without targets is scanned once, and one that is no CommonJS module
not at all. -/
theorem collect_circular_disciplined :
    (collect circular .production 2 "/p/a.js").calls =
        [.read "/p/a.js", .scan "/p/a.js" .production false, .resolve "/p" "b.js",
          .read "/p/b.js"] ++ .scan "/p/b.js" .production false :: [.resolve "/p" "a.js"] ∧
      Allowed circular .production "/p/a.js"
        [.read "/p/a.js", .scan "/p/a.js" .production false, .resolve "/p" "b.js",
          .read "/p/b.js"] (.scan "/p/b.js" .production false) ∧
      Path.isScanned "/p/c.js" = true ∧
      (collect circular .production 1 "/p/c.js").outcome = .ok ["c"] ∧
      (scans (collect circular .production 1 "/p/c.js").calls).length = 1 ∧
      Path.isScanned "/p/c.mjs" = false ∧
      scans (collect circular .production 1 "/p/c.mjs").calls = [] := by
  have hcalls : (collect circular .production 2 "/p/a.js").calls =
      [.read "/p/a.js", .scan "/p/a.js" .production false, .resolve "/p" "b.js",
        .read "/p/b.js"] ++ .scan "/p/b.js" .production false :: [.resolve "/p" "a.js"] := rfl
  have hmodule : Path.isScanned "/p/c.js" = true := by decide
  have hother : Path.isScanned "/p/c.mjs" = false := by decide
  have hok : (collect circular .production 1 "/p/c.js").outcome = .ok ["c"] := rfl
  obtain ⟨hallowed, -, -⟩ := collect_disciplined circular .production 2 "/p/a.js"
  obtain ⟨-, hcomplete, -⟩ := collect_disciplined circular .production 1 "/p/c.js"
  obtain ⟨-, -, hnothing⟩ := collect_disciplined circular .production 1 "/p/c.mjs"
  refine ⟨hcalls, (hallowed _ _ _ hcalls).2, hmodule, hok, ?_, hother, (hnothing hother).1⟩
  rw [(hcomplete hmodule _ hok).2]
  rfl

/-- A traversal that starts at an ECMAScript module succeeds without a scan: it has not one scan
more than there are specifiers that lead to modules. -/
theorem scans_of_unscanned_entry :
    (collect circular .production 10 "/p/c.mjs").outcome = .ok [] ∧
      (scans (collect circular .production 10 "/p/c.mjs").calls).length ≠
        1 + ((resolves (collect circular .production 10 "/p/c.mjs").calls).filter
          (leadsToModule circular)).length :=
  ⟨rfl, by decide⟩

end Traversal

end NamedExports
