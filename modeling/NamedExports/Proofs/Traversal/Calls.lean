import NamedExports.Proofs.Trace
import NamedExports.Traversal

/-!
# Calls and how they end

What a traversal calls, kind by kind, and which of its calls fail.  A traversal accounts for its own
end: a success comes after calls that were all answered, and a failure is that of a call or of a
JSON file.  The limit on scans is the one thing that it can fail at by itself, and it is left to the
loop.
-/

namespace NamedExports

/-- The failure of an outcome. -/
def failureOf? {α : Type} : Except Failure α → Option Failure
  | .ok _ => none
  | .error failure => some failure

/-- The failure that a call is answered with.  What is scanned is the text that the file holds. -/
def Collaborators.failure? (c : Collaborators) : Call → Option Failure
  | .read path => failureOf? (c.read path)
  | .resolve base specifier => failureOf? (c.resolve base specifier)
  | .scan path mode called =>
    failureOf? (c.read path >>= fun source => c.scan path source mode called)
  | .load path mode => failureOf? (c.load path mode)

namespace Traversal

/-! ## Kinds of calls -/

/-- The tasks that calls scan, in order. -/
def scans (calls : List Call) : List Task :=
  calls.filterMap fun
    | .scan path _ called => some ⟨path, called⟩
    | _ => none

/-- The directories and specifiers that calls resolve, in order. -/
def resolves (calls : List Call) : List (Path × String) :=
  calls.filterMap fun
    | .resolve base specifier => some (base, specifier)
    | _ => none

/-- The paths that calls read, in order. -/
def reads (calls : List Call) : List Path :=
  calls.filterMap fun
    | .read path => some path
    | _ => none

@[simp] theorem scans_append (first rest : List Call) :
    scans (first ++ rest) = scans first ++ scans rest :=
  List.filterMap_append

@[simp] theorem resolves_append (first rest : List Call) :
    resolves (first ++ rest) = resolves first ++ resolves rest :=
  List.filterMap_append

@[simp] theorem reads_append (first rest : List Call) :
    reads (first ++ rest) = reads first ++ reads rest :=
  List.filterMap_append

/-! ## Accounting for the end -/

variable {c : Collaborators} {mode : Mode}

/-- No call of a list fails. -/
def Answered (c : Collaborators) (calls : List Call) : Prop :=
  ∀ made ∈ calls, c.failure? made = none

/-- Of no calls each is answered. -/
theorem answered_nil : Answered c [] := fun _ h => nomatch h

/-- Calls are all answered if those in front and those behind are. -/
theorem answered_append_iff {first rest : List Call} :
    Answered c (first ++ rest) ↔ Answered c first ∧ Answered c rest :=
  List.forall_mem_append

/-- One call is answered if it does not fail. -/
theorem answered_singleton_iff {made : Call} : Answered c [made] ↔ c.failure? made = none :=
  List.forall_mem_singleton

/-- A computation whose calls account for how it ends. -/
structure Accounts {α : Type} (c : Collaborators) (t : Traced α) : Prop where
  answered : ∀ value, t.outcome = .ok value → Answered c t.calls
  failed : ∀ failure, t.outcome = .error failure →
    (∃ made ∈ t.calls, c.failure? made = some failure) ∨
      ∃ path detail, failure = .malformedJson path detail

namespace Accounts

variable {α β : Type} {x : Traced α} {f : α → Traced β}

/-- What makes no call accounts for its end. -/
theorem pure (value : α) : Accounts c (Pure.pure value : Traced α) where
  answered _ _ := answered_nil
  failed _ h := nomatch h

/-- A single call ends the way it is answered. -/
theorem call {made : Call} {outcome : Except Failure α}
    (h : c.failure? made = failureOf? outcome) : Accounts c (Traced.call made outcome) where
  answered value hok := by
    have hok : outcome = .ok value := hok
    rw [hok] at h
    exact answered_singleton_iff.mpr h
  failed failure herror := by
    have herror : outcome = .error failure := herror
    rw [herror] at h
    exact Or.inl ⟨made, List.mem_cons_self, h⟩

/-- Answered calls before a computation, and a function on its result, change nothing. -/
theorem after {calls : List Call} (hx : Accounts c x) (hcalls : Answered c calls) (g : α → β) :
    Accounts c ⟨calls ++ x.calls, x.outcome.map g⟩ where
  answered value hok := by
    cases h : x.outcome with
    | error failure =>
      rw [h] at hok
      cases hok
    | ok a => exact answered_append_iff.mpr ⟨hcalls, hx.answered a h⟩
  failed failure herror := by
    cases h : x.outcome with
    | ok a =>
      rw [h] at herror
      cases herror
    | error other =>
      rw [h] at herror
      obtain rfl := Except.error.inj herror
      rcases hx.failed other h with ⟨made, hmade, hfailure⟩ | hjson
      · exact Or.inl ⟨made, List.mem_append_right _ hmade, hfailure⟩
      · exact Or.inr hjson

/-- A step that goes on only when all its calls were answered accounts for the end of what follows,
too. -/
theorem bind (hx : Accounts c x) (hf : ∀ a, x.outcome = .ok a → Accounts c (f a)) :
    Accounts c (x >>= f) := by
  cases h : x.outcome with
  | error failure =>
    rw [Traced.bind_of_error h]
    refine ⟨fun _ hok => (nomatch hok), fun other hother => ?_⟩
    obtain rfl := Except.error.inj hother
    exact hx.failed failure h
  | ok a =>
    rw [Traced.bind_of_ok h]
    refine ⟨fun value hok => ?_, fun failure herror => ?_⟩
    · exact answered_append_iff.mpr ⟨hx.answered a h, (hf a h).answered value hok⟩
    · rcases (hf a h).failed failure herror with ⟨made, hmade, hfailure⟩ | hjson
      · exact Or.inl ⟨made, List.mem_append_right _ hmade, hfailure⟩
      · exact Or.inr hjson

end Accounts

/-- Reading the keys of a JSON file is one call. -/
theorem calls_readKeys (path : Path) : (readKeys c path).calls = [.read path] := by
  rw [readKeys]
  cases h : c.read path with
  | error failure => rw [Traced.bind_of_error h, Collaborators.calls_readFile]
  | ok text =>
    rw [Traced.bind_of_ok h]
    rfl

/-- It accounts for its failures: it fails if the file cannot be read, and otherwise only for the
text of the file. -/
theorem readKeys_accounts (path : Path) : Accounts c (readKeys c path) := by
  refine Accounts.bind (.call rfl) ?_
  intro text _
  refine ⟨fun _ _ => answered_nil, fun failure h => Or.inr ?_⟩
  have h : jsonKeys path text = .error failure := h
  rw [jsonKeys] at h
  split at h
  · cases h
  · exact ⟨path, _, (Except.error.inj h).symm⟩

/-- Following the targets of a module accounts for its failures. -/
theorem follow_accounts (base : Path) (targets : List String) :
    Accounts c (follow c base targets) := by
  induction targets with
  | nil => exact .pure ([], [])
  | cons target rest ih =>
    refine Accounts.bind (.call rfl) ?_
    intro path _
    split
    · refine (readKeys_accounts path).bind ?_
      intro keys _
      exact ih.bind fun _ _ => .pure _
    · exact ih.bind fun _ _ => .pure _

/-- So does visiting a module, whatever the kind of its file. -/
theorem visit_accounts (task : Task) : Accounts c (visit c mode task) := by
  refine Accounts.bind (.call rfl) ?_
  intro source hread
  have hread : c.read task.path = .ok source := hread
  -- what is scanned is what was just read
  refine Accounts.bind (.call ?_) ?_
  · rw [Collaborators.failure?, hread]
    rfl
  · intro found _
    exact (follow_accounts _ _).bind fun _ _ => .pure _

/-! ## One visit makes one scan -/

/-- A step makes no scan if neither it nor what follows does. -/
theorem scans_bind_eq_nil {α β : Type} {x : Traced α} {f : α → Traced β}
    (hx : scans x.calls = []) (hf : ∀ a, x.outcome = .ok a → scans (f a).calls = []) :
    scans (x >>= f).calls = [] := by
  cases h : x.outcome with
  | error failure => rw [Traced.bind_of_error h, hx]
  | ok a => rw [Traced.bind_of_ok h, scans_append, hx, hf a h, List.append_nil]

/-- Keys are read without a scan. -/
theorem scans_readKeys (path : Path) : scans (readKeys c path).calls = [] := by
  rw [calls_readKeys]
  rfl

/-- Targets are resolved without a scan. -/
theorem scans_follow (base : Path) (targets : List String) :
    scans (follow c base targets).calls = [] := by
  induction targets with
  | nil => rfl
  | cons target rest ih =>
    refine scans_bind_eq_nil rfl ?_
    intro path _
    split
    · refine scans_bind_eq_nil (scans_readKeys path) ?_
      intro keys _
      exact scans_bind_eq_nil ih fun _ _ => rfl
    · exact scans_bind_eq_nil ih fun _ _ => rfl

/-- A visit that succeeds reads and scans its module, and then follows what the scan reported. -/
theorem calls_visit {task : Task} {names : List String} {tasks : List Task}
    (h : (visit c mode task).outcome = .ok (names, tasks)) :
    ∃ source found keys, c.read task.path = .ok source ∧
      c.scan task.path source mode task.called = .ok found ∧
      (follow c (directoryOf task.path) found.reexports).outcome = .ok (keys, tasks) ∧
      (visit c mode task).calls = .read task.path :: .scan task.path mode task.called ::
        (follow c (directoryOf task.path) found.reexports).calls := by
  rw [visit] at h ⊢
  obtain ⟨source, hread, h⟩ := Traced.outcome_bind_eq_ok_iff.mp h
  obtain ⟨found, hscan, h⟩ := Traced.outcome_bind_eq_ok_iff.mp h
  obtain ⟨⟨keys, more⟩, hfollow, h⟩ := Traced.outcome_bind_eq_ok_iff.mp h
  obtain ⟨-, rfl⟩ : found.exports ++ keys = names ∧ more = tasks := by simpa using h
  refine ⟨source, found, keys, hread, hscan, hfollow, ?_⟩
  rw [Traced.bind_of_ok hread, Traced.bind_of_ok hscan, Traced.bind_of_ok hfollow]
  simp

/-- A visit that succeeds scans its own module and no other. -/
theorem scans_visit {task : Task} {names : List String} {tasks : List Task}
    (h : (visit c mode task).outcome = .ok (names, tasks)) :
    scans (visit c mode task).calls = [task] := by
  obtain ⟨_, _, _, _, _, _, hcalls⟩ := calls_visit h
  rw [hcalls]
  show task :: scans _ = _
  rw [scans_follow]

/-! ## One target -/

/-- Following a target that leads somewhere resolves it, reads the file if it is a JSON file, and
goes on with the others. -/
theorem follow_cons_of_ok {base : Path} {target : String} {rest names : List String}
    {tasks : List Task} (h : (follow c base (target :: rest)).outcome = .ok (names, tasks)) :
    ∃ path others more, c.resolve base (Reexport.decode target).specifier = .ok path ∧
      (follow c base rest).outcome = .ok (others, more) ∧
      ((path.isJson = true ∧ tasks = more ∧ (follow c base (target :: rest)).calls =
          .resolve base (Reexport.decode target).specifier :: .read path ::
            (follow c base rest).calls) ∨
        (path.isJson = false ∧ tasks = ⟨path, (Reexport.decode target).called⟩ :: more ∧
          (follow c base (target :: rest)).calls =
            .resolve base (Reexport.decode target).specifier :: (follow c base rest).calls)) := by
  rw [follow] at h ⊢
  obtain ⟨path, hpath, h⟩ := Traced.outcome_bind_eq_ok_iff.mp h
  rw [Traced.bind_of_ok hpath]
  by_cases hjson : path.isJson = true
  · rw [if_pos hjson] at h ⊢
    obtain ⟨keys, hkeys, h⟩ := Traced.outcome_bind_eq_ok_iff.mp h
    obtain ⟨⟨others, more⟩, hrest, h⟩ := Traced.outcome_bind_eq_ok_iff.mp h
    obtain ⟨-, rfl⟩ : keys ++ others = names ∧ more = tasks := by simpa using h
    refine ⟨path, others, more, hpath, hrest, Or.inl ⟨hjson, rfl, ?_⟩⟩
    rw [Traced.bind_of_ok hkeys, Traced.bind_of_ok hrest, calls_readKeys]
    simp
  · rw [if_neg hjson] at h ⊢
    obtain ⟨⟨others, more⟩, hrest, h⟩ := Traced.outcome_bind_eq_ok_iff.mp h
    obtain ⟨-, rfl⟩ : others = names ∧ _ :: more = tasks := by simpa using h
    refine ⟨path, others, more, hpath, hrest, Or.inr ⟨by simpa using hjson, rfl, ?_⟩⟩
    rw [Traced.bind_of_ok hrest]
    simp

/-! ## One step of a run -/

variable (journey : Journey) {fuel : Nat} {task : Task} {waiting : List Task}

/-- A run ends with a visit that fails. -/
theorem run_cons_of_error {failure : Failure}
    (h : (visit c journey.mode task).outcome = .error failure) :
    journey.run c (fuel + 1) (task :: waiting) =
      ⟨(visit c journey.mode task).calls, .error failure⟩ := by
  rw [Journey.run, Traced.bind_of_error h]

/-- After a visit that succeeds, a run goes on with the tasks it found, the last one first. -/
theorem run_cons_of_ok {names : List String} {tasks : List Task}
    (h : (visit c journey.mode task).outcome = .ok (names, tasks)) :
    journey.run c (fuel + 1) (task :: waiting) =
      ⟨(visit c journey.mode task).calls ++
          (journey.run c fuel (tasks.reverse ++ waiting)).calls,
        (journey.run c fuel (tasks.reverse ++ waiting)).outcome.map (names ++ ·)⟩ := by
  rw [Journey.run, Traced.bind_of_ok h]
  cases hrest : (journey.run c fuel (tasks.reverse ++ waiting)).outcome with
  | error failure =>
    simp only [Traced.bind_of_error hrest]
    rfl
  | ok others =>
    simp only [Traced.bind_of_ok hrest, Traced.calls_pure, List.append_nil]
    rfl

end Traversal

end NamedExports
