import NamedExports.Proofs.Traversal.Calls
import NamedExports.Resolver

/-!
# Resolutions that pause

A resolution taken apart at its scans: it runs until it has to scan, says what is to be scanned, and
goes on from what the scan found.  Answered by a scanner, it makes the scans of the resolution as a
whole, in the same order, and ends in the same way.
-/

namespace NamedExports

open Traversal (Task Journey follow directoryOf scans)

/-- A scan to be made. -/
structure PendingScan where
  path : Path
  source : String
  mode : Mode
  called : Bool

namespace PendingScan

/-- What a scan finds. -/
def answer (scan : PendingScan) (c : Collaborators) : Except Failure Findings :=
  c.scan scan.path scan.source scan.mode scan.called

/-- The module that is scanned. -/
def task (scan : PendingScan) : Task := ⟨scan.path, scan.called⟩

end PendingScan

/-- A computation that has ended, or waits for what a scan finds. -/
inductive Pausing (α : Type) where
  | ended (outcome : Except Failure α)
  | waiting (scan : PendingScan) (next : Except Failure Findings → Pausing α)

namespace Pausing

variable {α β : Type}

/-- A computation that goes on with the result of another, unless that failed. -/
def andThen (first : Pausing α) (next : α → Pausing β) : Pausing β :=
  match first with
  | .ended (.ok value) => next value
  | .ended (.error failure) => .ended (.error failure)
  | .waiting scan resume => .waiting scan fun found => (resume found).andThen next

instance : Monad Pausing where
  pure value := .ended (.ok value)
  bind := andThen

/-- A computation that need not scan. -/
def ofTraced (x : Traced α) : Pausing α := .ended x.outcome

/-- A scan and nothing else. -/
def ask (scan : PendingScan) : Pausing Findings := .waiting scan .ended

/-- How a computation ends whose scans are answered. -/
def outcome (c : Collaborators) : Pausing α → Except Failure α
  | .ended outcome => outcome
  | .waiting scan next => (next (scan.answer c)).outcome c

/-- The scans that a computation makes whose scans are answered. -/
def tasks (c : Collaborators) : Pausing α → List Task
  | .ended _ => []
  | .waiting scan next => scan.task :: (next (scan.answer c)).tasks c

/-! ## Doing the same, scan by scan -/

/-- A computation that makes the scans of another one and ends as that does. -/
structure Follows (c : Collaborators) (p : Pausing α) (x : Traced α) : Prop where
  outcome_eq : p.outcome c = x.outcome
  tasks_eq : p.tasks c = scans x.calls

section

variable {c : Collaborators} {p : Pausing α} {x : Traced α}

/-- One computation after the other ends as the second does on what the first gives. -/
theorem outcome_andThen (p : Pausing α) (f : α → Pausing β) : (p.andThen f).outcome c =
    (p.outcome c).bind fun value => (f value).outcome c := by
  induction p with
  | ended outcome => cases outcome <;> rfl
  | waiting scan next ih => exact ih (scan.answer c)

/-- Behind a computation that gives a value the scans of the next one follow. -/
theorem tasks_andThen_of_ok {f : α → Pausing β} {value : α} (h : p.outcome c = .ok value) :
    (p.andThen f).tasks c = p.tasks c ++ (f value).tasks c := by
  induction p with
  | ended outcome =>
    obtain rfl : outcome = .ok value := h
    rfl
  | waiting scan next ih => exact congrArg (scan.task :: ·) (ih (scan.answer c) h)

/-- Behind one that fails no scans follow. -/
theorem tasks_andThen_of_error {f : α → Pausing β} {failure : Failure}
    (h : p.outcome c = .error failure) : (p.andThen f).tasks c = p.tasks c := by
  induction p with
  | ended outcome =>
    obtain rfl : outcome = .error failure := h
    rfl
  | waiting scan next ih => exact congrArg (scan.task :: ·) (ih (scan.answer c) h)

/-- A value without scans follows itself. -/
theorem Follows.pure (value : α) : Follows c (Pure.pure value) (Pure.pure value : Traced α) :=
  ⟨rfl, rfl⟩

/-- What makes no scan need not pause. -/
theorem Follows.ofTraced (h : scans x.calls = []) : Follows c (ofTraced x) x := ⟨rfl, h.symm⟩

/-- A scan is paused for and then made. -/
theorem Follows.ask (scan : PendingScan) :
    Follows c (ask scan) (c.scanSource scan.path scan.source scan.mode scan.called) :=
  ⟨rfl, rfl⟩

/-- Computations that follow each other step by step follow each other as a whole. -/
theorem Follows.bind {f : α → Pausing β} {g : α → Traced β} (h : Follows c p x)
    (hnext : ∀ value, x.outcome = .ok value → Follows c (f value) (g value)) :
    Follows c (p >>= f) (x >>= g) := by
  have houtcome : (p >>= f).outcome c = _ := outcome_andThen p f
  cases hx : x.outcome with
  | error failure =>
    have hp := h.outcome_eq.trans hx
    rw [Traced.bind_of_error hx]
    refine ⟨?_, ?_⟩
    · rw [houtcome, hp]
      rfl
    · exact (tasks_andThen_of_error hp).trans h.tasks_eq
  | ok value =>
    have hp := h.outcome_eq.trans hx
    obtain ⟨hvalue, htasks⟩ := hnext value hx
    rw [Traced.bind_of_ok hx]
    refine ⟨?_, ?_⟩
    · rw [houtcome, hp, ← hvalue]
      rfl
    · rw [Traversal.scans_append, ← h.tasks_eq, ← htasks]
      exact tasks_andThen_of_ok hp

end

end Pausing

/-! ## Resolutions -/

open Pausing (Follows ask ofTraced)

namespace Traversal

variable (c : Collaborators)

/-- Scans one module and follows its targets, pausing at the scan. -/
def visitPausing (mode : Mode) (task : Task) : Pausing (List String × List Task) := do
  let source ← ofTraced (c.readFile task.path)
  let found ← ask ⟨task.path, source, mode, task.called⟩
  let (keys, tasks) ← ofTraced (follow c (directoryOf task.path) found.reexports)
  return (found.exports ++ keys, tasks)

/-- A visit that pauses for its scans makes those of the visit. -/
theorem visitPausing_follows (mode : Mode) (task : Task) :
    Follows c (visitPausing c mode task) (visit c mode task) := by
  refine (Follows.ofTraced rfl).bind fun source _ => (Follows.ask _).bind fun found _ => ?_
  refine (Follows.ofTraced ?_).bind fun _ _ => .pure _
  exact scans_follow _ _

/-- Works off a stack of tasks, pausing at each scan. -/
def Journey.runPausing (journey : Journey) : Nat → List Task → Pausing (List String)
  | _, [] => pure []
  | 0, _ :: _ => .ended (.error (.cycleLimitExceeded journey.entry journey.limit))
  | scans + 1, task :: waiting => do
    let (names, tasks) ← visitPausing c journey.mode task
    let others ← journey.runPausing scans (tasks.reverse ++ waiting)
    return names ++ others

/-- So does a run along a stack of modules, by induction on the fuel. -/
theorem Journey.runPausing_follows (journey : Journey) (fuel : Nat) (stack : List Task) :
    Follows c (journey.runPausing c fuel stack) (journey.run c fuel stack) := by
  induction fuel generalizing stack with
  | zero =>
    cases stack with
    | nil => exact .pure []
    | cons task waiting => exact ⟨rfl, rfl⟩
  | succ fuel ih =>
    cases stack with
    | nil => exact .pure []
    | cons task waiting =>
      exact (visitPausing_follows c journey.mode task).bind fun _ _ =>
        (ih _).bind fun _ _ => .pure _

/-- The candidate names of an entry, pausing at each scan. -/
def collectPausing (mode : Mode) (limit : Nat) (entry : Path) : Pausing (List String) :=
  if entry.isJson then ofTraced (readKeys c entry)
  else if !entry.isScanned then pure []
  else Journey.runPausing c ⟨entry, mode, limit⟩ limit [⟨entry, false⟩]

/-- So does a whole traversal. -/
theorem collectPausing_follows (mode : Mode) (limit : Nat) (entry : Path) :
    Follows c (collectPausing c mode limit entry) (collect c mode limit entry) := by
  unfold collectPausing collect
  split
  · exact .ofTraced (scans_readKeys entry)
  · split
    · exact .pure []
    · exact Journey.runPausing_follows c _ limit _

end Traversal

namespace Resolver

variable (r : Resolver) (request : Request)

/-- The candidate names of a request's entry, pausing at each scan. -/
def candidatesPausing (entry : Path) : Pausing (List String) := do
  let names ← Traversal.collectPausing r.collaborators request.mode r.limit entry
  if entry.isScanned && r.policy.shouldLoad request.specifier names.length then
    ofTraced (loadedKeys r.collaborators entry request.mode)
  else
    return names

/-- Resolves a request, pausing at each scan. -/
def runPausing : Pausing ExportList := do
  let entry ← ofTraced (r.collaborators.resolvePath request.buildDirectory request.specifier)
  let names ← r.candidatesPausing request entry
  return .ofCandidates names

/-- Keys that are loaded are had without a scan. -/
theorem scans_loadedKeys (c : Collaborators) (entry : Path) (mode : Mode) :
    scans (loadedKeys c entry mode).calls = [] :=
  Traversal.scans_bind_eq_nil rfl fun _ _ => rfl

/-- The candidates of a request are found in the same way. -/
theorem candidatesPausing_follows (entry : Path) :
    Follows r.collaborators (r.candidatesPausing request entry) (r.candidates request entry) := by
  refine (Traversal.collectPausing_follows _ _ _ _).bind fun names _ => ?_
  split
  · exact .ofTraced (scans_loadedKeys _ _ _)
  · exact .pure names

/-- A resolution that pauses makes the scans of the resolution as a whole and ends as that does. -/
theorem runPausing_follows : Follows r.collaborators (r.runPausing request) (r.run request) :=
  (Follows.ofTraced rfl).bind fun entry _ =>
    (r.candidatesPausing_follows request entry).bind fun _ _ => .pure _

end Resolver

end NamedExports
