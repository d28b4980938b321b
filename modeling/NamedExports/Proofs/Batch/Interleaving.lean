import Mathlib.Algebra.BigOperators.Fin
import Mathlib.Logic.Relation
import NamedExports.Batch
import NamedExports.Pool
import NamedExports.Proofs.Batch.Pausing

/-!
# Workers that share a pool

The requests of a batch are resolved by workers that take turns in any order.  A worker claims a
request that no worker has claimed, and resolves it up to the next scan; each scan takes a memory
from the shared pool, or a new one if the pool is empty, and gives it back when it ends, whatever it
found.  In every order no memory is held twice and each request ends as it does alone.
-/

namespace NamedExports

/-- Nothing is taken from a pool exactly if it has no free memory. -/
theorem Pool.take?_eq_none_iff {pool : Pool} : pool.take? = none ↔ pool.free = [] := by
  cases h : pool.free <;> simp [take?, h]

/-- The first of the free memories is taken. -/
theorem Pool.take?_eq_some_iff {pool rest : Pool} {memory : Nat} :
    pool.take? = some (memory, rest) ↔ pool.free = memory :: rest.free := by
  obtain ⟨others⟩ := rest
  cases h : pool.free <;> simp [take?, h]

namespace Batch

/-! ## Workers and their steps -/

/-- What a worker is at. -/
inductive Worker (count : Nat) where
  | idle
  /-- Between scans of a request, or behind the last one. -/
  | running (index : Fin count) (rest : Pausing ExportList)
  /-- At a scan, with a memory. -/
  | scanning (index : Fin count) (memory : Nat) (scan : PendingScan)
    (next : Except Failure Findings → Pausing ExportList)

namespace Worker

variable {count : Nat}

/-- The memory that a worker holds. -/
def memory? : Worker count → Option Nat
  | scanning _ memory _ _ => some memory
  | _ => none

/-- The request that a worker is at, and how that will end. -/
def heading? (c : Collaborators) : Worker count → Option (Fin count × Except Failure ExportList)
  | idle => none
  | running index rest => some (index, rest.outcome c)
  | scanning index _ scan next => some (index, (next (scan.answer c)).outcome c)

/-- The number of steps that a worker has to take until it is idle. -/
def work (c : Collaborators) : Worker count → Nat
  | idle => 0
  | running _ rest => 2 * (rest.tasks c).length + 1
  | scanning _ _ scan next => 2 * ((next (scan.answer c)).tasks c).length + 2

end Worker

/-- The workers of a batch and what they share. -/
structure State (count workers : Nat) where
  pool : Pool
  /-- The number of memories that have been made. -/
  made : Nat
  unclaimed : Finset (Fin count)
  worker : Fin workers → Worker count
  entries : Fin count → Option BatchEntry

namespace State

variable {count workers : Nat}

/-- The state before the first step. -/
def start (count workers size : Nat) : State count workers where
  pool := .ofSize size
  made := size
  unclaimed := Finset.univ
  worker _ := .idle
  entries _ := none

/-- The memory that each worker holds. -/
def held (s : State count workers) (w : Fin workers) : Option Nat := (s.worker w).memory?

/-- The number of scans that are under way, each of which holds a memory. -/
def inFlight (s : State count workers) : Nat :=
  (Finset.univ.filter fun w => (s.held w).isSome).card

/-- The request that each worker is at, and how that will end. -/
def heading (s : State count workers) (c : Collaborators) (w : Fin workers) :
    Option (Fin count × Except Failure ExportList) :=
  (s.worker w).heading? c

/-- All workers are done. -/
def Finished (s : State count workers) : Prop :=
  s.unclaimed = ∅ ∧ ∀ w, s.worker w = .idle

end State

/-- One step of one worker. -/
inductive Step (r : Resolver) (requests : List Request) {workers : Nat} :
    State requests.length workers → State requests.length workers → Prop
  /-- An idle worker claims a request that no worker has claimed. -/
  | claim {s : State requests.length workers} {w : Fin workers} {i : Fin requests.length}
      (hidle : s.worker w = .idle) (hfree : i ∈ s.unclaimed) :
      Step r requests s { s with
        unclaimed := s.unclaimed.erase i
        worker := Function.update s.worker w (.running i (r.runPausing requests[i])) }
  /-- A scan begins with a memory from the pool. -/
  | take {s : State requests.length workers} {w : Fin workers} {i : Fin requests.length}
      {memory : Nat} {pool : Pool} {scan : PendingScan}
      {next : Except Failure Findings → Pausing ExportList}
      (hrunning : s.worker w = .running i (.waiting scan next))
      (htake : s.pool.take? = some (memory, pool)) :
      Step r requests s { s with
        pool := pool
        worker := Function.update s.worker w (.scanning i memory scan next) }
  /-- A scan that finds the pool empty begins with a new memory. -/
  | create {s : State requests.length workers} {w : Fin workers} {i : Fin requests.length}
      {scan : PendingScan} {next : Except Failure Findings → Pausing ExportList}
      (hrunning : s.worker w = .running i (.waiting scan next)) (htake : s.pool.take? = none) :
      Step r requests s { s with
        made := s.made + 1
        worker := Function.update s.worker w (.scanning i s.made scan next) }
  /-- A scan ends, and its memory goes back to the pool. -/
  | give {s : State requests.length workers} {w : Fin workers} {i : Fin requests.length}
      {memory : Nat} {scan : PendingScan} {next : Except Failure Findings → Pausing ExportList}
      (hscanning : s.worker w = .scanning i memory scan next) :
      Step r requests s { s with
        pool := s.pool.give memory
        worker := Function.update s.worker w (.running i (next (scan.answer r.collaborators))) }
  /-- A resolution that has ended leaves an entry. -/
  | finish {s : State requests.length workers} {w : Fin workers} {i : Fin requests.length}
      {outcome : Except Failure ExportList} (hrunning : s.worker w = .running i (.ended outcome)) :
      Step r requests s { s with
        worker := Function.update s.worker w .idle
        entries := Function.update s.entries i (some ⟨requests[i], outcomeOf outcome⟩) }

/-- The states that workers get to from the start, each with the greatest number of scans that have
been under way at once so far. -/
inductive Reaches (r : Resolver) (requests : List Request) (workers size : Nat) :
    State requests.length workers → Nat → Prop
  | start : Reaches r requests workers size (.start requests.length workers size) 0
  | step {s t : State requests.length workers} {peak : Nat}
      (h : Reaches r requests workers size s peak) (hstep : Step r requests s t) :
      Reaches r requests workers size t (max peak t.inFlight)

/-! ## What a step changes -/

section

variable {r : Resolver} {requests : List Request} {workers size peak : Nat}
  {s t : State requests.length workers}

/-- What a step does to one worker it does to what is said of that worker. -/
theorem comp_update {α : Type} (f : Worker requests.length → α)
    (worker : Fin workers → Worker requests.length) (w : Fin workers)
    (after : Worker requests.length) :
    (fun v => f (Function.update worker w after v)) =
      Function.update (fun v => f (worker v)) w (f after) :=
  Function.comp_update f worker w after

/-- A step that leaves what is said of its worker leaves all that is said. -/
theorem comp_update_of_eq {α : Type} {f : Worker requests.length → α}
    {worker : Fin workers → Worker requests.length} {w : Fin workers}
    {before after : Worker requests.length} (hbefore : worker w = before)
    (h : f after = f before) :
    (fun v => f (Function.update worker w after v)) = fun v => f (worker v) := by
  rw [comp_update, h, ← hbefore, Function.update_eq_self]

/-- What a step changes of the pool: nothing, or one scan begins with a memory that was free or is
new, or one ends and its memory is free again. -/
inductive Exchange (s t : State requests.length workers) : Prop
  | none (hpool : t.pool = s.pool) (hmade : t.made = s.made) (hheld : t.held = s.held)
  | take {w : Fin workers} {memory : Nat} (hnone : s.held w = .none)
      (hfree : s.pool.free = memory :: t.pool.free) (hmade : t.made = s.made)
      (hheld : t.held = Function.update s.held w (some memory))
  | create {w : Fin workers} (hnone : s.held w = .none) (hempty : s.pool.free = [])
      (hpool : t.pool = s.pool) (hmade : t.made = s.made + 1)
      (hheld : t.held = Function.update s.held w (some s.made))
  | give {w : Fin workers} {memory : Nat} (hsome : s.held w = some memory)
      (hfree : t.pool.free = memory :: s.pool.free) (hmade : t.made = s.made)
      (hheld : t.held = Function.update s.held w .none)

/-- What a step does to the pool and to what the workers hold. -/
theorem Step.exchange (h : Step r requests s t) : Exchange s t := by
  cases h with
  | claim hidle _ => exact .none rfl rfl (comp_update_of_eq hidle rfl)
  | take hrunning htake =>
    exact .take (congrArg Worker.memory? hrunning) (Pool.take?_eq_some_iff.mp htake) rfl
      (comp_update Worker.memory? _ _ _)
  | create hrunning htake =>
    exact .create (congrArg Worker.memory? hrunning) (Pool.take?_eq_none_iff.mp htake) rfl rfl
      (comp_update Worker.memory? _ _ _)
  | give hscanning =>
    exact .give (congrArg Worker.memory? hscanning) rfl rfl (comp_update Worker.memory? _ _ _)
  | finish hrunning => exact .none rfl rfl (comp_update_of_eq hrunning rfl)

/-- What a step changes of the requests: nothing, or one is claimed, or one that is done leaves its
entry. -/
inductive Advance (r : Resolver) (requests : List Request) {workers : Nat}
    (s t : State requests.length workers) : Prop
  | none (hunclaimed : t.unclaimed = s.unclaimed) (hentries : t.entries = s.entries)
      (hheading : t.heading r.collaborators = s.heading r.collaborators)
  | claim {w : Fin workers} {i : Fin requests.length}
      (hnone : s.heading r.collaborators w = .none) (hfree : i ∈ s.unclaimed)
      (hunclaimed : t.unclaimed = s.unclaimed.erase i) (hentries : t.entries = s.entries)
      (hheading : t.heading r.collaborators =
        Function.update (s.heading r.collaborators) w (some (i, (r.run requests[i]).outcome)))
  | finish {w : Fin workers} {i : Fin requests.length} {outcome : Except Failure ExportList}
      (hsome : s.heading r.collaborators w = some (i, outcome))
      (hunclaimed : t.unclaimed = s.unclaimed)
      (hentries : t.entries =
        Function.update s.entries i (some ⟨requests[i], outcomeOf outcome⟩))
      (hheading : t.heading r.collaborators =
        Function.update (s.heading r.collaborators) w .none)

/-- What a step does to the requests and to the entries. -/
theorem Step.advance (h : Step r requests s t) : Advance r requests s t := by
  have hupdate := @comp_update requests workers _ (Worker.heading? r.collaborators)
  cases h with
  | @claim w i hidle hfree =>
    refine .claim (congrArg (Worker.heading? _) hidle) hfree rfl rfl ((hupdate _ _ _).trans ?_)
    rw [Worker.heading?, (r.runPausing_follows requests[i]).outcome_eq]
    rfl
  | take hrunning _ => exact .none rfl rfl (comp_update_of_eq hrunning rfl)
  | create hrunning _ => exact .none rfl rfl (comp_update_of_eq hrunning rfl)
  | give hscanning => exact .none rfl rfl (comp_update_of_eq hscanning rfl)
  | finish hrunning =>
    exact .finish (congrArg (Worker.heading? _) hrunning) rfl rfl (hupdate _ _ _)

/-! ## No memory is held twice -/

/-- A memory is free or held by one worker, and a new one is none of them. -/
structure Exclusive (s : State requests.length workers) : Prop where
  free_nodup : s.pool.free.Nodup
  free_lt : ∀ memory ∈ s.pool.free, memory < s.made
  held_lt : ∀ w memory, s.held w = some memory → memory < s.made
  held_not_free : ∀ w memory, s.held w = some memory → memory ∉ s.pool.free
  held_once : ∀ w w' memory, s.held w = some memory → s.held w' = some memory → w = w'

/-- Before the first step no memory is held. -/
theorem exclusive_start :
    Exclusive (.start requests.length workers size : State requests.length workers) where
  free_nodup := List.nodup_range
  free_lt _ h := List.mem_range.mp h
  held_lt := nofun
  held_not_free := nofun
  held_once := nofun

/-- A worker that takes a memory nobody holds. -/
theorem Exclusive.of_taken (h : Exclusive s) {w : Fin workers} {memory : Nat}
    (hheld : t.held = Function.update s.held w (some memory))
    (hnew : ∀ v, s.held v ≠ some memory) (hlt : memory < t.made) (hmade : s.made ≤ t.made)
    (hfree : ∀ other ∈ t.pool.free, other ∈ s.pool.free) (hnot : memory ∉ t.pool.free)
    (hnodup : t.pool.free.Nodup) : Exclusive t := by
  have hcases {v : Fin workers} {other : Nat} (hv : t.held v = some other) :
      v = w ∧ other = memory ∨ v ≠ w ∧ s.held v = some other := by
    rw [hheld, Function.update_apply] at hv
    split at hv
    · exact .inl ⟨‹_›, (Option.some.inj hv).symm⟩
    · exact .inr ⟨‹_›, hv⟩
  refine ⟨hnodup, fun other hother => ?_, fun v other hv => ?_, fun v other hv => ?_,
    fun v v' other hv hv' => ?_⟩
  · exact Nat.lt_of_lt_of_le (h.free_lt other (hfree other hother)) hmade
  · obtain ⟨-, rfl⟩ | ⟨-, hv⟩ := hcases hv
    · exact hlt
    · exact Nat.lt_of_lt_of_le (h.held_lt v other hv) hmade
  · obtain ⟨-, rfl⟩ | ⟨-, hv⟩ := hcases hv
    · exact hnot
    · exact fun hother => h.held_not_free v other hv (hfree other hother)
  · obtain ⟨rfl, rfl⟩ | ⟨-, hv⟩ := hcases hv
    · obtain ⟨rfl, -⟩ | ⟨-, hv'⟩ := hcases hv'
      · rfl
      · exact absurd hv' (hnew v')
    · obtain ⟨-, rfl⟩ | ⟨-, hv'⟩ := hcases hv'
      · exact absurd hv (hnew v)
      · exact h.held_once v v' other hv hv'

/-- No step lets a memory be held twice. -/
theorem Exclusive.exchange (h : Exclusive s) (hstep : Exchange s t) : Exclusive t := by
  cases hstep with
  | none hpool hmade hheld =>
    exact ⟨hpool ▸ h.free_nodup, hpool ▸ hmade ▸ h.free_lt, hheld ▸ hmade ▸ h.held_lt,
      hheld ▸ hpool ▸ h.held_not_free, hheld ▸ h.held_once⟩
  | @take w memory hnone hfree hmade hheld =>
    have hmem : memory ∈ s.pool.free := hfree ▸ List.mem_cons_self
    obtain ⟨hnot, hnodup⟩ := List.nodup_cons.mp (hfree ▸ h.free_nodup)
    exact h.of_taken hheld (fun v hv => h.held_not_free v memory hv hmem)
      (hmade ▸ h.free_lt memory hmem) hmade.ge
      (fun other hother => hfree ▸ List.mem_cons_of_mem _ hother) hnot hnodup
  | @create w hnone hempty hpool hmade hheld =>
    refine h.of_taken hheld (fun v hv => Nat.lt_irrefl _ (h.held_lt v _ hv))
      (hmade ▸ Nat.lt_succ_self _) (hmade ▸ Nat.le_succ _) (fun other hother => hpool ▸ hother)
      ?_ (hpool ▸ h.free_nodup)
    rw [hpool, hempty]
    exact List.not_mem_nil
  | @give w memory hsome hfree hmade hheld =>
    have hkept {v : Fin workers} {other : Nat} (hv : t.held v = some other) :
        v ≠ w ∧ s.held v = some other := by
      rw [hheld, Function.update_apply] at hv
      split at hv
      · cases hv
      · exact ⟨‹_›, hv⟩
    refine ⟨?_, ?_, ?_, ?_, ?_⟩
    · rw [hfree]
      exact List.nodup_cons.mpr ⟨h.held_not_free w memory hsome, h.free_nodup⟩
    · rw [hfree, hmade]
      exact List.forall_mem_cons.mpr ⟨h.held_lt w memory hsome, h.free_lt⟩
    · rw [hmade]
      exact fun v other hv => h.held_lt v other (hkept hv).2
    · intro v other hv hother
      obtain ⟨hne, hv⟩ := hkept hv
      rw [hfree, List.mem_cons] at hother
      obtain rfl | hother := hother
      · exact hne (h.held_once v w _ hv hsome)
      · exact h.held_not_free v other hv hother
    · exact fun v v' other hv hv' => h.held_once v v' other (hkept hv).2 (hkept hv').2

/-! ## As many memories as were ever needed -/

/-- What a sum over all workers becomes when one of them changes. -/
theorem sum_update {α : Type} (f : α → Nat) (g : Fin workers → α) (w : Fin workers) (a : α) :
    (∑ v, f (Function.update g w a v)) + f (g w) = (∑ v, f (g v)) + f a := by
  have hsum := Finset.sum_update_of_mem (Finset.mem_univ w) (fun v => f (g v)) (f a)
  have hall := Finset.add_sum_erase Finset.univ (fun v => f (g v)) (Finset.mem_univ w)
  have hcomp : (fun v => f (Function.update g w a v)) =
      Function.update (fun v => f (g v)) w (f a) :=
    Function.comp_update f g w a
  rw [hcomp, hsum, ← hall, Finset.sdiff_singleton_eq_erase]
  omega

/-- One worker's step changes the number of scans under way by that worker's. -/
theorem inFlight_update {w : Fin workers} {memory : Option Nat}
    (h : t.held = Function.update s.held w memory) :
    t.inFlight + (s.held w).toList.length = s.inFlight + memory.toList.length := by
  have hcard (u : State requests.length workers) :
      u.inFlight = ∑ v, (u.held v).toList.length := by
    rw [State.inFlight, Finset.card_filter]
    refine Finset.sum_congr rfl fun v _ => ?_
    cases u.held v <;> rfl
  rw [hcard, hcard, h]
  exact sum_update (fun memory : Option Nat => memory.toList.length) s.held w memory

/-- The memories are as many as the pool had at first, or as the most scans there have been at
once. -/
structure Counted (size peak : Nat) (s : State requests.length workers) : Prop where
  inFlight_le : s.inFlight ≤ peak
  count_eq : s.pool.free.length + s.inFlight = max size peak

/-- Before the first step the pool has all the memories that there are. -/
theorem counted_start :
    Counted size 0 (.start requests.length workers size : State requests.length workers) := by
  have hnone : (State.start requests.length workers size).inFlight = 0 := by
    rw [State.inFlight, Finset.card_eq_zero]
    exact Finset.filter_eq_empty_iff.mpr fun _ _ => Bool.false_ne_true
  refine ⟨hnone.le, ?_⟩
  rw [hnone, State.start, Pool.ofSize, List.length_range, Nat.add_zero, Nat.max_zero]

/-- A step keeps the count of memories, with the largest number of scans under way so far. -/
theorem Counted.exchange (h : Counted size peak s) (hstep : Exchange s t) :
    Counted size (max peak t.inFlight) t := by
  obtain ⟨hle, hcount⟩ := h
  cases hstep with
  | none hpool hmade hheld =>
    have hflight : t.inFlight = s.inFlight := by rw [State.inFlight, hheld, State.inFlight]
    rw [hflight, Nat.max_eq_left hle]
    exact ⟨hflight ▸ hle, by rw [hpool, hflight, hcount]⟩
  | take hnone hfree _ hheld =>
    have hflight := inFlight_update hheld
    rw [hnone] at hflight
    rw [hfree] at hcount
    simp only [Option.toList, List.length_cons, List.length_nil] at hflight hcount
    exact ⟨Nat.le_max_right _ _, by omega⟩
  | create hnone hempty hpool _ hheld =>
    have hflight := inFlight_update hheld
    rw [hnone] at hflight
    rw [hempty] at hcount
    simp only [Option.toList, List.length_cons, List.length_nil] at hflight hcount
    refine ⟨Nat.le_max_right _ _, ?_⟩
    rw [hpool, hempty, List.length_nil]
    omega
  | give hsome hfree _ hheld =>
    have hflight := inFlight_update hheld
    rw [hsome] at hflight
    simp only [Option.toList, List.length_cons, List.length_nil] at hflight
    refine ⟨Nat.le_max_right _ _, ?_⟩
    rw [hfree, List.length_cons]
    omega

/-! ## Each request ends as it does alone -/

/-- Requests are unclaimed, or at a worker that is heading where they end alone, or have the entry
that they have alone. -/
structure OnCourse (r : Resolver) (requests : List Request) {workers : Nat}
    (s : State requests.length workers) : Prop where
  heading_eq : ∀ w i outcome, s.heading r.collaborators w = some (i, outcome) →
    outcome = (r.run requests[i]).outcome
  entry_eq : ∀ i result, s.entries i = some result → result = Batch.entry r requests[i]
  accounted : ∀ i, i ∈ s.unclaimed ∨ (∃ w outcome, s.heading r.collaborators w =
    some (i, outcome)) ∨ s.entries i ≠ none

/-- Before the first step no request is claimed. -/
theorem onCourse_start :
    OnCourse r requests
      (.start requests.length workers size : State requests.length workers) where
  heading_eq := nofun
  entry_eq := nofun
  accounted i := .inl (Finset.mem_univ i)

/-- A step keeps each claimed request on its way to where it ends alone. -/
theorem OnCourse.advance (h : OnCourse r requests s) (hstep : Advance r requests s t) :
    OnCourse r requests t := by
  cases hstep with
  | none hunclaimed hentries hheading =>
    exact ⟨hheading ▸ h.heading_eq, hentries ▸ h.entry_eq,
      hunclaimed ▸ hentries ▸ hheading ▸ h.accounted⟩
  | @claim w i hnone hfree hunclaimed hentries hheading =>
    refine ⟨fun v j outcome hv => ?_, hentries ▸ h.entry_eq, fun j => ?_⟩
    · rw [hheading, Function.update_apply] at hv
      split at hv
      · obtain ⟨rfl, rfl⟩ := Prod.mk.inj (Option.some.inj hv)
        rfl
      · exact h.heading_eq v j outcome hv
    · rw [hunclaimed, hentries, hheading]
      by_cases hj : j = i
      · exact .inr (.inl ⟨w, _, by rw [Function.update_self, hj]⟩)
      · obtain hmem | ⟨v, outcome, hv⟩ | hentry := h.accounted j
        · exact .inl (Finset.mem_erase.mpr ⟨hj, hmem⟩)
        · refine .inr (.inl ⟨v, outcome, ?_⟩)
          have hne : v ≠ w := by
            rintro rfl
            rw [hnone] at hv
            cases hv
          rw [Function.update_of_ne hne, hv]
        · exact .inr (.inr hentry)
  | @finish w i outcome hsome hunclaimed hentries hheading =>
    refine ⟨fun v j other hv => ?_, fun j result hj => ?_, fun j => ?_⟩
    · rw [hheading, Function.update_apply] at hv
      split at hv
      · cases hv
      · exact h.heading_eq v j other hv
    · rw [hentries, Function.update_apply] at hj
      split at hj
      · rename_i heq
        subst heq
        rw [← Option.some.inj hj, h.heading_eq w j outcome hsome, Batch.entry]
      · exact h.entry_eq j result hj
    · rw [hunclaimed, hentries, hheading]
      by_cases hj : j = i
      · refine .inr (.inr ?_)
        rw [hj, Function.update_self]
        exact Option.some_ne_none _
      · obtain hmem | ⟨v, other, hv⟩ | hentry := h.accounted j
        · exact .inl hmem
        · refine .inr (.inl ⟨v, other, ?_⟩)
          have hne : v ≠ w := by
            rintro rfl
            exact hj (Prod.mk.inj (Option.some.inj (hv.symm.trans hsome))).1
          rw [Function.update_of_ne hne, hv]
        · refine .inr (.inr ?_)
          rwa [Function.update_of_ne hj]

/-! ## Workers finish -/

/-- The number of steps that are left: those of the workers, and for each unclaimed request its claim
and the steps behind it. -/
def State.work (r : Resolver) (s : State requests.length workers) : Nat :=
  (∑ i ∈ s.unclaimed, (2 * ((r.runPausing requests[i]).tasks r.collaborators).length + 2)) +
    ∑ w, (s.worker w).work r.collaborators

/-- One worker's step changes the work of all by that worker's. -/
theorem work_update (r : Resolver) {w : Fin workers} {before : Worker requests.length}
    (h : s.worker w = before) (after : Worker requests.length) :
    (∑ v, (Function.update s.worker w after v).work r.collaborators) +
        before.work r.collaborators =
      (∑ v, (s.worker v).work r.collaborators) + after.work r.collaborators :=
  h ▸ sum_update (Worker.work r.collaborators) s.worker w after

/-- A step of a worker that is at a request leaves one step less. -/
theorem work_of_worker {w : Fin workers} {before after : Worker requests.length}
    (hbefore : s.worker w = before) (hunclaimed : t.unclaimed = s.unclaimed)
    (hafter : t.worker = Function.update s.worker w after)
    (h : after.work r.collaborators + 1 = before.work r.collaborators) :
    t.work r + 1 = s.work r := by
  have hsum := work_update r hbefore after
  rw [State.work, State.work, hunclaimed, hafter]
  omega

/-- Each step leaves one step less. -/
theorem Step.work_lt (h : Step r requests s t) : t.work r + 1 = s.work r := by
  cases h with
  | @claim w i hidle hfree =>
    have hsum := work_update r hidle (.running i (r.runPausing requests[i]))
    have hclaim := Finset.sum_erase_add s.unclaimed
      (fun i => 2 * ((r.runPausing requests[i]).tasks r.collaborators).length + 2) hfree
    have hbefore : (Worker.idle : Worker requests.length).work r.collaborators = 0 := rfl
    have hafter : (Worker.running i (r.runPausing requests[i])).work r.collaborators =
      2 * ((r.runPausing requests[i]).tasks r.collaborators).length + 1 := rfl
    simp only [State.work]
    omega
  | take hrunning _ => exact work_of_worker hrunning rfl rfl rfl
  | create hrunning _ => exact work_of_worker hrunning rfl rfl rfl
  | give hscanning => exact work_of_worker hscanning rfl rfl rfl
  | finish hrunning => exact work_of_worker hrunning rfl rfl rfl

/-- Some worker can go on until all are done. -/
theorem finished_or_step (hworkers : 0 < workers) (s : State requests.length workers) :
    s.Finished ∨ ∃ t, Step r requests s t := by
  by_cases hidle : ∀ w, s.worker w = .idle
  · by_cases hunclaimed : s.unclaimed = ∅
    · exact .inl ⟨hunclaimed, hidle⟩
    · obtain ⟨i, hi⟩ := Finset.nonempty_iff_ne_empty.mpr hunclaimed
      exact .inr ⟨_, .claim (hidle ⟨0, hworkers⟩) hi⟩
  · obtain ⟨w, hw⟩ := not_forall.mp hidle
    refine .inr ?_
    cases hworker : s.worker w with
    | idle => exact absurd hworker hw
    | running i rest =>
      cases rest with
      | ended outcome => exact ⟨_, .finish hworker⟩
      | waiting scan next =>
        cases htake : s.pool.take? with
        | none => exact ⟨_, .create hworker htake⟩
        | some taken => exact ⟨_, .take hworker htake⟩
    | scanning i memory scan next => exact ⟨_, .give hworker⟩

/-- The workers can always come to the end, since each step leaves less to do. -/
theorem exists_finished (hworkers : 0 < workers) (s : State requests.length workers) :
    ∃ t, Relation.ReflTransGen (Step r requests) s t ∧ t.Finished := by
  induction hn : s.work r using Nat.strong_induction_on generalizing s with
  | _ n ih =>
    obtain hfinished | ⟨t, ht⟩ := finished_or_step (r := r) hworkers s
    · exact ⟨s, .refl, hfinished⟩
    · have hwork := ht.work_lt
      obtain ⟨u, htu, hu⟩ := ih (t.work r) (by omega) t rfl
      exact ⟨u, .head ht htu, hu⟩

/-! ## Runs -/

/-- What every run keeps. -/
theorem Reaches.invariants (h : Reaches r requests workers size s peak) :
    Exclusive s ∧ Counted size peak s ∧ OnCourse r requests s := by
  induction h with
  | start => exact ⟨exclusive_start, counted_start, onCourse_start⟩
  | step _ hstep ih =>
    obtain ⟨hexclusive, hcounted, hcourse⟩ := ih
    exact ⟨hexclusive.exchange hstep.exchange, hcounted.exchange hstep.exchange,
      hcourse.advance hstep.advance⟩

/-- What is reached from a reached state is reached. -/
theorem Reaches.trans (h : Reaches r requests workers size s peak)
    (hsteps : Relation.ReflTransGen (Step r requests) s t) :
    ∃ peak', Reaches r requests workers size t peak' := by
  induction hsteps with
  | refl => exact ⟨peak, h⟩
  | tail _ hstep ih =>
    obtain ⟨peak', h'⟩ := ih
    exact ⟨_, h'.step hstep⟩

/-- In the end every request has the entry that it has alone. -/
theorem OnCourse.entries_of_finished (h : OnCourse r requests s) (hfinished : s.Finished)
    (i : Fin requests.length) : s.entries i = some (Batch.entry r requests[i]) := by
  obtain hmem | ⟨w, outcome, hw⟩ | hentry := h.accounted i
  · rw [hfinished.1] at hmem
    exact absurd hmem (Finset.notMem_empty i)
  · rw [State.heading, hfinished.2 w] at hw
    cases hw
  · obtain ⟨result, hresult⟩ := Option.ne_none_iff_exists'.mp hentry
    rw [hresult, h.entry_eq i result hresult]

/-- Workers that share a pool do not disturb each other, however their steps interleave: no memory
is held by two scans or free while it is held, there are as many memories as the pool had at first
or as the most scans there have been at once, and when all workers are done, each request has the
entry that it has alone.  Each step brings them closer to that. -/
theorem workers_undisturbed (hworkers : 0 < workers)
    (h : Reaches r requests workers size s peak) :
    (∀ w w' memory, s.held w = some memory → s.held w' = some memory → w = w') ∧
      (∀ w memory, s.held w = some memory → memory ∉ s.pool.free) ∧
      s.pool.free.Nodup ∧
      s.pool.free.length + s.inFlight = max size peak ∧
      (s.Finished →
        (∀ i, s.entries i = some ⟨requests[i], outcomeOf (r.run requests[i]).outcome⟩) ∧
        List.ofFn s.entries = (Batch.run r requests).map some) ∧
      (∀ t, Step r requests s t → t.work r + 1 = s.work r) ∧
      ∃ t, Relation.ReflTransGen (Step r requests) s t ∧ t.Finished := by
  obtain ⟨hexclusive, hcounted, hcourse⟩ := h.invariants
  refine ⟨hexclusive.held_once, hexclusive.held_not_free, hexclusive.free_nodup,
    hcounted.count_eq, fun hfinished => ?_, fun t => Step.work_lt, exists_finished hworkers s⟩
  have hentries := hcourse.entries_of_finished hfinished
  refine ⟨hentries, ?_⟩
  refine List.ext_getElem (by simp [Batch.run]) fun i hi hi' => ?_
  rw [List.getElem_ofFn, hcourse.entries_of_finished hfinished]
  simp [Batch.run]

end

/-! ## An example -/

/-- A resolver for modules without re-exports, of which the scan of one fails. -/
def pairResolver : Resolver where
  collaborators := {
    read := fun _ => .ok ""
    resolve := fun _ specifier => .ok ⟨specifier⟩
    scan := fun path _ _ _ =>
      if path == ⟨"a.js"⟩ then .ok ⟨["a"], []⟩ else .error (.scan path "unexpected end")
    load := fun path _ => .error (.runtimeLoad path "") }
  policy := ⟨false, []⟩
  limit := 10

/-- A request that is resolved, and one that fails. -/
def pairRequests : List Request := [⟨⟨"/"⟩, "a.js", .production⟩, ⟨⟨"/"⟩, "b.js", .production⟩]

/-- Two workers with a pool of one memory can be at their scans at once. -/
theorem exists_both_scanning :
    ∃ s peak, Reaches pairResolver pairRequests 2 1 s peak ∧ s.inFlight = 2 := by
  have began : Reaches pairResolver pairRequests 2 1 _ 0 := .start
  have claimed := began.step (.claim (w := 0) (i := ⟨0, by decide⟩) rfl (Finset.mem_univ _))
  have both := claimed.step (.claim (w := 1) (i := ⟨1, by decide⟩) rfl (by decide))
  have taken := both.step (.take (w := 0) rfl rfl)
  exact ⟨_, _, taken.step (.create (w := 1) rfl rfl), by decide⟩

/-- With both workers at their scans the memories are as many as the most scans so far, and from
there the workers finish, with the two entries in order. -/
theorem workers_undisturbed_pair :
    ∃ s t peak peak', Reaches pairResolver pairRequests 2 1 s peak ∧ s.inFlight = 2 ∧
      s.pool.free.length + 2 = max 1 peak ∧
      Reaches pairResolver pairRequests 2 1 t peak' ∧ t.Finished ∧
      List.ofFn t.entries =
        [some ⟨⟨⟨"/"⟩, "a.js", .production⟩, .resolved ⟨["a"]⟩⟩,
          some ⟨⟨⟨"/"⟩, "b.js", .production⟩,
            .failed "Could not parse 'b.js' as CommonJS: unexpected end"⟩] := by
  obtain ⟨s, peak, hs, hflight⟩ := exists_both_scanning
  obtain ⟨-, -, -, hcount, -, -, t, hst, hfinished⟩ := workers_undisturbed (by decide) hs
  obtain ⟨peak', ht⟩ := hs.trans hst
  obtain ⟨-, -, -, -, hend, -⟩ := workers_undisturbed (by decide) ht
  rw [hflight] at hcount
  exact ⟨s, t, peak, peak', hs, hflight, hcount, ht, hfinished,
    (hend hfinished).2.trans (by decide +kernel)⟩

end Batch

end NamedExports
