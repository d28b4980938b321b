import Mathlib.Data.List.Forall2
import Mathlib.Logic.Relation
import NamedExports.Proofs.Path
import NamedExports.Proofs.Trace
import NamedExports.Traversal

/-!
# Re-exports unfolded into a tree

The modules that a task reaches form a tree, in which a module stands once for every way that leads
to it.  The tree need not be finite: `Unfolds` relates a task to its tree if it is, and if
everything in it can be read, scanned and resolved.

The traversal works off a stack of tasks.  `run_outcome_eq_ok_iff` says what a stack comes to: a
tree for each task on it, with no more modules in them than scans are left.  The tasks that a module
adds are on the stack in reverse, so the last child comes first in `Tree.names`.
-/

namespace NamedExports.Traversal

/-- What a module exports itself, the keys of the JSON files among its targets, and the trees of its
other targets, in order. -/
inductive Tree where
  | node (exports keys : List String) (children : List Tree)

namespace Tree

mutual

/-- The names that a tree exports: those of the module at the root, the keys of its JSON files, and
the names of its children, the last child first. -/
def names : Tree → List String
  | node exports keys children => exports ++ keys ++ namesFromLast children

/-- The names of several trees, the last tree first. -/
def namesFromLast : List Tree → List String
  | [] => []
  | first :: rest => namesFromLast rest ++ names first

end

mutual

/-- The number of modules in a tree. -/
def size : Tree → Nat
  | node _ _ children => totalSize children + 1

/-- The number of modules in several trees. -/
def totalSize : List Tree → Nat
  | [] => 0
  | first :: rest => size first + totalSize rest

end

theorem namesFromLast_eq (trees : List Tree) :
    namesFromLast trees = trees.reverse.flatMap names := by
  induction trees with
  | nil => rfl
  | cons first rest ih => simp [namesFromLast, ih]

theorem totalSize_append (front back : List Tree) :
    totalSize (front ++ back) = totalSize front + totalSize back := by
  induction front with
  | nil => exact (Nat.zero_add _).symm
  | cons first rest ih => rw [List.cons_append, totalSize, ih, totalSize, Nat.add_assoc]

theorem totalSize_reverse (trees : List Tree) : totalSize trees.reverse = totalSize trees := by
  induction trees with
  | nil => rfl
  | cons first rest ih =>
    rw [List.reverse_cons, totalSize_append, ih]
    simp only [totalSize]
    omega

end Tree

variable {c : Collaborators} {mode : Mode}

/-! ## What a module leads to -/

/-- What re-export targets lead to, seen from a directory: the keys of those that are JSON files and
the tasks of the others, both in the order of the targets. -/
inductive Leads (c : Collaborators) (base : Path) :
    List String → List String → List Task → Prop where
  | nil : Leads c base [] [] []
  | json {target : String} {path : Path} {text : String} {found : List String}
      {targets names : List String} {tasks : List Task}
      (resolved : c.resolve base (Reexport.decode target).specifier = .ok path)
      (isJson : path.isJson = true) (read : c.read path = .ok text)
      (keys : jsonKeys path text = .ok found) (rest : Leads c base targets names tasks) :
      Leads c base (target :: targets) (found ++ names) tasks
  | module {target : String} {path : Path} {targets names : List String} {tasks : List Task}
      (resolved : c.resolve base (Reexport.decode target).specifier = .ok path)
      (isModule : path.isJson = false) (rest : Leads c base targets names tasks) :
      Leads c base (target :: targets) names (⟨path, (Reexport.decode target).called⟩ :: tasks)

/-- A task whose modules form a finite tree, in which nothing fails. -/
inductive Unfolds (c : Collaborators) (mode : Mode) : Task → Tree → Prop where
  | node {task : Task} {source : String} {found : Findings} {keys : List String}
      {tasks : List Task} {children : List Tree}
      (read : c.read task.path = .ok source)
      (scanned : c.scan task.path source mode task.called = .ok found)
      (leads : Leads c (directoryOf task.path) found.reexports keys tasks)
      (unfold : List.Forall₂ (Unfolds c mode) tasks children) :
      Unfolds c mode task (.node found.exports keys children)

/-- One task is that of a re-export target in the module of another. -/
def Reexports (c : Collaborators) (mode : Mode) (task child : Task) : Prop :=
  ∃ source found, c.read task.path = .ok source ∧
    c.scan task.path source mode task.called = .ok found ∧
    ∃ target ∈ found.reexports,
      c.resolve (directoryOf task.path) (Reexport.decode target).specifier = .ok child.path ∧
        child.path.isJson = false ∧ child.called = (Reexport.decode target).called

/-- Nothing fails at a task: its module can be read and scanned, and each of its targets resolves,
to a JSON file only if its keys can be read. -/
def Succeeds (c : Collaborators) (mode : Mode) (task : Task) : Prop :=
  ∃ source found, c.read task.path = .ok source ∧
    c.scan task.path source mode task.called = .ok found ∧
    ∀ target ∈ found.reexports, ∃ path,
      c.resolve (directoryOf task.path) (Reexport.decode target).specifier = .ok path ∧
        (path.isJson = true → ∃ text keys, c.read path = .ok text ∧ jsonKeys path text = .ok keys)

/-- Reading the keys of a JSON file succeeds if the file can be read and understood. -/
theorem readKeys_outcome_eq_ok_iff {path : Path} {keys : List String} :
    (readKeys c path).outcome = .ok keys ↔
      ∃ text, c.read path = .ok text ∧ jsonKeys path text = .ok keys := by
  rw [readKeys, Traced.outcome_bind_eq_ok_iff]
  rfl

/-- Following targets collects what they lead to. -/
theorem follow_outcome_eq_ok_iff {base : Path} {targets names : List String} {tasks : List Task} :
    (follow c base targets).outcome = .ok (names, tasks) ↔ Leads c base targets names tasks := by
  constructor
  · intro h
    induction targets generalizing names tasks with
    | nil =>
      obtain ⟨rfl, rfl⟩ : [] = names ∧ [] = tasks := by simpa [follow, Traced.done] using h
      exact .nil
    | cons target rest ih =>
      rw [follow, Traced.outcome_bind_eq_ok_iff] at h
      obtain ⟨path, hpath, h⟩ := h
      split at h
      · rename_i hjson
        rw [Traced.outcome_bind_eq_ok_iff] at h
        obtain ⟨found, hfound, h⟩ := h
        rw [Traced.outcome_bind_eq_ok_iff] at h
        obtain ⟨⟨others, more⟩, hrest, h⟩ := h
        obtain ⟨rfl, rfl⟩ : found ++ others = names ∧ more = tasks := by simpa using h
        obtain ⟨text, hread, hkeys⟩ := readKeys_outcome_eq_ok_iff.mp hfound
        exact .json hpath hjson hread hkeys (ih hrest)
      · rename_i hmodule
        rw [Traced.outcome_bind_eq_ok_iff] at h
        obtain ⟨⟨others, more⟩, hrest, h⟩ := h
        obtain ⟨rfl, rfl⟩ : others = names ∧ _ :: more = tasks := by simpa using h
        exact .module hpath (by simpa using hmodule) (ih hrest)
  · intro h
    induction h with
    | nil => rfl
    | json resolved isJson read keys rest ih =>
      rw [follow, Traced.outcome_bind_eq_ok_iff]
      refine ⟨_, resolved, ?_⟩
      rw [if_pos isJson, Traced.outcome_bind_eq_ok_iff]
      refine ⟨_, readKeys_outcome_eq_ok_iff.mpr ⟨_, read, keys⟩, ?_⟩
      rw [Traced.outcome_bind_eq_ok_iff]
      exact ⟨_, ih, rfl⟩
    | module resolved isModule rest ih =>
      rw [follow, Traced.outcome_bind_eq_ok_iff]
      refine ⟨_, resolved, ?_⟩
      rw [if_neg (by simp [isModule]), Traced.outcome_bind_eq_ok_iff]
      exact ⟨_, ih, rfl⟩

/-- Visiting a module reads it, scans it and follows its targets. -/
theorem visit_outcome_eq_ok_iff {task : Task} {names : List String} {tasks : List Task} :
    (visit c mode task).outcome = .ok (names, tasks) ↔
      ∃ source found keys, c.read task.path = .ok source ∧
        c.scan task.path source mode task.called = .ok found ∧
        Leads c (directoryOf task.path) found.reexports keys tasks ∧
        found.exports ++ keys = names := by
  simp only [visit, Traced.outcome_bind_eq_ok_iff, Collaborators.outcome_readFile,
    Collaborators.outcome_scanSource, Traced.outcome_pure, Except.ok.injEq, Prod.mk.injEq,
    Prod.exists, follow_outcome_eq_ok_iff]
  constructor
  · rintro ⟨source, hread, found, hscan, keys, more, hleads, hnames, rfl⟩
    exact ⟨source, found, keys, hread, hscan, hleads, hnames⟩
  · rintro ⟨source, found, keys, hread, hscan, hleads, hnames⟩
    exact ⟨source, hread, found, hscan, keys, tasks, hleads, hnames, rfl⟩

/-! ## What a stack comes to -/

/-- Lists related to a concatenation are cut where it is. -/
theorem exists_append_of_forall₂ {α β : Type} {R : α → β → Prop} {front back : List α}
    {others : List β} (h : List.Forall₂ R (front ++ back) others) :
    ∃ first last, others = first ++ last ∧ List.Forall₂ R front first ∧
      List.Forall₂ R back last := by
  induction front generalizing others with
  | nil => exact ⟨[], others, rfl, .nil, h⟩
  | cons a front ih =>
    rw [List.cons_append, List.forall₂_cons_left_iff] at h
    obtain ⟨b, rest, hab, hrest, rfl⟩ := h
    obtain ⟨first, last, rfl, hfirst, hlast⟩ := ih hrest
    exact ⟨b :: first, last, rfl, .cons hab hfirst, hlast⟩

/-- A stack that is worked off has a tree for each of its tasks. -/
theorem unfolds_of_run {journey : Journey} {fuel : Nat} {stack : List Task} {names : List String}
    (h : (journey.run c fuel stack).outcome = .ok names) :
    ∃ trees, List.Forall₂ (Unfolds c journey.mode) stack trees ∧ Tree.totalSize trees ≤ fuel ∧
      trees.flatMap Tree.names = names := by
  induction fuel generalizing stack names with
  | zero =>
    cases stack with
    | nil =>
      obtain rfl : [] = names := by simpa [Journey.run, Traced.done] using h
      exact ⟨[], .nil, Nat.le_refl 0, rfl⟩
    | cons task waiting => simp [Journey.run, Traced.fail] at h
  | succ scans ih =>
    cases stack with
    | nil =>
      obtain rfl : [] = names := by simpa [Journey.run, Traced.done] using h
      exact ⟨[], .nil, Nat.zero_le _, rfl⟩
    | cons task waiting =>
      rw [Journey.run, Traced.outcome_bind_eq_ok_iff] at h
      obtain ⟨⟨own, tasks⟩, hvisit, h⟩ := h
      rw [Traced.outcome_bind_eq_ok_iff] at h
      obtain ⟨others, hothers, h⟩ := h
      obtain rfl : own ++ others = names := by simpa using h
      obtain ⟨source, found, keys, hread, hscan, hleads, rfl⟩ := visit_outcome_eq_ok_iff.mp hvisit
      -- the trees of the rest are those of the children, last child first, and of what waited
      obtain ⟨trees, htrees, hsize, rfl⟩ := ih hothers
      obtain ⟨reversed, later, rfl, hreversed, hlater⟩ := exists_append_of_forall₂ htrees
      have hchildren : List.Forall₂ (Unfolds c journey.mode) tasks reversed.reverse := by
        rw [← List.forall₂_reverse_iff, List.reverse_reverse]
        exact hreversed
      refine ⟨.node found.exports keys reversed.reverse :: later,
        .cons (.node hread hscan hleads hchildren) hlater, ?_, ?_⟩
      · rw [Tree.totalSize_append] at hsize
        rw [Tree.totalSize, Tree.size, Tree.totalSize_reverse]
        omega
      · simp [Tree.names, Tree.namesFromLast_eq]

/-- A stack whose tasks have trees is worked off if as many scans are left as the trees have
modules. -/
theorem run_of_unfolds {journey : Journey} {fuel : Nat} {stack : List Task} {trees : List Tree}
    (h : List.Forall₂ (Unfolds c journey.mode) stack trees) (hsize : Tree.totalSize trees ≤ fuel) :
    (journey.run c fuel stack).outcome = .ok (trees.flatMap Tree.names) := by
  induction fuel generalizing stack trees with
  | zero =>
    cases h with
    | nil => rfl
    | @cons task tree waiting later htree hlater =>
      cases tree
      simp [Tree.totalSize, Tree.size] at hsize
  | succ scans ih =>
    cases h with
    | nil => rfl
    | @cons task tree waiting later htree hlater =>
      cases htree with
      | @node _ source found keys tasks children read scanned leads unfold =>
        have hstack : List.Forall₂ (Unfolds c journey.mode) (tasks.reverse ++ waiting)
            (children.reverse ++ later) :=
          List.rel_append (List.rel_reverse unfold) hlater
        have hless : Tree.totalSize (children.reverse ++ later) ≤ scans := by
          rw [Tree.totalSize, Tree.size] at hsize
          rw [Tree.totalSize_append, Tree.totalSize_reverse]
          omega
        rw [Journey.run, Traced.outcome_bind_eq_ok_iff]
        refine ⟨(found.exports ++ keys, tasks),
          visit_outcome_eq_ok_iff.mpr ⟨source, found, keys, read, scanned, leads, rfl⟩, ?_⟩
        rw [Traced.outcome_bind_eq_ok_iff]
        refine ⟨_, ih hstack hless, ?_⟩
        simp [Tree.names, Tree.namesFromLast_eq]

/-- A stack is worked off exactly if its tasks have trees with no more modules than scans are left,
and then the names are those of the trees. -/
theorem run_outcome_eq_ok_iff {journey : Journey} {fuel : Nat} {stack : List Task}
    {names : List String} :
    (journey.run c fuel stack).outcome = .ok names ↔
      ∃ trees, List.Forall₂ (Unfolds c journey.mode) stack trees ∧ Tree.totalSize trees ≤ fuel ∧
        trees.flatMap Tree.names = names := by
  constructor
  · exact unfolds_of_run
  · rintro ⟨trees, htrees, hsize, rfl⟩
    exact run_of_unfolds htrees hsize

/-! ## Finite trees and cycles -/

/-- The tasks that targets lead to are those of the targets that resolve to no JSON file. -/
theorem Leads.mem_tasks_iff {base : Path} {targets names : List String} {tasks : List Task}
    (h : Leads c base targets names tasks) {task : Task} :
    task ∈ tasks ↔ ∃ target ∈ targets,
      c.resolve base (Reexport.decode target).specifier = .ok task.path ∧
        task.path.isJson = false ∧ task.called = (Reexport.decode target).called := by
  induction h with
  | nil => simp
  | @json target path text found targets names tasks resolved isJson read keys rest ih =>
    rw [ih]
    constructor
    · rintro ⟨other, hother, hrest⟩
      exact ⟨other, List.mem_cons_of_mem _ hother, hrest⟩
    · rintro ⟨other, hother, hpath, hmodule, hcalled⟩
      rcases List.mem_cons.mp hother with rfl | hother
      · rw [resolved, Except.ok.injEq] at hpath
        rw [hpath, hmodule] at isJson
        exact absurd isJson Bool.false_ne_true
      · exact ⟨other, hother, hpath, hmodule, hcalled⟩
  | @module target path targets names tasks resolved isModule rest ih =>
    rw [List.mem_cons, ih]
    constructor
    · rintro (rfl | ⟨other, hother, hrest⟩)
      · exact ⟨target, List.mem_cons_self, resolved, isModule, rfl⟩
      · exact ⟨other, List.mem_cons_of_mem _ hother, hrest⟩
    · rintro ⟨other, hother, hpath, hmodule, hcalled⟩
      rcases List.mem_cons.mp hother with rfl | hother
      · rw [resolved, Except.ok.injEq] at hpath
        left
        cases task
        simp_all
      · exact Or.inr ⟨other, hother, hpath, hmodule, hcalled⟩

/-- Targets lead somewhere if each of them does. -/
theorem exists_leads {base : Path} {targets : List String}
    (h : ∀ target ∈ targets, ∃ path,
      c.resolve base (Reexport.decode target).specifier = .ok path ∧
        (path.isJson = true →
          ∃ text keys, c.read path = .ok text ∧ jsonKeys path text = .ok keys)) :
    ∃ names tasks, Leads c base targets names tasks := by
  induction targets with
  | nil => exact ⟨[], [], .nil⟩
  | cons target rest ih =>
    obtain ⟨names, tasks, hrest⟩ := ih fun other hother => h other (List.mem_cons_of_mem _ hother)
    obtain ⟨path, hpath, hjson⟩ := h target List.mem_cons_self
    cases hkind : path.isJson with
    | false => exact ⟨names, _, .module hpath hkind hrest⟩
    | true =>
      obtain ⟨text, keys, hread, hkeys⟩ := hjson hkind
      exact ⟨keys ++ names, tasks, .json hpath hkind hread hkeys hrest⟩

/-- If targets lead somewhere then each of them does. -/
theorem Leads.resolves {base : Path} {targets names : List String} {tasks : List Task}
    (h : Leads c base targets names tasks) :
    ∀ target ∈ targets, ∃ path,
      c.resolve base (Reexport.decode target).specifier = .ok path ∧
        (path.isJson = true →
          ∃ text keys, c.read path = .ok text ∧ jsonKeys path text = .ok keys) := by
  induction h with
  | nil => simp
  | json resolved isJson read keys rest ih =>
    rw [List.forall_mem_cons]
    exact ⟨⟨_, resolved, fun _ => ⟨_, _, read, keys⟩⟩, ih⟩
  | module resolved isModule rest ih =>
    rw [List.forall_mem_cons]
    refine ⟨⟨_, resolved, fun hjson => ?_⟩, ih⟩
    rw [isModule] at hjson
    exact absurd hjson Bool.false_ne_true

/-- Nothing fails at a task that has a tree. -/
theorem Unfolds.succeeds {task : Task} {tree : Tree} (h : Unfolds c mode task tree) :
    Succeeds c mode task := by
  cases h with
  | node read scanned leads unfold => exact ⟨_, _, read, scanned, leads.resolves⟩

/-- Trees of several tasks contain one of each. -/
theorem exists_tree_of_mem {tasks : List Task} {trees : List Tree}
    (h : List.Forall₂ (Unfolds c mode) tasks trees) {task : Task} (htask : task ∈ tasks) :
    ∃ tree, Unfolds c mode task tree ∧ tree.size ≤ Tree.totalSize trees := by
  induction h with
  | nil => simp at htask
  | @cons first tree rest others hfirst hrest ih =>
    rcases List.mem_cons.mp htask with rfl | htask
    · exact ⟨tree, hfirst, Nat.le_add_right _ _⟩
    · obtain ⟨later, hlater, hsize⟩ := ih htask
      exact ⟨later, hlater, Nat.le_trans hsize (Nat.le_add_left _ _)⟩

/-- A task that is re-exported from a finite tree has a smaller tree. -/
theorem Unfolds.exists_smaller {task child : Task} {tree : Tree} (h : Unfolds c mode task tree)
    (hchild : Reexports c mode task child) :
    ∃ smaller, Unfolds c mode child smaller ∧ smaller.size < tree.size := by
  obtain ⟨source, found, hread, hscan, hchild⟩ := hchild
  cases h with
  | node read scanned leads unfold =>
    obtain rfl := Except.ok.inj (read.symm.trans hread)
    obtain rfl := Except.ok.inj (scanned.symm.trans hscan)
    obtain ⟨smaller, hsmaller, hsize⟩ := exists_tree_of_mem unfold (leads.mem_tasks_iff.mpr hchild)
    exact ⟨smaller, hsmaller, Nat.lt_succ_of_le hsize⟩

/-- Every task that is reached from a finite tree has a tree. -/
theorem Unfolds.exists_of_reaches {task last : Task} {tree : Tree} (h : Unfolds c mode task tree)
    (hreach : Relation.ReflTransGen (Reexports c mode) task last) :
    ∃ smaller, Unfolds c mode last smaller := by
  induction hreach with
  | refl => exact ⟨tree, h⟩
  | tail _ hstep ih =>
    obtain ⟨middle, hmiddle⟩ := ih
    obtain ⟨smaller, hsmaller, -⟩ := hmiddle.exists_smaller hstep
    exact ⟨smaller, hsmaller⟩

/-- No branch below a task with a tree is infinite. -/
theorem Unfolds.acc {task : Task} {tree : Tree} (h : Unfolds c mode task tree) :
    Acc (fun child parent => Reexports c mode parent child) task := by
  induction hsize : tree.size using Nat.strongRecOn generalizing task tree with
  | ind size ih =>
    refine Acc.intro task fun child hchild => ?_
    obtain ⟨smaller, hsmaller, hless⟩ := h.exists_smaller hchild
    exact ih smaller.size (hsize ▸ hless) hsmaller rfl

/-- A task has a finite tree exactly if no branch below it is infinite and nothing fails at any task
that it reaches. -/
theorem exists_unfolds_iff {task : Task} :
    (∃ tree, Unfolds c mode task tree) ↔
      Acc (fun child parent => Reexports c mode parent child) task ∧
        ∀ last, Relation.ReflTransGen (Reexports c mode) task last → Succeeds c mode last := by
  constructor
  · rintro ⟨tree, htree⟩
    refine ⟨htree.acc, fun last hreach => ?_⟩
    obtain ⟨smaller, hsmaller⟩ := htree.exists_of_reaches hreach
    exact hsmaller.succeeds
  · rintro ⟨hacc, hall⟩
    induction hacc with
    | intro task _ ih =>
      obtain ⟨source, found, hread, hscan, htargets⟩ := hall task .refl
      obtain ⟨keys, tasks, hleads⟩ := exists_leads htargets
      have htrees : ∀ child ∈ tasks, ∃ tree, Unfolds c mode child tree := by
        intro child hchild
        have hstep : Reexports c mode task child :=
          ⟨source, found, hread, hscan, hleads.mem_tasks_iff.mp hchild⟩
        exact ih child hstep fun last hreach => hall last (hreach.head hstep)
      obtain ⟨children, hchildren⟩ : ∃ children, List.Forall₂ (Unfolds c mode) tasks children := by
        clear hleads
        induction tasks with
        | nil => exact ⟨[], .nil⟩
        | cons first rest ihtasks =>
          obtain ⟨tree, htree⟩ := htrees first List.mem_cons_self
          obtain ⟨others, hothers⟩ :=
            ihtasks fun child hchild => htrees child (List.mem_cons_of_mem _ hchild)
          exact ⟨tree :: others, .cons htree hothers⟩
      exact ⟨_, .node hread hscan hleads hchildren⟩

/-- A branch that comes back to its task could be followed for ever. -/
theorem not_cycle_of_acc {task : Task}
    (h : Acc (fun child parent => Reexports c mode parent child) task) :
    ¬ Relation.TransGen (Reexports c mode) task task := by
  have hacc := h.transGen
  clear h
  induction hacc with
  | intro task _ ih =>
    intro hcycle
    exact ih task (Relation.transGen_swap.mpr hcycle) hcycle

/-! ## Collecting the names of an entry -/

/-- An entry that is scanned is worked off from a stack of its own task. -/
theorem collect_of_extension {entry : Path} {limit : Nat}
    (h : entry.extension? = some "js" ∨ entry.extension? = some "cjs") :
    collect c mode limit entry = Journey.run c ⟨entry, mode, limit⟩ limit [⟨entry, false⟩] := by
  rw [collect, Path.isJson_eq_false_of_extension h, Path.isScanned_iff.mpr h]
  rfl

/-- The names of an entry's tree, if it has no more modules than the limit allows. -/
theorem collect_outcome_eq_ok_iff {entry : Path} {limit : Nat} {names : List String}
    (h : entry.extension? = some "js" ∨ entry.extension? = some "cjs") :
    (collect c mode limit entry).outcome = .ok names ↔
      ∃ tree, Unfolds c mode ⟨entry, false⟩ tree ∧ tree.size ≤ limit ∧ tree.names = names := by
  rw [collect_of_extension h, run_outcome_eq_ok_iff]
  constructor
  · rintro ⟨trees, htrees, hsize, rfl⟩
    obtain ⟨tree, rest, htree, hrest, rfl⟩ := List.forall₂_cons_left_iff.mp htrees
    obtain rfl := List.forall₂_nil_left_iff.mp hrest
    exact ⟨tree, htree, hsize, by simp⟩
  · rintro ⟨tree, htree, hsize, rfl⟩
    exact ⟨[tree], .cons htree .nil, hsize, by simp⟩

/-- Collecting is listing the tree of the entry.  It succeeds within a limit exactly if the tree is
finite, has no more modules than the limit allows and nothing in it fails, and then the names are
those of the tree.  So some limit is enough for every finite tree in which nothing fails, and none
is when a module re-exports itself, at whatever distance. -/
theorem collect_lists_tree (c : Collaborators) (mode : Mode) (entry : Path)
    (h : entry.extension? = some "js" ∨ entry.extension? = some "cjs") :
    (∀ limit names, (collect c mode limit entry).outcome = .ok names ↔
      ∃ tree, Unfolds c mode ⟨entry, false⟩ tree ∧ tree.size ≤ limit ∧ tree.names = names) ∧
    ((∃ limit names, (collect c mode limit entry).outcome = .ok names) ↔
      Acc (fun child parent => Reexports c mode parent child) ⟨entry, false⟩ ∧
        ∀ task, Relation.ReflTransGen (Reexports c mode) ⟨entry, false⟩ task →
          Succeeds c mode task) ∧
    (∀ task, Relation.ReflTransGen (Reexports c mode) ⟨entry, false⟩ task →
      Relation.TransGen (Reexports c mode) task task →
        ∀ limit names, (collect c mode limit entry).outcome ≠ .ok names) := by
  refine ⟨fun limit names => collect_outcome_eq_ok_iff h, ?_, ?_⟩
  · rw [← exists_unfolds_iff]
    constructor
    · rintro ⟨limit, names, hok⟩
      obtain ⟨tree, htree, -, -⟩ := (collect_outcome_eq_ok_iff h).mp hok
      exact ⟨tree, htree⟩
    · rintro ⟨tree, htree⟩
      exact ⟨tree.size, tree.names,
        (collect_outcome_eq_ok_iff h).mpr ⟨tree, htree, Nat.le_refl _, rfl⟩⟩
  · intro task hreach hcycle limit names hok
    obtain ⟨tree, htree, -, -⟩ := (collect_outcome_eq_ok_iff h).mp hok
    obtain ⟨smaller, hsmaller⟩ := htree.exists_of_reaches hreach
    exact not_cycle_of_acc hsmaller.acc hcycle

/-- A module that re-exports the result of another and a JSON file. -/
def forked : Collaborators where
  read path :=
    if path.text = "/p/a.js" then .ok "a"
    else if path.text = "/p/b.js" then .ok "b"
    else if path.text = "/p/d.json" then .ok "\x7b\"k\":\"\"\x7d"
    else .error (.fileRead path .notFound)
  resolve base specifier := .ok (base.join specifier)
  scan _ source _ called :=
    if source = "a" then .ok ⟨["x"], ["b.js()", "d.json"]⟩
    else .ok ⟨[if called then "y" else "z"], []⟩
  load path _ := .error (.runtimeLoad path "")

/-- The tree of `forked` has two modules: one scan is too few and two are enough. -/
theorem collect_lists_tree_of_forked :
    (Path.mk "/p/a.js").extension? = some "js" ∧
      (∃ tree, Unfolds forked .production ⟨"/p/a.js", false⟩ tree ∧ tree.size ≤ 2 ∧
        tree.names = ["x", "k", "y"]) ∧
      ¬ ∃ tree, Unfolds forked .production ⟨"/p/a.js", false⟩ tree ∧ tree.size ≤ 1 ∧
        tree.names = ["x", "k", "y"] := by
  have hentry : (Path.mk "/p/a.js").extension? = some "js" := by decide
  have htree := (collect_lists_tree forked .production "/p/a.js" (Or.inl hentry)).1
  have htwo : (collect forked .production 2 "/p/a.js").outcome = .ok ["x", "k", "y"] := rfl
  refine ⟨hentry, (htree 2 _).mp htwo, fun hsmall => ?_⟩
  have hone : (collect forked .production 1 "/p/a.js").outcome =
      .error (.cycleLimitExceeded "/p/a.js" 1) := rfl
  have hok := (htree 1 _).mpr hsmall
  rw [hone] at hok
  exact absurd hok (by simp)

end NamedExports.Traversal
