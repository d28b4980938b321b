import NamedExports.Proofs.Scan.DeadParts
import NamedExports.Proofs.Scan.Forwarding

/-!
# What factories return, branch by branch

A scan follows the body of a factory through all its branches: a test of `process.env.NODE_ENV` that
decides for one branch elsewhere decides nothing there.  `Stmt.acts` lists what a body does, with or
without the branches that its tests are decided against, and `Returned` says which keys are returned
that way.  `Program.findings_factory` says that the keys which the whole text returns are found in
either mode.  So a key that is only returned inside a branch which the mode leaves out is found, and
no such key is found exactly if there is none.
-/

namespace NamedExports.Script

/-! ## What bodies do -/

/-- What a statement does that matters to the keys which its body returns. -/
inductive Act where
  /-- `var name = { … };` -/
  | declare (name : String) (keys : List String)
  /-- `name.key = …;` -/
  | put (name key : String)
  /-- `return { … };` -/
  | giveKeys (keys : List String)
  /-- `return name;` -/
  | giveLocal (name : String)

/-- What a declarator does: it makes a local if it is initialized with an object literal. -/
def Declarator.acts : Declarator → List Act
  | .mk (.ident name) (some init) =>
    match init.withoutParens with
    | .object members => [.declare name (staticKeys members)]
    | _ => []
  | _ => []

/-- What an expression statement does: it may put a key on a local. -/
def Expr.effectActs (e : Expr) : List Act :=
  match e.withoutParens with
  | .assign _ target _ =>
    match target.propertyTarget? with
    | some (owner, key) => owner.identName?.toList.map (.put · key)
    | none => []
  | _ => []

/-- What a returned expression gives. -/
def Expr.returnActs (e : Expr) : List Act :=
  match e.withoutParens with
  | .object members => [.giveKeys (staticKeys members)]
  | .ident name => [.giveLocal name]
  | _ => []

mutual

/-- What a statement does, in the order of the text, where the tests of `if` statements may be
decided.  A branch that its test is decided against does nothing. -/
def Stmt.acts (decided : Expr → Option Bool) : Stmt → List Act
  | .declare _ items => items.flatMap Declarator.acts
  | .expr e => e.effectActs
  | .return (some e) => e.returnActs
  | .block body => stmtsActs decided body
  | .ifThen test yes none => if decided test = some false then [] else yes.acts decided
  | .ifThen test yes (some no) =>
    (if decided test = some false then [] else yes.acts decided) ++
      if decided test = some true then [] else no.acts decided
  | _ => []

/-- What several statements do. -/
def stmtsActs (decided : Expr → Option Bool) : List Stmt → List Act
  | [] => []
  | first :: rest => first.acts decided ++ stmtsActs decided rest

end

/-- What a body does in any of its branches. -/
def Code.acts (code : Code) : List Act := stmtsActs (fun _ => none) code.body

/-- What a body does in the branches that a mode leaves open. -/
def Code.actsIn (code : Code) (mode : Mode) : List Act := stmtsActs (·.holdsIn? mode) code.body

/-! ## What is returned -/

namespace Act

/-- An act makes a local anew. -/
def Declares (name : String) : Act → Prop
  | declare other _ => other = name
  | _ => False

/-- After some acts, an act puts a key on a local.  Only a local that is declared takes keys. -/
def Puts (before : List Act) (name key : String) : Act → Prop
  | declare other keys => other = name ∧ key ∈ keys
  | put other added => other = name ∧ added = key ∧ ∃ act ∈ before, act.Declares name
  | _ => False

end Act

/-- At the end of some acts a local holds a key: one of them puts it there, and none after that
makes the local anew. -/
def LocalHolds (acts : List Act) (name key : String) : Prop :=
  ∃ before act after, acts = before ++ act :: after ∧ act.Puts before name key ∧
    ∀ later ∈ after, ¬ later.Declares name

/-- After some acts, an act returns a key. -/
def Act.Gives (before : List Act) (key : String) : Act → Prop
  | giveKeys keys => key ∈ keys
  | giveLocal name => LocalHolds before name key
  | _ => False

/-- One of some acts returns a key. -/
def Returned (acts : List Act) (key : String) : Prop :=
  ∃ before act after, acts = before ++ act :: after ∧ act.Gives before key

/-- A body returns a key, and it does not return it without the branches that a mode leaves out. -/
def Code.ReturnsAside (code : Code) (mode : Mode) (key : String) : Prop :=
  Returned code.acts key ∧ ¬ Returned (code.actsIn mode) key

section Last

variable {α : Type} {front : List α} {last : α} {P : List α → α → Prop} {Q : α → Prop}

/-- One element of a list, after which there are others, is its last or stands in front of it. -/
theorem exists_split_concat_iff :
    (∃ before x after, front ++ [last] = before ++ x :: after ∧ P before x ∧ ∀ y ∈ after, Q y) ↔
      P front last ∨
        Q last ∧ ∃ before x after,
          front = before ++ x :: after ∧ P before x ∧ ∀ y ∈ after, Q y := by
  constructor
  · rintro ⟨before, x, after, hsplit, hx, hafter⟩
    -- the element is the last one, or what stands after it ends with the last one
    rcases List.eq_nil_or_concat after with rfl | ⟨after, y, rfl⟩
    · obtain ⟨rfl, hlast⟩ := List.append_inj' hsplit rfl
      obtain rfl := List.head_eq_of_cons_eq hlast
      exact Or.inl hx
    · rw [List.concat_eq_append, ← List.cons_append, ← List.append_assoc] at hsplit
      obtain ⟨rfl, hlast⟩ := List.append_inj' hsplit rfl
      obtain rfl := List.head_eq_of_cons_eq hlast
      rw [List.concat_eq_append, List.forall_mem_append, List.forall_mem_singleton] at hafter
      exact Or.inr ⟨hafter.2, before, x, after, rfl, hx, hafter.1⟩
  · rintro (hlast | ⟨hlast, before, x, after, rfl, hx, hafter⟩)
    · exact ⟨front, last, [], rfl, hlast, List.forall_mem_nil _⟩
    · refine ⟨before, x, after ++ [last], by simp, hx, ?_⟩
      rw [List.forall_mem_append, List.forall_mem_singleton]
      exact ⟨hafter, hlast⟩

end Last

section Concat

variable {acts : List Act} {last : Act} {name key : String}

/-- What a local holds after one more act. -/
theorem localHolds_concat_iff :
    LocalHolds (acts ++ [last]) name key ↔
      last.Puts acts name key ∨ ¬ last.Declares name ∧ LocalHolds acts name key :=
  exists_split_concat_iff

/-- What is returned after one more act. -/
theorem returned_concat_iff :
    Returned (acts ++ [last]) key ↔ last.Gives acts key ∨ Returned acts key := by
  have hsplit := @exists_split_concat_iff Act acts last (fun before act => act.Gives before key)
    fun _ => True
  simpa [Returned] using hsplit

/-- A name is declared by one of the acts or by the last one. -/
theorem exists_declares_concat_iff :
    (∃ act ∈ acts ++ [last], act.Declares name) ↔
      last.Declares name ∨ ∃ act ∈ acts, act.Declares name := by
  simp only [List.mem_append, List.mem_singleton, or_and_right, exists_or, exists_eq_left]
  exact or_comm

end Concat

/-! ## What is found of a body -/

namespace Returns

variable {acts : List Act} {r : Returns}

/-- Follows an act. -/
def act (r : Returns) : Act → Returns
  | .declare name keys => r.declare name keys
  | .put name key => r.addKey name key
  | .giveKeys keys => r.give keys
  | .giveLocal name => r.give ((r.locals name).getD [])

/-- What has been followed of a body tells what the body has done: which locals there are, which
keys they hold and which keys are returned. -/
structure Tells (acts : List Act) (r : Returns) : Prop where
  declared : ∀ name, (r.locals name).isSome ↔ ∃ act ∈ acts, act.Declares name
  holds : ∀ name key, key ∈ (r.locals name).getD [] ↔ LocalHolds acts name key
  returned : ∀ key, key ∈ r.keys ↔ Returned acts key

namespace Tells

/-- Before the first act the summary is the initial one. -/
theorem start : Tells [] .start where
  declared name := by simp [Returns.start]
  holds name key := by simp [Returns.start, LocalHolds]
  returned key := by simp [Returns.start, Returned]

/-- The summary stays right when a local is made anew. -/
theorem declare (h : Tells acts r) (name : String) (keys : List String) :
    Tells (acts ++ [.declare name keys]) (r.declare name keys) where
  declared other := by
    rw [exists_declares_concat_iff, ← h.declared]
    by_cases hother : other = name
    · subst hother
      simp [Returns.declare, Act.Declares]
    · simp [Returns.declare, Act.Declares, hother, Ne.symm hother]
  holds other key := by
    rw [localHolds_concat_iff, ← h.holds]
    by_cases hother : other = name
    · subst hother
      simp [Returns.declare, Act.Declares, Act.Puts]
    · simp [Returns.declare, Act.Declares, Act.Puts, hother, Ne.symm hother]
  returned key := by
    rw [returned_concat_iff, ← h.returned]
    exact (or_iff_right id).symm

/-- A key is only put on a local that there is. -/
theorem put (h : Tells acts r) (name key : String) :
    Tells (acts ++ [.put name key]) (r.addKey name key) where
  declared other := by
    rw [exists_declares_concat_iff, ← h.declared]
    by_cases hother : other = name
    · simp [Returns.addKey, Act.Declares, hother]
    · simp [Returns.addKey, Act.Declares, hother]
  holds other found := by
    rw [localHolds_concat_iff, ← h.holds, Act.Puts, ← h.declared]
    by_cases hother : other = name
    · subst hother
      cases hlocal : r.locals other with
      | none => simp [Returns.addKey, Act.Declares, hlocal]
      | some keys =>
        simp [Returns.addKey, Act.Declares, hlocal, or_comm, eq_comm (a := key) (b := found)]
    · simp [Returns.addKey, Act.Declares, hother, Ne.symm hother]
  returned found := by
    rw [returned_concat_iff, ← h.returned]
    exact (or_iff_right id).symm

/-- Returned keys change no local. -/
theorem give {keys : List String} {last : Act} (h : Tells acts r)
    (hputs : ∀ name key, ¬ last.Puts acts name key) (hdeclares : ∀ name, ¬ last.Declares name)
    (hgives : ∀ key, key ∈ keys ↔ last.Gives acts key) : Tells (acts ++ [last]) (r.give keys) where
  declared name := by
    rw [exists_declares_concat_iff, or_iff_right (hdeclares name)]
    exact h.declared name
  holds name key := by
    rw [localHolds_concat_iff, or_iff_right (hputs name key), and_iff_right (hdeclares name)]
    exact h.holds name key
  returned key := by
    rw [returned_concat_iff, ← hgives, ← h.returned, or_comm]
    exact List.mem_append

/-- The summary stays right after any act: one case for each kind. -/
theorem act (h : Tells acts r) (last : Act) : Tells (acts ++ [last]) (r.act last) := by
  cases last with
  | declare name keys => exact h.declare name keys
  | put name key => exact h.put name key
  | giveKeys keys => exact h.give (fun _ _ => id) (fun _ => id) fun _ => Iff.rfl
  | giveLocal name => exact h.give (fun _ _ => id) (fun _ => id) (h.holds name)

/-- The same for any number of acts. -/
theorem foldl (h : Tells acts r) (more : List Act) :
    Tells (acts ++ more) (more.foldl Returns.act r) := by
  induction more generalizing acts r with
  | nil =>
    rw [List.append_nil]
    exact h
  | cons first rest ih =>
    rw [List.append_cons]
    exact ih (h.act first)

end Tells

/-! The walk through a body follows its acts, whatever its tests are. -/

variable {r : Returns}

/-- A declarator is scanned as its acts are. -/
theorem declarator_eq_foldl (item : Declarator) : r.declarator item = item.acts.foldl act r := by
  fun_cases Declarator.acts item with
  | case1 name init members hshape => simp [declarator, hshape, act]
  | case2 => simp [declarator]
  | case3 => simp [declarator]

/-- An expression statement is scanned as its acts are. -/
theorem effect_eq_foldl (e : Expr) : r.effect e = e.effectActs.foldl act r := by
  fun_cases Expr.effectActs e with
  | case1 op target value hshape owner key htarget =>
    simp only [effect, hshape, htarget]
    cases owner.identName? <;> rfl
  | case2 op target value hshape htarget => simp [effect, hshape, htarget]
  | case3 => simp [effect]

/-- A returned expression is scanned as its acts are. -/
theorem value_eq_foldl (e : Expr) : r.value e = e.returnActs.foldl act r := by
  fun_cases Expr.returnActs e with
  | case1 members hshape => simp [value, hshape, act]
  | case2 name hshape => simp [value, hshape, act]
  | case3 => simp [value]

/-- Declarations are scanned as their acts are. -/
theorem declare_eq_foldl (items : List Declarator) (r : Returns) :
    items.foldl declarator r = (items.flatMap Declarator.acts).foldl act r := by
  induction items generalizing r with
  | nil => rfl
  | cons first rest ih =>
    rw [List.foldl_cons, List.flatMap_cons, List.foldl_append, ← declarator_eq_foldl, ih]

mutual

/-- A statement is scanned as its acts in all branches are. -/
theorem statement_eq_foldl : ∀ (s : Stmt) (r : Returns),
    r.statement s = (s.acts fun _ => none).foldl act r
  | .declare _ items, r => declare_eq_foldl items r
  | .expr e, r => effect_eq_foldl e
  | .return (some e), r => value_eq_foldl e
  | .block body, r => statements_eq_foldl body r
  | .ifThen _ yes none, r => statement_eq_foldl yes r
  | .ifThen _ yes (some no), r => by
    rw [statement, statement_eq_foldl yes r, statement_eq_foldl no]
    exact List.foldl_append.symm
  | .return none, _ | .function _, _ | .class _ _, _ | .tryCatch _ _ _ _, _ | .other _ _ _, _ => rfl

/-- The same for a body. -/
theorem statements_eq_foldl : ∀ (body : List Stmt) (r : Returns),
    r.statements body = (stmtsActs (fun _ => none) body).foldl act r
  | [], _ => rfl
  | first :: rest, r => by
    rw [statements, statement_eq_foldl first r, statements_eq_foldl rest, stmtsActs,
      List.foldl_append]

end

end Returns

/-- The keys that are found of a body are those that it returns in any of its branches. -/
theorem Code.mem_returnedKeys_iff {code : Code} {key : String} :
    key ∈ code.returnedKeys ↔ Returned code.acts key := by
  rw [returnedKeys, Returns.statements_eq_foldl]
  exact (Returns.Tells.start.foldl code.acts).returned key

/-- Whether a key is returned can be decided by running through the acts. -/
instance (acts : List Act) (key : String) : Decidable (Returned acts key) :=
  decidable_of_iff (key ∈ (acts.foldl Returns.act .start).keys)
    ((Returns.Tells.start.foldl acts).returned key)

/-- `module.exports = function () { … };` -/
def givingFactory (code : Code) : Program := [.expr (exporting (.function code))]

/-- `module.exports = (function () { … })();` -/
def givingResult (code : Code) : Program :=
  [.expr (exporting (.call (.paren (.function code)) []))]

/-- Whether a factory is scanned for a call or called where it stands, the keys that its body
returns in any branch are found, in either mode.  So no key is found that the body only returns in
branches which the mode leaves out exactly if there is no such key. -/
theorem Program.findings_factory (code : Code) (mode : Mode) :
    (givingFactory code).findings mode true = .names code.returnedKeys ∧
      (givingResult code).findings mode false = .names code.returnedKeys ∧
      (∀ key, key ∈ code.returnedKeys ↔ Returned code.acts key) ∧
      ((∀ key, code.ReturnsAside mode key → key ∉ code.returnedKeys) ↔
        ∀ key, Returned code.acts key → Returned (code.actsIn mode) key) := by
  refine ⟨?_, ?_, fun key => Code.mem_returnedKeys_iff, ?_⟩
  · show Findings.names code.returnedKeys ++ ∅ ++ ∅ = _
    rw [Findings.append_empty, Findings.append_empty]
  · show Findings.names code.returnedKeys ++ ∅ ++ ∅ = _
    rw [Findings.append_empty, Findings.append_empty]
  · refine forall_congr' fun key => ?_
    rw [Code.mem_returnedKeys_iff]
    constructor
    · intro hnever hreturned
      exact Classical.byContradiction fun haside => hnever ⟨hreturned, haside⟩ hreturned
    · rintro htaken ⟨hreturned, haside⟩
      exact absurd (htaken hreturned) haside

/-- `if (process.env.NODE_ENV === 'production') { return { a: 1 }; } return { b: 1 };`, in a
function -/
def returningByMode : Code :=
  .mk none false false [] [
    .ifThen inProduction (.block [.return (some
      (.object [.property (.literal (.string "a")) (.literal (.number "1"))]))]) none,
    .return (some (.object [.property (.literal (.string "b")) (.literal (.number "1"))]))]

/-- In development the body only returns `b`, and the key of the branch that is left out is found
nevertheless. -/
theorem findings_factory_returningByMode :
    returningByMode.ReturnsAside .development "a" ∧
      (givingFactory returningByMode).findings .development true = .names ["a", "b"] ∧
      (givingResult returningByMode).findings .development false = .names ["a", "b"] := by
  refine ⟨⟨?_, ?_⟩, rfl, rfl⟩
  · decide
  · decide

end NamedExports.Script
