import NamedExports.Proofs.Scan.Changes
import NamedExports.Proofs.Script.Standing

/-!
# What the first look follows

The first look at a program changes its table of names in five ways, each for something that stands
in the program: a declared variable, function or class, an assignment and a call.  So what each of
the five keeps of a table is kept by the whole look: `Kept.ofProgram`.  In particular nothing
becomes known of a name that the program does not declare.
-/

namespace NamedExports.Script

/-- The name or pattern that is declared. -/
def Declarator.target : Declarator → Expr
  | .mk target _ => target

namespace Bindings

/-- What holds of a table holds still after each change to it for something that stands in a
program. -/
structure Kept (program : Program) (holds : Bindings → Prop) : Prop where
  declare : ∀ {b kind items item}, HasStmt program (.declare kind items) → item ∈ items →
    holds b → holds (b.declare item)
  declareFunction : ∀ {b code name}, HasStmt program (.function code) → code.name = some name →
    holds b → holds (b.set name { Binding.unknown with returns := code.returnedKeys })
  declareClass : ∀ {b name parts}, HasStmt program (.class (some name) parts) →
    holds b → holds (b.set name .unknown)
  assign : ∀ {b op target value}, HasExpr program (.assign op target value) →
    holds b → holds (b.assign target)
  call : ∀ {b callee args}, HasExpr program (.call callee args) →
    holds b → holds (b.call callee args)

namespace Kept

variable {program : Program} {holds : Bindings → Prop}

/-- What each declarator keeps, several keep. -/
theorem declareAll (k : Kept program holds) {kind : DeclKind} {all : List Declarator}
    (hall : HasStmt program (.declare kind all)) :
    ∀ (items : List Declarator) {b : Bindings}, items ⊆ all → holds b →
      holds (items.foldl Bindings.declare b)
  | [], _, _, h => h
  | _ :: rest, _, hsub, h =>
    declareAll k hall rest (List.subset_of_cons_subset hsub)
      (k.declare hall (hsub List.mem_cons_self) h)

-- by recursion on the program: whatever is followed stands in it
mutual

/-- What is kept by the steps of the first look is kept while it follows an expression. This is the
recursion of the first look, together with the lemmas below. -/
theorem expr (k : Kept program holds) (mode : Mode) : ∀ (e : Expr) {b : Bindings},
    HasExpr program e → holds b → holds (b.expr mode e)
  | .paren inner, _, he, h => expr k mode inner he.ofParen h
  | .call callee args, b, he, h => by
    rw [Bindings.expr]
    cases hfollow : b.invoked mode callee with
    | none => exact k.call he h
    | some found => exact invoked k mode callee he.callee h found hfollow
  | .unary _ operand, _, he, h => negated k mode operand (he.operand List.mem_cons_self) h
  | .sequence items, _, he, h => exprs k mode items (fun _ hitem => he.operand hitem) h
  | .assign _ _ value, _, he, h => expr k mode value he.assigned (k.assign he h)
  | .ident _, _, _, h | .literal _, _, _, h | .object _, _, _, h | .function _, _, _, h
  | .arrow _, _, _, h | .arrowValue _ _ _, _, _, h | .binary _ _ _, _, _, h
  | .logical _ _ _, _, _, h | .conditional _ _ _, _, _, h | .member _ _, _, _, h
  | .index _ _, _, _, h | .spread _, _, _, h | .chain _, _, _, h | .other _ _, _, _, h => h

/-- The same under a unary operator. -/
theorem negated (k : Kept program holds) (mode : Mode) : ∀ (e : Expr) {b : Bindings},
    HasExpr program e → holds b → holds (b.negated mode e)
  | .paren inner, _, he, h => negated k mode inner he.ofParen h
  | .call callee args, b, he, h => by
    rw [Bindings.negated]
    cases hfollow : b.invoked mode callee with
    | none => exact h
    | some found => exact invoked k mode callee he.callee h found hfollow
  | .ident _, _, _, h | .literal _, _, _, h | .object _, _, _, h | .function _, _, _, h
  | .arrow _, _, _, h | .arrowValue _ _ _, _, _, h | .unary _ _, _, _, h | .binary _ _ _, _, _, h
  | .logical _ _ _, _, _, h | .conditional _ _ _, _, _, h | .assign _ _ _, _, _, h
  | .sequence _, _, _, h | .member _ _, _, _, h | .index _ _, _, _, h | .spread _, _, _, h
  | .chain _, _, _, h | .other _ _, _, _, h => h

/-- The same for the body of a called function. -/
theorem invoked (k : Kept program holds) (mode : Mode) : ∀ (e : Expr) {b : Bindings},
    HasExpr program e → holds b → ∀ found, b.invoked mode e = some found → holds found
  | .paren inner, _, he, h, found, hfound => invoked k mode inner he.ofParen h found hfound
  | .member owner name, b, he, h, found, hfound => by
    rw [Bindings.invoked] at hfound
    split at hfound
    · exact body k mode owner (he.operand List.mem_cons_self) h found hfound
    · cases hfound
  | .function (.mk _ _ _ _ statements), _, he, h, _, rfl =>
    stmts k mode statements (fun _ hs => .body he hs) h
  | .arrow (.mk _ _ _ _ statements), _, he, h, _, rfl =>
    stmts k mode statements (fun _ hs => .body he hs) h

/-- The same for a function that is called where it stands. -/
theorem body (k : Kept program holds) (mode : Mode) : ∀ (e : Expr) {b : Bindings},
    HasExpr program e → holds b → ∀ found, b.body mode e = some found → holds found
  | .paren inner, _, he, h, found, hfound => body k mode inner he.ofParen h found hfound
  | .function (.mk _ _ _ _ statements), _, he, h, _, rfl =>
    stmts k mode statements (fun _ hs => .body he hs) h
  | .arrow (.mk _ _ _ _ statements), _, he, h, _, rfl =>
    stmts k mode statements (fun _ hs => .body he hs) h

/-- The same for the items of a sequence. -/
theorem exprs (k : Kept program holds) (mode : Mode) : ∀ (items : List Expr) {b : Bindings},
    (∀ item ∈ items, HasExpr program item) → holds b → holds (b.exprs mode items)
  | [], _, _, h => h
  | first :: rest, _, hitems, h =>
    exprs k mode rest (fun item hitem => hitems item (List.mem_cons_of_mem first hitem))
      (expr k mode first (hitems first List.mem_cons_self) h)

/-- The same for a statement. -/
theorem stmt (k : Kept program holds) (mode : Mode) : ∀ (s : Stmt) {b : Bindings},
    HasStmt program s → holds b → holds (b.stmt mode s)
  | .expr e, _, hs, h => expr k mode e (.evaluated hs List.mem_cons_self) h
  | .declare _ items, _, hs, h => k.declareAll hs items (List.Subset.refl items) h
  | .function code, b, hs, h => by
    rw [Bindings.stmt]
    split
    · rename_i name hname
      exact k.declareFunction hs hname h
    · exact h
  | .class (some name) _, _, hs, h => k.declareClass hs h
  | .block statements, _, hs, h => stmts k mode statements (fun _ hpart => .part hs hpart) h
  | .tryCatch statements _ handler finalizer, _, hs, h => by
    refine stmts k mode statements (fun s hmem => .part hs ?_) h
    exact List.mem_append_left finalizer (List.mem_append_left handler hmem)
  | .ifThen test yes none, b, hs, h => by
    rw [Bindings.stmt]
    split
    · exact h
    · exact stmt k mode yes (.part hs List.mem_cons_self) h
  | .ifThen test yes (some no), b, hs, h => by
    have hyes : HasStmt program yes := .part hs List.mem_cons_self
    have hno : HasStmt program no := .part hs (List.mem_cons_of_mem yes List.mem_cons_self)
    rw [Bindings.stmt]
    split
    · exact stmt k mode yes hyes h
    · exact stmt k mode no hno h
    · exact stmt k mode no hno (stmt k mode yes hyes h)
  | .class none _, _, _, h | .return _, _, _, h | .other _ _ _, _, _, h => h

/-- The same for several statements. -/
theorem stmts (k : Kept program holds) (mode : Mode) : ∀ (statements : List Stmt) {b : Bindings},
    (∀ s ∈ statements, HasStmt program s) → holds b → holds (b.stmts mode statements)
  | [], _, _, h => h
  | first :: rest, _, hstatements, h =>
    stmts k mode rest (fun s hs => hstatements s (List.mem_cons_of_mem first hs))
      (stmt k mode first (hstatements first List.mem_cons_self) h)

end

/-- What holds before the first look at a program, and is kept by each change, holds after it. -/
theorem ofProgram (k : Kept program holds) (hempty : holds empty) (mode : Mode) :
    holds (ofProgram mode program) :=
  stmts k mode program (fun _ hs => .top hs) hempty

end Kept

end Bindings

/-! ## Names that are not declared -/

/-- The names that a statement declares. -/
def Stmt.declaredNames : Stmt → List String
  | .declare _ items => items.flatMap fun item => item.target.boundNames
  | .function code => code.name.toList
  | .class name _ => name.toList
  | _ => []

/-- A statement that stands in a program declares a name. -/
def Program.Declares (program : Program) (name : String) : Prop :=
  ∃ s, HasStmt program s ∧ name ∈ s.declaredNames

/-- A program without functions does not declare a name, if no statement of a list does among which
the program's are and those that stand in one of the list. -/
theorem Program.not_declares_of_closed {program : Program} {name : String} (all : List Stmt)
    (hprogram : program ⊆ all) (hparts : ∀ s ∈ all, s.parts ⊆ all)
    (hbodies : ∀ e ∈ stmtsNodes program, e.body = []) (hnames : ∀ s ∈ all, name ∉ s.declaredNames) :
    ¬ program.Declares name := by
  rintro ⟨s, hs, hname⟩
  exact hnames s (hs.mem_of_closed hprogram hparts hbodies) hname

/-- A program without functions and nested statements only declares what its statements declare. -/
theorem Program.not_declares_of_flat {program : Program} {name : String}
    (hflat : ∀ s ∈ program, s.parts = [] ∧ name ∉ s.declaredNames)
    (hbodies : ∀ e ∈ stmtsNodes program, e.body = []) : ¬ program.Declares name := by
  refine not_declares_of_closed program (List.Subset.refl program) (fun s hs => ?_) hbodies
    fun s hs => (hflat s hs).2
  rw [(hflat s hs).1]
  exact List.nil_subset program

namespace Bindings

variable {b : Bindings} {name other : String}

theorem get?_set_of_ne (h : name ≠ other) (binding : Binding) :
    (b.set other binding).get? name = b.get? name :=
  if_neg (by simpa using h)

theorem get?_set_self (binding : Binding) : (b.set name binding).get? name = some binding :=
  if_pos (beq_self_eq_true name)

/-- Of a name that a program does not declare nothing becomes known. -/
theorem kept_of_not_declares {program : Program} (h : ¬ program.Declares name) :
    Kept program fun b => b.get? name = none where
  declare := by
    intro b kind items item hs hitem hnone
    unfold Bindings.declare
    split
    · rename_i other init
      rw [get?_set_of_ne ?_, hnone]
      rintro rfl
      exact h ⟨_, hs, List.mem_flatMap.mpr ⟨_, hitem, List.mem_singleton_self _⟩⟩
    · exact hnone
  declareFunction := by
    intro b code other hs hother hnone
    rw [get?_set_of_ne ?_, hnone]
    rintro rfl
    exact h ⟨_, hs, Option.mem_toList.mpr hother⟩
  declareClass := by
    intro b other parts hs hnone
    rw [get?_set_of_ne ?_, hnone]
    rintro rfl
    exact h ⟨_, hs, List.mem_singleton_self _⟩
  assign := by
    intro b op target value _ hnone
    unfold Bindings.assign
    split
    · split
      · exact get?_addKeys_of_none hnone
      · exact hnone
    · exact hnone
  call := by
    intro b callee args _ hnone
    simp only [Bindings.call]
    split
    · exact hnone
    · split
      · split
        · exact get?_addKeys_of_none hnone
        · exact hnone
      · split
        · exact get?_addKeys_of_none hnone
        · exact hnone
      · exact hnone

end Bindings

end NamedExports.Script
