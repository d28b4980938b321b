import NamedExports.Proofs.Scan.Shape
import NamedExports.Scan.Bindings

/-!
# What a program does to what is known of a name

The first look at a program carries a table of names from statement to statement.  What a piece of a
program does to one name does not depend on the table: either it records anew what the name holds,
whatever was known, or it adds keys to a name that is known, and then the name stands in the piece.
`Changes` says so, and it holds of everything the first look follows.
-/

namespace NamedExports.Script

/-- What becomes of what is known of a name: keys are added to it, or it is recorded anew. -/
inductive Change where
  | add (keys : List String)
  | replace (binding : Binding)

namespace Change

/-- What is known of a name afterwards.  Nothing is added to a name that is not known. -/
def apply : Change → Option Binding → Option Binding
  | add keys, known => known.map fun binding => { binding with keys := binding.keys ++ keys }
  | replace binding, _ => some binding

/-- One change after another. -/
def andThen : Change → Change → Change
  | add front, add back => add (front ++ back)
  | replace binding, add keys => replace { binding with keys := binding.keys ++ keys }
  | _, replace binding => replace binding

/-- Whether there are keys that are added. -/
def Adds : Change → Prop
  | add keys => keys ≠ []
  | replace _ => False

variable {first second : Change} {known : Option Binding}

/-- Adding no keys leaves what is known. -/
@[simp] theorem apply_add_nil : (add []).apply known = known := by
  cases known <;> simp [apply]

/-- Two changes composed do what they do one after the other. -/
theorem apply_andThen : (first.andThen second).apply known = second.apply (first.apply known) := by
  cases second with
  | replace binding => cases first <;> rfl
  | add back =>
    cases first with
    | replace binding => rfl
    | add front => simp [andThen, apply, Function.comp_def]

/-- A composition that adds keys has a part that does. -/
theorem adds_of_adds_andThen (h : (first.andThen second).Adds) : first.Adds ∨ second.Adds := by
  cases second with
  | replace binding => cases first <;> exact h.elim
  | add back =>
    cases first with
    | replace binding => exact h.elim
    | add front =>
      by_cases hfront : front = []
      · subst hfront
        exact Or.inr h
      · exact Or.inl hfront

/-- A change that neither adds keys nor records a name anew leaves what is known. -/
theorem apply_of_not_adds (h : ¬ first.Adds) (hnone : first.apply none = none) :
    first.apply known = known := by
  cases first with
  | replace binding => cases hnone
  | add keys =>
    obtain rfl : keys = [] := by simpa [Adds] using h
    exact apply_add_nil

end Change

namespace Bindings

variable {nodes more : List Expr} {follow next : Bindings → Bindings}
  {b : Bindings} {name : String} {binding : Binding}

/-- Keys that are added to any name do not make another name known. -/
theorem get?_addKeys_of_none {other : String} {keys : List String} (h : b.get? name = none) :
    (b.addKeys other keys).get? name = none := by
  show (if name == other then (b.get? name).map _ else b.get? name) = none
  rw [h, Option.map_none, ite_self]

/-- Keys that are added to one name do not change another. -/
theorem get?_addKeys_of_ne {other : String} {keys : List String} (h : name ≠ other) :
    (b.addKeys other keys).get? name = b.get? name :=
  if_neg (by simpa using h)

/-- Following a piece of a program changes what is known of each name in one way, whatever is known
before.  Keys are only added to names that are among the expressions of the piece. -/
def Changes (nodes : List Expr) (follow : Bindings → Bindings) : Prop :=
  ∀ name, ∃ change : Change, (∀ b, (follow b).get? name = change.apply (b.get? name)) ∧
    (change.Adds → .ident name ∈ nodes)

namespace Changes

/-- A name that is recorded where nothing is known is recorded alike whatever is known. -/
theorem get?_of_some (h : Changes nodes follow) (hsome : (follow empty).get? name = some binding) :
    (follow b).get? name = some binding := by
  obtain ⟨change, hchange, -⟩ := h name
  rw [hchange] at hsome ⊢
  cases change with
  | add keys => cases hsome
  | replace found => exact hsome

/-- A name of which nothing is known fares as it does where no name is known. -/
theorem get?_of_unknown (h : Changes nodes follow) (hb : b.get? name = none) :
    (follow b).get? name = (follow empty).get? name := by
  obtain ⟨change, hchange, -⟩ := h name
  rw [hchange, hchange, hb]
  rfl

/-- Of a name that is not recorded and does not stand in the piece the same is known as before. -/
theorem get?_of_not_mem (h : Changes nodes follow) (hnone : (follow empty).get? name = none)
    (hmem : .ident name ∉ nodes) : (follow b).get? name = b.get? name := by
  obtain ⟨change, hchange, hadds⟩ := h name
  rw [hchange] at hnone ⊢
  exact change.apply_of_not_adds (fun hadd => hmem (hadds hadd)) hnone

/-- A name that is not recorded holds the same required module as before. -/
theorem required_of_none (h : Changes nodes follow) (hnone : (follow empty).get? name = none) :
    ((follow b).get? name).bind Binding.required = (b.get? name).bind Binding.required := by
  obtain ⟨change, hchange, -⟩ := h name
  rw [hchange] at hnone ⊢
  cases change with
  | add keys => cases b.get? name <;> rfl
  | replace found => cases hnone

/-- A piece that stands in a larger one changes what the larger one may change. -/
theorem mono (h : Changes nodes follow) (hsub : nodes ⊆ more) : Changes more follow := by
  intro name
  obtain ⟨change, hchange, hadds⟩ := h name
  exact ⟨change, hchange, fun hadd => hsub (hadds hadd)⟩

/-- Following nothing changes nothing. -/
theorem nothing : Changes nodes fun b => b :=
  fun _ => ⟨.add [], fun _ => Change.apply_add_nil.symm, fun hadd => absurd rfl hadd⟩

/-- Two pieces that follow each other change what either of them may change. -/
theorem andThen (h : Changes nodes follow) (hnext : Changes more next) :
    Changes (nodes ++ more) fun b => next (follow b) := by
  intro name
  -- each of the two is one change to the name, and so are both in a row
  obtain ⟨first, hfirst, haddsFirst⟩ := h name
  obtain ⟨second, hsecond, haddsSecond⟩ := hnext name
  refine ⟨first.andThen second, fun b => ?_, fun hadd => ?_⟩
  · rw [Change.apply_andThen, hsecond, hfirst]
  · rcases Change.adds_of_adds_andThen hadd with hadd | hadd
    · exact List.mem_append_left _ (haddsFirst hadd)
    · exact List.mem_append_right _ (haddsSecond hadd)

/-- Recording a name anew is a change for which the name need not stand anywhere. -/
theorem set (name : String) (binding : Binding) : Changes nodes (·.set name binding) := by
  intro other
  by_cases h : other = name
  · exact ⟨.replace binding, fun b => if_pos (beq_iff_eq.mpr h), False.elim⟩
  · refine ⟨.add [], fun b => ?_, fun hadd => absurd rfl hadd⟩
    rw [Change.apply_add_nil]
    exact if_neg (by simpa using h)

/-- Adding keys to a name is a change if the name stands in the piece. -/
theorem addKeys (keys : List String) (h : .ident name ∈ nodes) :
    Changes nodes (·.addKeys name keys) := by
  intro other
  by_cases hother : other = name
  · exact ⟨.add keys, fun b => if_pos (beq_iff_eq.mpr hother), fun _ => hother ▸ h⟩
  · refine ⟨.add [], fun b => ?_, fun hadd => absurd rfl hadd⟩
    rw [Change.apply_add_nil]
    exact if_neg (by simpa using hother)

/-- A declarator changes one name or none. -/
theorem declare (item : Declarator) : Changes nodes (·.declare item) := by
  unfold Bindings.declare
  split
  · exact set _ _
  · exact nothing

/-- Several declarators change what each of them changes. -/
theorem declareAll : ∀ items : List Declarator, Changes nodes (items.foldl Bindings.declare ·)
  | [] => nothing
  | first :: rest =>
    have hall : Changes (nodes ++ nodes) (fun b => rest.foldl Bindings.declare (b.declare first)) :=
      (declare first).andThen (declareAll rest)
    hall.mono (List.append_subset.mpr ⟨List.Subset.refl _, List.Subset.refl _⟩)

/-- An assignment adds a key to the name whose property it assigns. -/
theorem assign (target : Expr) : Changes target.nodes (·.assign target) := by
  unfold Bindings.assign
  split
  · rename_i object key hproperty
    split
    · rename_i name hname
      refine addKeys _ (Expr.nodes_subset_of_propertyTarget? hproperty ?_)
      exact Expr.ident_mem_nodes_of_identName? hname
    · exact nothing
  · exact nothing

/-- A call adds the key that it defines on its first argument. -/
theorem call (callee : Expr) (args : List Expr) :
    Changes (Expr.call callee args).nodes (·.call callee args) := by
  simp only [Bindings.call]
  split
  · exact nothing
  · rename_i name hname
    obtain ⟨first, hfirst, hident⟩ := Option.bind_eq_some_iff.mp hname
    -- keys are only ever added to the name that the first argument is
    have hmem : .ident name ∈ (Expr.call callee args).nodes :=
      Expr.exprsNodes_args_subset callee args
        (nodes_subset_exprsNodes (mem_of_firstValue? hfirst)
          (Expr.ident_mem_nodes_of_identName? hident))
    split
    · split
      · exact addKeys _ hmem
      · exact nothing
    · split
      · exact addKeys _ hmem
      · exact nothing
    · exact nothing

end Changes

-- by recursion on the program, one case for each form that the first look follows
mutual

/-- What following an expression changes, by induction over what is followed, together with the
lemmas below. -/
theorem expr_changes (mode : Mode) : ∀ e : Expr, Changes e.nodes (expr mode · e)
  | .paren inner => (expr_changes mode inner).mono (List.subset_cons_self _ _)
  | .call callee args => by
    rcases invoked_changes mode callee with hnone | ⟨follow, hsome, hfollow⟩
    · simp only [expr, hnone, Option.getD_none]
      exact .call callee args
    · simp only [expr, hsome, Option.getD_some]
      exact hfollow.mono (Expr.nodes_callee_subset callee args)
  | .unary _ operand => (negated_changes mode operand).mono (List.subset_cons_self _ _)
  | .sequence items => (exprs_changes mode items).mono (List.subset_cons_self _ _)
  | .assign _ target value =>
    ((Changes.assign target).andThen (expr_changes mode value)).mono (List.subset_cons_self _ _)
  | .ident _ | .literal _ | .object _ | .function _ | .arrow _ | .arrowValue _ _ _ | .binary _ _ _
  | .logical _ _ _ | .conditional _ _ _ | .member _ _ | .index _ _ | .spread _ | .chain _
  | .other _ _ => .nothing

/-- The same for an expression under a unary operator. -/
theorem negated_changes (mode : Mode) : ∀ e : Expr, Changes e.nodes (negated mode · e)
  | .paren inner => (negated_changes mode inner).mono (List.subset_cons_self _ _)
  | .call callee args => by
    rcases invoked_changes mode callee with hnone | ⟨follow, hsome, hfollow⟩
    · simp only [negated, hnone, Option.getD_none]
      exact .nothing
    · simp only [negated, hsome, Option.getD_some]
      exact hfollow.mono (Expr.nodes_callee_subset callee args)
  | .ident _ | .literal _ | .object _ | .function _ | .arrow _ | .arrowValue _ _ _ | .unary _ _
  | .binary _ _ _ | .logical _ _ _ | .conditional _ _ _ | .assign _ _ _ | .sequence _ | .member _ _
  | .index _ _ | .spread _ | .chain _ | .other _ _ => .nothing

/-- Whether there is a function to follow does not depend on the table either. -/
theorem invoked_changes (mode : Mode) : ∀ e : Expr, (∀ b, invoked mode b e = none) ∨
    ∃ follow, (∀ b, invoked mode b e = some (follow b)) ∧ Changes e.nodes follow
  | .paren inner => by
    rcases invoked_changes mode inner with hnone | ⟨follow, hsome, hfollow⟩
    · exact Or.inl hnone
    · exact Or.inr ⟨follow, hsome, hfollow.mono (List.subset_cons_self _ _)⟩
  | .member owner name => by
    simp only [invoked]
    split
    · rcases body_changes mode owner with hnone | ⟨follow, hsome, hfollow⟩
      · exact Or.inl hnone
      · exact Or.inr ⟨follow, hsome, hfollow.mono (List.subset_cons_self _ _)⟩
    · exact Or.inl fun _ => rfl
  | .function (.mk _ _ _ _ statements) =>
    Or.inr ⟨_, fun _ => rfl,
      (stmts_changes mode statements).mono (Expr.stmtsNodes_function_subset _ _ _ _ _)⟩
  | .arrow (.mk _ _ _ _ statements) =>
    Or.inr ⟨_, fun _ => rfl,
      (stmts_changes mode statements).mono (Expr.stmtsNodes_arrow_subset _ _ _ _ _)⟩
  | .ident _ | .literal _ | .object _ | .arrowValue _ _ _ | .unary _ _ | .binary _ _ _
  | .logical _ _ _ | .conditional _ _ _ | .assign _ _ _ | .sequence _ | .index _ _ | .call _ _
  | .spread _ | .chain _ | .other _ _ => Or.inl fun _ => rfl

/-- A callee either has no body that is followed, whatever is known, or it has one and changes what
the body changes. -/
theorem body_changes (mode : Mode) : ∀ e : Expr, (∀ b, body mode b e = none) ∨
    ∃ follow, (∀ b, body mode b e = some (follow b)) ∧ Changes e.nodes follow
  | .paren inner => by
    rcases body_changes mode inner with hnone | ⟨follow, hsome, hfollow⟩
    · exact Or.inl hnone
    · exact Or.inr ⟨follow, hsome, hfollow.mono (List.subset_cons_self _ _)⟩
  | .function (.mk _ _ _ _ statements) =>
    Or.inr ⟨_, fun _ => rfl,
      (stmts_changes mode statements).mono (Expr.stmtsNodes_function_subset _ _ _ _ _)⟩
  | .arrow (.mk _ _ _ _ statements) =>
    Or.inr ⟨_, fun _ => rfl,
      (stmts_changes mode statements).mono (Expr.stmtsNodes_arrow_subset _ _ _ _ _)⟩
  | .ident _ | .literal _ | .object _ | .arrowValue _ _ _ | .unary _ _ | .binary _ _ _
  | .logical _ _ _ | .conditional _ _ _ | .assign _ _ _ | .sequence _ | .member _ _ | .index _ _
  | .call _ _ | .spread _ | .chain _ | .other _ _ => Or.inl fun _ => rfl

/-- The same for the items of a sequence. -/
theorem exprs_changes (mode : Mode) :
    ∀ items : List Expr, Changes (exprsNodes items) (exprs mode · items)
  | [] => .nothing
  | first :: rest => (expr_changes mode first).andThen (exprs_changes mode rest)

/-- The same for a statement. -/
theorem stmt_changes (mode : Mode) : ∀ s : Stmt, Changes s.nodes (stmt mode · s)
  | .expr e => expr_changes mode e
  | .declare _ items => .declareAll items
  | .function code => by
    simp only [stmt]
    split
    · exact .set _ _
    · exact .nothing
  | .class (some name) _ => .set name .unknown
  | .class none _ => .nothing
  | .block statements => stmts_changes mode statements
  | .tryCatch statements param handler finalizer =>
    (stmts_changes mode statements).mono
      (Stmt.stmtsNodes_try_subset statements param handler finalizer)
  | .ifThen test yes none => by
    simp only [stmt]
    split
    · exact .nothing
    · exact (stmt_changes mode yes).mono (List.subset_append_right _ _)
  | .ifThen test yes (some no) => by
    have hsub := Stmt.nodes_branches_subset test yes no
    simp only [stmt]
    split
    · exact ((stmt_changes mode yes).mono (List.subset_append_left _ _)).mono hsub
    · exact ((stmt_changes mode no).mono (List.subset_append_right _ _)).mono hsub
    · exact ((stmt_changes mode yes).andThen (stmt_changes mode no)).mono hsub
  | .return _ | .other _ _ _ => .nothing

/-- The same for several statements. -/
theorem stmts_changes (mode : Mode) :
    ∀ statements : List Stmt, Changes (stmtsNodes statements) (stmts mode · statements)
  | [] => .nothing
  | first :: rest => (stmt_changes mode first).andThen (stmts_changes mode rest)

end

end Bindings

end NamedExports.Script
