import NamedExports.Scan.Findings

/-!
# Laws of findings

Findings are joined side by side: names with names and targets with targets.  A join is empty
exactly if every part is.
-/

namespace NamedExports.Findings

@[simp] theorem exports_append (a b : Findings) : (a ++ b).exports = a.exports ++ b.exports := rfl

@[simp] theorem reexports_append (a b : Findings) :
    (a ++ b).reexports = a.reexports ++ b.reexports := rfl

@[simp] theorem exports_empty : (∅ : Findings).exports = [] := rfl

@[simp] theorem reexports_empty : (∅ : Findings).reexports = [] := rfl

@[simp] theorem exports_names (exports : List String) : (names exports).exports = exports := rfl

@[simp] theorem reexports_names (exports : List String) : (names exports).reexports = [] := rfl

@[simp] theorem exports_reexport (specifier : String) (called : Bool) :
    (reexport specifier called).exports = [] := rfl

@[simp] theorem reexports_reexport (specifier : String) (called : Bool) :
    (reexport specifier called).reexports = [(Reexport.mk specifier called).encode] := rfl

/-- Findings are the same if they have the same exports and the same re-exports. -/
@[ext] theorem ext {a b : Findings} (hexports : a.exports = b.exports)
    (hreexports : a.reexports = b.reexports) : a = b := by
  cases a
  cases b
  congr

/-- Nothing is found exactly if there are neither exports nor re-exports. -/
theorem eq_empty_iff {a : Findings} : a = ∅ ↔ a.exports = [] ∧ a.reexports = [] := by
  rw [Findings.ext_iff]
  rfl

@[simp] theorem empty_append (a : Findings) : ∅ ++ a = a := rfl

@[simp] theorem append_empty (a : Findings) : a ++ ∅ = a := by
  ext1
  · exact List.append_nil _
  · exact List.append_nil _

theorem append_assoc (a b c : Findings) : a ++ b ++ c = a ++ (b ++ c) := by
  ext1
  · exact List.append_assoc _ _ _
  · exact List.append_assoc _ _ _

/-- What is found behind the same findings is the same, if all is. -/
theorem append_left_cancel {a b c : Findings} (h : a ++ b = a ++ c) : b = c := by
  obtain ⟨hexports, hreexports⟩ := Findings.ext_iff.mp h
  exact ext (List.append_cancel_left hexports) (List.append_cancel_left hreexports)

/-- Nothing is found in two places exactly if nothing is found in either. -/
theorem append_eq_empty_iff {a b : Findings} : a ++ b = ∅ ↔ a = ∅ ∧ b = ∅ := by
  simp only [eq_empty_iff, exports_append, reexports_append, List.append_eq_nil_iff]
  exact and_and_and_comm

@[simp] theorem join_nil : join [] = ∅ := rfl

@[simp] theorem join_cons (first : Findings) (rest : List Findings) :
    join (first :: rest) = first ++ join rest := rfl

@[simp] theorem join_append (front back : List Findings) :
    join (front ++ back) = join front ++ join back := by
  induction front with
  | nil => rfl
  | cons first rest ih => rw [List.cons_append, join_cons, ih, join_cons, append_assoc]

/-- The exports of joined findings are those of each, one after the other. -/
theorem exports_join (all : List Findings) : (join all).exports = all.flatMap exports := by
  induction all with
  | nil => rfl
  | cons first rest ih => rw [join_cons, exports_append, ih, List.flatMap_cons]

/-- Joined findings are empty exactly if each of them is. -/
theorem join_eq_empty_iff {all : List Findings} : join all = ∅ ↔ ∀ found ∈ all, found = ∅ := by
  induction all with
  | nil => simp
  | cons first rest ih => rw [join_cons, append_eq_empty_iff, ih, List.forall_mem_cons]

/-- Names are nothing exactly if there are none. -/
theorem names_eq_empty_iff {exports : List String} : names exports = ∅ ↔ exports = [] := by
  rw [eq_empty_iff]
  exact and_iff_left rfl

/-- A re-export is never nothing. -/
theorem reexport_ne_empty (specifier : String) (called : Bool) :
    reexport specifier called ≠ ∅ := by
  intro h
  cases (eq_empty_iff.mp h).2

/-- The keys and the modules of a binding are nothing exactly if there are none. -/
theorem names_append_reexports_eq_empty_iff {keys specifiers : List String} :
    names keys ++ join (specifiers.map (reexport · false)) = ∅ ↔ keys = [] ∧ specifiers = [] := by
  rw [append_eq_empty_iff, names_eq_empty_iff, join_eq_empty_iff, List.forall_mem_map]
  refine and_congr_right fun _ => ⟨fun h => List.eq_nil_iff_forall_not_mem.mpr ?_, ?_⟩
  · intro specifier hmem
    exact reexport_ne_empty specifier false (h specifier hmem)
  · rintro rfl specifier hmem
    cases hmem

end NamedExports.Findings
