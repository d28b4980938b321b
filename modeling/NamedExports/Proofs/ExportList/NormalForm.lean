import Mathlib.Data.List.Basic
import NamedExports.Proofs.ExportList

/-!
# Export lists as normal forms

A list of candidates is put in order by making an export list of it: each name that can be exported
stands once, where it stood first.  `firstOccurrences_append` says what a list keeps behind another
one, and `ordered_firstOccurrences` in which order.  From these come the laws of export lists:
making one twice changes nothing, a list can be made of its parts, and the names in ascending order
depend only on which candidates there are.
-/

namespace NamedExports.ExportList

variable {seen names first second : List String}

/-! ## What is kept of a list -/

/-- Of the names already seen those count that come up again. -/
theorem firstOccurrences_congr {others : List String}
    (h : ∀ name ∈ names, name ∈ seen ↔ name ∈ others) :
    firstOccurrences seen names = firstOccurrences others names := by
  rw [firstOccurrences_eq, firstOccurrences_eq]
  congr 1
  refine List.filter_congr fun name hname => ?_
  simp [h name hname]

/-- What a list keeps behind another one is what that one does not hold. -/
theorem firstOccurrences_append (seen front back : List String) :
    firstOccurrences seen (front ++ back) =
      firstOccurrences seen front ++ firstOccurrences (front ++ seen) back := by
  induction front generalizing seen with
  | nil => rfl
  | cons name rest ih =>
    by_cases hseen : name ∈ seen
    · rw [List.cons_append, firstOccurrences_cons_of_mem hseen, ih,
        firstOccurrences_cons_of_mem hseen]
      congr 1
      refine firstOccurrences_congr fun other _ => ?_
      by_cases hother : other = name <;> simp [hother, hseen]
    · rw [List.cons_append, firstOccurrences_cons_of_not_mem hseen, ih,
        firstOccurrences_cons_of_not_mem hseen, List.cons_append]
      congr 2
      refine firstOccurrences_congr fun other _ => ?_
      simp [or_left_comm]

/-- To have seen some names is to drop them from what is kept. -/
theorem firstOccurrences_append_eq_filter (seen others names : List String) :
    firstOccurrences (seen ++ others) names =
      (firstOccurrences others names).filter fun name => !seen.contains name := by
  -- `others` grows by the names that are kept, whether or not they are in `seen`.
  induction names generalizing others with
  | nil => rfl
  | cons name rest ih =>
    have hmoved : firstOccurrences (seen ++ name :: others) rest =
        firstOccurrences (name :: (seen ++ others)) rest :=
      firstOccurrences_congr fun other _ => by simp [or_left_comm]
    by_cases hothers : name ∈ others
    · rw [firstOccurrences_cons_of_mem (List.mem_append_right seen hothers), ih,
        firstOccurrences_cons_of_mem hothers]
    · rw [firstOccurrences_cons_of_not_mem hothers]
      by_cases hseen : name ∈ seen
      · rw [firstOccurrences_cons_of_mem (List.mem_append_left others hseen),
          List.filter_cons_of_neg (by simpa using hseen), ← ih, hmoved]
        refine firstOccurrences_congr fun other _ => ?_
        by_cases hother : other = name <;> simp [hother, hseen]
      · rw [firstOccurrences_cons_of_not_mem (by simp [hseen, hothers]),
          List.filter_cons_of_pos (by simpa using hseen), ← ih, hmoved]

/-- A list without repetitions is kept whole, if nothing on it was seen before. -/
theorem firstOccurrences_eq_self (hnodup : names.Nodup) (hnew : ∀ name ∈ names, name ∉ seen) :
    firstOccurrences seen names = names := by
  induction names generalizing seen with
  | nil => rfl
  | cons name rest ih =>
    obtain ⟨hname, hrest⟩ := List.nodup_cons.mp hnodup
    have hnewRest : ∀ other ∈ rest, other ∉ name :: seen := by
      intro other hother hmem
      rcases List.mem_cons.mp hmem with rfl | hmem
      · exact hname hother
      · exact hnew other (List.mem_cons_of_mem _ hother) hmem
    rw [firstOccurrences_cons_of_not_mem (hnew name List.mem_cons_self), ih hrest hnewRest]

/-! ## Order -/

/-- A name in front of a list changes the order of no others. -/
theorem pairwise_idxOf_cons {name : String} {kept : List String} (hname : name ∉ kept)
    (h : kept.Pairwise fun a b => names.idxOf a < names.idxOf b) :
    kept.Pairwise fun a b => (name :: names).idxOf a < (name :: names).idxOf b := by
  refine h.imp_of_mem fun {a b} ha hb hlt => ?_
  have hne {other : String} (hother : other ∈ kept) : name ≠ other :=
    fun e => hname (e ▸ hother)
  rw [List.idxOf_cons_ne _ (hne ha), List.idxOf_cons_ne _ (hne hb)]
  exact Nat.succ_lt_succ hlt

/-- Names are kept in the order of their first places, also where some of them are left out. -/
theorem ordered_firstOccurrences (keep : String → Bool) (seen names : List String) :
    (firstOccurrences seen (names.filter keep)).Pairwise fun a b =>
      names.idxOf a < names.idxOf b := by
  induction names generalizing seen with
  | nil => exact List.Pairwise.nil
  | cons name rest ih =>
    by_cases hkeep : keep name = true
    · rw [List.filter_cons_of_pos hkeep]
      by_cases hseen : name ∈ seen
      · have hgone : name ∉ firstOccurrences seen (rest.filter keep) :=
          fun h => (mem_firstOccurrences_iff.mp h).2 hseen
        rw [firstOccurrences_cons_of_mem hseen]
        exact pairwise_idxOf_cons hgone (ih seen)
      · have hgone : name ∉ firstOccurrences (name :: seen) (rest.filter keep) :=
          fun h => (mem_firstOccurrences_iff.mp h).2 List.mem_cons_self
        rw [firstOccurrences_cons_of_not_mem hseen]
        refine List.pairwise_cons.mpr ⟨fun other hother => ?_, pairwise_idxOf_cons hgone (ih _)⟩
        have hne : name ≠ other := fun e => hgone (e ▸ hother)
        rw [List.idxOf_cons_self, List.idxOf_cons_ne _ hne]
        exact Nat.succ_pos _
    · have hgone : name ∉ firstOccurrences seen (rest.filter keep) :=
        fun h => hkeep (List.mem_filter.mp (mem_firstOccurrences_iff.mp h).1).2
      rw [List.filter_cons_of_neg hkeep]
      exact pairwise_idxOf_cons hgone (ih seen)

/-! ## Laws of export lists -/

theorem contains_iff {list : ExportList} {name : String} :
    list.contains name = true ↔ name ∈ list.exports := by
  simp [contains]

/-- What can be exported of two lists, one behind the other. -/
theorem exports_append (front back : List String) :
    (ofCandidates (front ++ back)).exports = (ofCandidates front).exports ++
      (ofCandidates back).exports.filter fun name => !(ofCandidates front).contains name := by
  simp only [ofCandidates, List.filter_append]
  rw [firstOccurrences_append, firstOccurrences_append_eq_filter]
  congr 1
  refine List.filter_congr fun name _ => ?_
  rw [Bool.eq_iff_iff, Bool.not_eq_true', Bool.not_eq_true', ← Bool.not_eq_true, ← Bool.not_eq_true,
    contains_iff]
  simp [mem_firstOccurrences_iff]

/-- An export list is the export list of its own names. -/
theorem ofCandidates_exports (candidates : List String) :
    ofCandidates (ofCandidates candidates).exports = ofCandidates candidates := by
  have hkept : (ofCandidates candidates).exports.filter Name.isExportable =
      (ofCandidates candidates).exports := by
    refine List.filter_eq_self.mpr fun name hname => ?_
    exact Name.isExportable_iff.mpr (mem_ofCandidates_iff.mp hname).2
  rw [ofCandidates, hkept, firstOccurrences_eq_self (nodup_ofCandidates candidates)]
  simp

/-- Export lists with the same names, each as often, are the same in ascending order. -/
theorem sorted_eq_of_perm {first second : ExportList} (h : first.exports.Perm second.exports) :
    first.sorted = second.sorted := by
  have hordered (list : ExportList) :
      list.sorted.Pairwise fun a b => decide (a ≤ b) = true := by
    refine List.pairwise_mergeSort (fun a b c hab hbc => ?_) (fun a b => ?_) _
    · rw [decide_eq_true_iff] at hab hbc ⊢
      exact String.le_trans hab hbc
    · rw [Bool.or_eq_true, decide_eq_true_iff, decide_eq_true_iff]
      exact String.le_total a b
  have hsame (list : ExportList) : list.sorted.Perm list.exports := List.mergeSort_perm _ _
  refine List.Perm.eq_of_pairwise (fun a b _ _ hab hba => ?_) (hordered first) (hordered second)
    ((hsame first).trans (h.trans (hsame second).symm))
  rw [decide_eq_true_iff] at hab hba
  exact String.le_antisymm hab hba

/-- In ascending order it only matters which candidates there are. -/
theorem sorted_congr (h : ∀ name, name ∈ first ↔ name ∈ second) :
    (ofCandidates first).sorted = (ofCandidates second).sorted := by
  refine sorted_eq_of_perm ((List.perm_ext_iff_of_nodup (nodup_ofCandidates _)
    (nodup_ofCandidates _)).mpr fun name => ?_)
  rw [mem_ofCandidates_iff, mem_ofCandidates_iff, h]

/-- An export list is a normal form of its candidates: those that can be exported, each once, in the
order of their first places.  The list of two parts needs only the list of the first part, and is
that list and what the list of the second part adds to it.  Repeating the candidates changes
nothing, and neither does making the list of an export list.  In ascending order, only the set of
the candidates matters. -/
theorem ofCandidates_normal_form (xs ys : List String) :
    ((ofCandidates xs).exports.Nodup ∧
        (∀ name, name ∈ (ofCandidates xs).exports ↔
          name ∈ xs ∧ Name.IsWord name ∧ name ∉ Name.reservedWords) ∧
        (ofCandidates xs).exports.Pairwise fun a b => xs.idxOf a < xs.idxOf b) ∧
      (ofCandidates (xs ++ ys) = ofCandidates ((ofCandidates xs).exports ++ ys) ∧
        (ofCandidates (xs ++ ys)).exports = (ofCandidates xs).exports ++
          (ofCandidates ys).exports.filter fun name => !(ofCandidates xs).contains name) ∧
      (ofCandidates (xs ++ xs) = ofCandidates xs ∧
        ofCandidates (ofCandidates xs).exports = ofCandidates xs) ∧
      ((∀ name, name ∈ xs ↔ name ∈ ys) → (ofCandidates xs).sorted = (ofCandidates ys).sorted) := by
  have hkept := ofCandidates_exports xs
  refine ⟨⟨nodup_ofCandidates xs, fun name => mem_ofCandidates_iff,
    ordered_firstOccurrences Name.isExportable [] xs⟩, ⟨?_, exports_append xs ys⟩, ⟨?_, hkept⟩,
    sorted_congr⟩
  · have happend := exports_append (ofCandidates xs).exports ys
    rw [hkept, ← exports_append xs ys] at happend
    exact congrArg mk happend.symm
  · have hnone : (ofCandidates xs).exports.filter (fun name => !(ofCandidates xs).contains name) =
        [] := by
      refine List.filter_eq_nil_iff.mpr fun name hname => ?_
      simp [contains_iff.mpr hname]
    have happend := exports_append xs xs
    rw [hnone, List.append_nil] at happend
    exact congrArg mk happend

/-- Two lists with the same candidates in different orders, some of them repeated or reserved. -/
theorem ofCandidates_normal_form_shuffled :
    let xs := ["b", "a", "class", "b", "c-d", "a"]
    let ys := ["c-d", "a", "b", "class"]
    (ofCandidates (xs ++ ys)).exports = ["b", "a"] ∧
      (ofCandidates xs).sorted = (ofCandidates ys).sorted := by
  intro xs ys
  obtain ⟨-, ⟨-, happend⟩, -, hsorted⟩ := ofCandidates_normal_form xs ys
  refine ⟨happend.trans (by decide), hsorted fun name => ?_⟩
  simp only [xs, ys, List.mem_cons, List.not_mem_nil, or_false]
  tauto

end NamedExports.ExportList
