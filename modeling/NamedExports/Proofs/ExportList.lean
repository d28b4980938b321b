import NamedExports.ExportList
import NamedExports.Proofs.Name

/-!
# What an export list holds

`ExportList.ofCandidates` keeps the candidates that can be exported, each at its first place.
-/

namespace NamedExports

namespace ExportList

theorem firstOccurrences_cons_of_mem {seen rest : List String} {name : String} (h : name ∈ seen) :
    firstOccurrences seen (name :: rest) = firstOccurrences seen rest := by
  rw [firstOccurrences, if_pos (by simpa using h)]

theorem firstOccurrences_cons_of_not_mem {seen rest : List String} {name : String}
    (h : name ∉ seen) :
    firstOccurrences seen (name :: rest) = name :: firstOccurrences (name :: seen) rest := by
  rw [firstOccurrences, if_neg (by simpa using h)]

theorem mem_firstOccurrences_iff {seen names : List String} {name : String} :
    name ∈ firstOccurrences seen names ↔ name ∈ names ∧ name ∉ seen := by
  induction names generalizing seen with
  | nil => simp [firstOccurrences]
  | cons first rest ih =>
    by_cases hseen : first ∈ seen
    · rw [firstOccurrences_cons_of_mem hseen, ih, List.mem_cons]
      constructor
      · rintro ⟨hrest, hname⟩
        exact ⟨Or.inr hrest, hname⟩
      · rintro ⟨rfl | hrest, hname⟩
        · exact absurd hseen hname
        · exact ⟨hrest, hname⟩
    · rw [firstOccurrences_cons_of_not_mem hseen, List.mem_cons, ih]
      by_cases hfirst : name = first
      · simp [hfirst, hseen]
      · simp [hfirst]

theorem nodup_firstOccurrences (seen names : List String) :
    (firstOccurrences seen names).Nodup := by
  induction names generalizing seen with
  | nil => simp [firstOccurrences]
  | cons first rest ih =>
    by_cases hseen : first ∈ seen
    · rw [firstOccurrences_cons_of_mem hseen]
      exact ih seen
    · rw [firstOccurrences_cons_of_not_mem hseen, List.nodup_cons]
      refine ⟨fun hfirst => ?_, ih _⟩
      exact (mem_firstOccurrences_iff.mp hfirst).2 List.mem_cons_self

/-- No name stands twice on an export list. -/
theorem nodup_ofCandidates (candidates : List String) :
    (ofCandidates candidates).exports.Nodup :=
  nodup_firstOccurrences [] _

/-- On an export list are the candidates that can be exported. -/
theorem mem_ofCandidates_iff {candidates : List String} {name : String} :
    name ∈ (ofCandidates candidates).exports ↔
      name ∈ candidates ∧ Name.IsWord name ∧ name ∉ Name.reservedWords := by
  rw [ofCandidates, mem_firstOccurrences_iff, List.mem_filter, Name.isExportable_iff]
  simp

/-- Each member at its first place: what is left when repetitions are erased. -/
theorem firstOccurrences_eq (seen names : List String) :
    firstOccurrences seen names = (names.filter fun name => !seen.contains name).eraseDups := by
  induction names generalizing seen with
  | nil => rfl
  | cons first rest ih =>
    by_cases hseen : first ∈ seen
    · rw [firstOccurrences_cons_of_mem hseen, ih, List.filter_cons_of_neg (by simpa using hseen)]
    · rw [firstOccurrences_cons_of_not_mem hseen, ih,
        List.filter_cons_of_pos (by simpa using hseen), List.eraseDups_cons, List.filter_filter]
      simp only [List.contains_cons, Bool.not_or]

/-- An export list has the candidates that can be exported, in the order first seen. -/
theorem ofCandidates_eq (candidates : List String) :
    ofCandidates candidates = ⟨(candidates.filter Name.isExportable).eraseDups⟩ := by
  rw [ofCandidates, firstOccurrences_eq]
  simp

end ExportList

end NamedExports
