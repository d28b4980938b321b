import NamedExports.Path

/-!
# Kinds of paths

A path is that of a JSON file by its text, and that of a module to scan by the extension of its last
name.  `Path.isJson_eq_false_of_extension` says that no path is both: text behind the last slash
stays with the last name, so a path that ends in `.json` has that extension or none.
-/

namespace NamedExports

/-- Text without separators is added to the last part. -/
theorem Text.splitOn_append {separator : Char} {ending : List Char} (h : separator ∉ ending) :
    ∀ text : List Char, ∃ front last, splitOn separator text = front ++ [last] ∧
      splitOn separator (text ++ ending) = front ++ [last ++ ending]
  | [] => by
    refine ⟨[], [], rfl, ?_⟩
    induction ending with
    | nil => rfl
    | cons c rest ih =>
      have hc : c ≠ separator := fun e => h (by simp [e])
      have hrest : separator ∉ rest := fun e => h (by simp [e])
      have := ih hrest
      simp only [List.nil_append] at this ⊢
      simp [splitOn, hc, this]
  | c :: rest => by
    obtain ⟨front, last, hfront, hlonger⟩ := splitOn_append h rest
    by_cases hc : c = separator
    · exact ⟨[] :: front, last, by simp [splitOn, hc, hfront], by simp [splitOn, hc, hlonger]⟩
    · cases front with
      | nil => exact ⟨[], c :: last, by simp_all [splitOn], by simp_all [splitOn]⟩
      | cons part parts =>
        exact ⟨(c :: part) :: parts, last, by simp_all [splitOn], by simp_all [splitOn]⟩

namespace Path

variable {path : Path}

/-- Text that starts with no slash and holds none is the end of the last segment. -/
theorem exists_segments_of_suffix {ending : List Char} (hslash : '/' ∉ ending)
    (h : ending <:+ path.text.toList) :
    ∃ front name, path.segments = front ++ [name ++ ending] := by
  obtain ⟨start, hstart⟩ := h
  have split (text : List Char) :
      ∃ front name, Text.splitOn '/' (text ++ ending) = front ++ [name ++ ending] := by
    obtain ⟨front, last, -, hlonger⟩ := Text.splitOn_append hslash text
    exact ⟨front, last, hlonger⟩
  have hwhole := split start
  rw [hstart] at hwhole
  rw [segments]
  split
  · rename_i rest htext
    cases start with
    | nil =>
      rw [List.nil_append, htext] at hstart
      exact absurd (hstart ▸ List.mem_cons_self) hslash
    | cons c tail =>
      rw [htext, List.cons_append, List.cons.injEq] at hstart
      rw [← hstart.2]
      exact split tail
  · exact hwhole

/-- The last name of a path whose last segment is longer than two dots. -/
theorem fileName?_of_segments {front : List (List Char)} {name : List Char}
    (h : path.segments = front ++ [name]) (hlength : 2 < name.length) :
    path.fileName? = some name := by
  have hempty : name.isEmpty = false := by
    cases name with
    | nil => simp at hlength
    | cons c rest => rfl
  have hdot : (name == ['.']) = false := by
    rw [beq_eq_false_iff_ne]
    rintro rfl
    simp at hlength
  have hdots : (name == ['.', '.']) = false := by
    rw [beq_eq_false_iff_ne]
    rintro rfl
    simp at hlength
  simp [fileName?, ends, h, endings, isBlank, hempty, hdot, hdots]

/-- A path that ends in `.json` has that extension, or none at all. -/
theorem extension?_of_isJson (h : path.isJson = true) :
    path.extension? = none ∨ path.extension? = some "json" := by
  have hsuffix : ['.', 'j', 's', 'o', 'n'] <:+ path.text.toList := by
    simpa [isJson] using h
  obtain ⟨front, name, hsegments⟩ :=
    exists_segments_of_suffix (by decide) hsuffix
  have hname := fileName?_of_segments hsegments (by simp)
  simp only [extension?, hname, Option.bind_some, List.reverse_append]
  cases name with
  | nil => exact Or.inl rfl
  | cons c rest =>
    right
    simp [Text.splitOnce]

/-- A module to scan is no JSON file. -/
theorem isJson_eq_false_of_extension
    (h : path.extension? = some "js" ∨ path.extension? = some "cjs") : path.isJson = false := by
  rw [← Bool.not_eq_true]
  intro hjson
  rcases extension?_of_isJson hjson with hnone | hsome <;> rcases h with h | h <;> simp_all

/-- The modules to scan are those with the extensions `js` and `cjs`. -/
theorem isScanned_iff :
    path.isScanned = true ↔ path.extension? = some "js" ∨ path.extension? = some "cjs" := by
  cases h : path.extension? with
  | none => simp [isScanned, h]
  | some extension => simp [isScanned, h, scannedExtensions]

end Path

end NamedExports
