import NamedExports.Text.Cut

/-!
# Laws of cutting

Cutting at a separator is the library's `List.splitOn` and joining with one is `List.intercalate`,
so the two undo each other.  The parts hold no separator.
-/

namespace NamedExports.Text

variable {separator : Char} {text front back part : List Char} {parts : List (List Char)}

theorem splitOn_eq (separator : Char) (text : List Char) :
    splitOn separator text = text.splitOn separator := by
  induction text with
  | nil => rfl
  | cons c rest ih =>
    rw [splitOn, List.splitOn_cons_eq_if_modifyHead, ih]
    split
    · rfl
    · cases hrest : rest.splitOn separator with
      | nil => exact absurd hrest (List.splitOn_ne_nil separator rest)
      | cons part parts => rfl

theorem joinWith_cons (h : parts ≠ []) :
    joinWith separator (part :: parts) = part ++ separator :: joinWith separator parts := by
  obtain ⟨second, others, rfl⟩ := List.exists_cons_of_ne_nil h
  rfl

theorem joinWith_eq (separator : Char) (parts : List (List Char)) :
    joinWith separator parts = [separator].intercalate parts := by
  induction parts with
  | nil => rfl
  | cons first rest ih =>
    cases rest with
    | nil => simp [joinWith]
    | cons second others =>
      rw [joinWith_cons (List.cons_ne_nil second others), ih, List.intercalate_cons_cons,
        List.append_assoc, List.singleton_append]

/-- What is joined holds the parts. -/
theorem mem_joinWith_of_mem {c : Char} (h : part ∈ parts) (hc : c ∈ part) :
    c ∈ joinWith separator parts := by
  induction parts with
  | nil => cases h
  | cons first rest ih =>
    cases rest with
    | nil =>
      obtain rfl : part = first := by simpa using h
      exact hc
    | cons second others =>
      rw [joinWith_cons (List.cons_ne_nil second others), List.mem_append, List.mem_cons]
      rcases List.mem_cons.mp h with rfl | h
      · exact Or.inl hc
      · exact Or.inr (Or.inr (ih h))

/-- What is joined holds nothing but the parts and separators. -/
theorem mem_joinWith {c : Char} (h : c ∈ joinWith separator parts) :
    c = separator ∨ ∃ part ∈ parts, c ∈ part := by
  induction parts with
  | nil => cases h
  | cons first rest ih =>
    cases rest with
    | nil => exact Or.inr ⟨first, List.mem_cons_self, h⟩
    | cons second others =>
      rw [joinWith_cons (List.cons_ne_nil second others), List.mem_append, List.mem_cons] at h
      rcases h with h | h | h
      · exact Or.inr ⟨first, List.mem_cons_self, h⟩
      · exact Or.inl h
      · refine (ih h).imp_right fun hpart => ?_
        obtain ⟨part, hmem, hc⟩ := hpart
        exact ⟨part, List.mem_cons_of_mem _ hmem, hc⟩

/-- What is joined of two lists of parts is parted by a separator. -/
theorem joinWith_append {others : List (List Char)} (hparts : parts ≠ []) (hothers : others ≠ []) :
    joinWith separator (parts ++ others) =
      joinWith separator parts ++ separator :: joinWith separator others := by
  induction parts with
  | nil => exact absurd rfl hparts
  | cons first rest ih =>
    by_cases hrest : rest = []
    · rw [hrest]
      exact joinWith_cons hothers
    · have hmore : rest ++ others ≠ [] := List.append_ne_nil_of_left_ne_nil hrest others
      rw [List.cons_append, joinWith_cons hmore, ih hrest, joinWith_cons hrest, List.append_assoc,
        List.cons_append]

/-- There is always a first part. -/
theorem splitOn_ne_nil (separator : Char) (text : List Char) : splitOn separator text ≠ [] := by
  rw [splitOn_eq]
  exact List.splitOn_ne_nil separator text

/-- A text is cut at each of its separators. -/
theorem splitOn_append_cons (separator : Char) (front back : List Char) :
    splitOn separator (front ++ separator :: back) =
      splitOn separator front ++ splitOn separator back := by
  rw [splitOn_eq, splitOn_eq, splitOn_eq]
  exact List.splitOn_append_cons_self front back

/-- A text without separators is one part. -/
theorem splitOn_of_not_mem (h : separator ∉ text) : splitOn separator text = [text] := by
  rw [splitOn_eq]
  exact List.splitOn_eq_singleton h

/-- Parts without separators come back when they are joined and cut again. -/
theorem splitOn_joinWith (hne : parts ≠ []) (h : ∀ part ∈ parts, separator ∉ part) :
    splitOn separator (joinWith separator parts) = parts := by
  rw [splitOn_eq, joinWith_eq]
  exact List.splitOn_intercalate separator h hne

/-- The parts hold no separators. -/
theorem not_mem_of_mem_splitOn (h : part ∈ splitOn separator text) : separator ∉ part := by
  induction text generalizing part with
  | nil =>
    obtain rfl : part = [] := by simpa [splitOn] using h
    exact List.not_mem_nil
  | cons c rest ih =>
    rw [splitOn_eq, List.splitOn_cons_eq_if_modifyHead, ← splitOn_eq] at h
    split at h
    · rcases List.mem_cons.mp h with rfl | h
      · exact List.not_mem_nil
      · exact ih h
    · rename_i hc
      have hne : separator ≠ c := fun e => hc (beq_iff_eq.mpr e.symm)
      obtain ⟨first, others, hparts⟩ := List.exists_cons_of_ne_nil (splitOn_ne_nil separator rest)
      rw [hparts, List.modifyHead_cons] at h
      rcases List.mem_cons.mp h with rfl | h
      · have hfirst : separator ∉ first := ih (hparts ▸ List.mem_cons_self)
        exact fun hmem => (List.mem_cons.mp hmem).elim hne hfirst
      · exact ih (hparts ▸ List.mem_cons_of_mem _ h)

/-- A text comes back when it is cut and its parts are joined again. -/
theorem joinWith_splitOn (separator : Char) (text : List Char) :
    joinWith separator (splitOn separator text) = text := by
  rw [joinWith_eq, splitOn_eq]
  exact List.intercalate_splitOn separator

/-- The parts hold nothing but what the text holds. -/
theorem mem_of_mem_splitOn {c : Char} (h : part ∈ splitOn separator text) (hc : c ∈ part) :
    c ∈ text := by
  rw [← joinWith_splitOn separator text]
  exact mem_joinWith_of_mem h hc

/-- A text is cut once at its first separator. -/
theorem splitOnce_eq_some_iff :
    splitOnce separator text = some (front, back) ↔
      text = front ++ separator :: back ∧ separator ∉ front := by
  induction text generalizing front with
  | nil => simp [splitOnce]
  | cons c rest ih =>
    rw [splitOnce]
    by_cases hc : c = separator
    · subst hc
      simp only [beq_self_eq_true, if_true, Option.some.injEq, Prod.mk.injEq]
      constructor
      · rintro ⟨rfl, rfl⟩
        exact ⟨rfl, List.not_mem_nil⟩
      · rintro ⟨htext, hfront⟩
        cases front with
        | nil => exact ⟨rfl, (List.cons.inj htext).2⟩
        | cons d others =>
          obtain ⟨rfl, -⟩ := List.cons.inj htext
          exact absurd List.mem_cons_self hfront
    · rw [if_neg (by simpa using hc)]
      simp only [Option.map_eq_some_iff, Prod.exists, Prod.mk.injEq]
      constructor
      · rintro ⟨start, rest', hsplit, rfl, rfl⟩
        obtain ⟨rfl, hstart⟩ := ih.mp hsplit
        refine ⟨rfl, fun hmem => ?_⟩
        exact (List.mem_cons.mp hmem).elim (fun e => hc e.symm) hstart
      · rintro ⟨htext, hfront⟩
        cases front with
        | nil => exact absurd (List.cons.inj htext).1 hc
        | cons d others =>
          obtain ⟨rfl, rfl⟩ := List.cons.inj htext
          have hothers : separator ∉ others := fun hmem => hfront (List.mem_cons_of_mem _ hmem)
          exact ⟨others, back, ih.mpr ⟨rfl, hothers⟩, rfl, rfl⟩

/-- Only a text without separators is not cut. -/
theorem splitOnce_eq_none_iff : splitOnce separator text = none ↔ separator ∉ text := by
  constructor
  · intro h hmem
    obtain ⟨front, back, rfl, hfront⟩ := List.eq_append_cons_of_mem hmem
    rw [splitOnce_eq_some_iff.mpr ⟨rfl, hfront⟩] at h
    cases h
  · intro h
    cases hsplit : splitOnce separator text with
    | none => rfl
    | some cut =>
      obtain ⟨before, after⟩ := cut
      obtain ⟨rfl, -⟩ := splitOnce_eq_some_iff.mp hsplit
      exact absurd (List.mem_append_right _ List.mem_cons_self) h

/-- Two cuts of a text behind the same number of separators are one. -/
theorem eq_of_append_cons_eq {front' back' : List Char}
    (h : front ++ separator :: back = front' ++ separator :: back')
    (hcount : front.count separator = front'.count separator) : front = front' := by
  rcases List.append_eq_append_iff.mp h with ⟨more, rfl, hmore⟩ | ⟨more, rfl, hmore⟩
  · cases more with
    | nil => rw [List.append_nil]
    | cons c rest =>
      obtain ⟨rfl, -⟩ := List.cons.inj hmore
      simp at hcount
  · cases more with
    | nil => rw [List.append_nil]
    | cons c rest =>
      obtain ⟨rfl, -⟩ := List.cons.inj hmore
      simp at hcount

/-- The parts of a text are the first parts of what goes on behind it with a separator, and of
nothing else. -/
theorem splitOn_prefix_iff {start : List Char} :
    splitOn separator start <+: splitOn separator text ↔
      text = start ∨ ∃ rest, text = start ++ separator :: rest := by
  constructor
  · rintro ⟨more, hmore⟩
    rw [← joinWith_splitOn separator text, ← hmore]
    by_cases hmore : more = []
    · rw [hmore, List.append_nil, joinWith_splitOn]
      exact Or.inl rfl
    · rw [joinWith_append (splitOn_ne_nil separator start) hmore, joinWith_splitOn]
      exact Or.inr ⟨_, rfl⟩
  · rintro (rfl | ⟨rest, rfl⟩)
    · exact List.prefix_refl _
    · rw [splitOn_append_cons]
      exact List.prefix_append _ _

/-! ## Beginnings and ends -/

/-- A beginning that can be stripped is a prefix. -/
theorem stripStart_eq_some_iff {start text rest : List Char} :
    stripStart start text = some rest ↔ text = start ++ rest := by
  rw [stripStart]
  split
  · rename_i h
    obtain ⟨tail, rfl⟩ := List.isPrefixOf_iff_prefix.mp h
    simp [eq_comm]
  · rename_i h
    refine iff_of_false (by simp) ?_
    rintro rfl
    exact h (List.isPrefixOf_iff_prefix.mpr (List.prefix_append start rest))

/-- Only a prefix can be stripped. -/
theorem stripStart_eq_none_iff {start text : List Char} :
    stripStart start text = none ↔ ¬ start <+: text := by
  simp [stripStart]

/-- An end that can be stripped is a suffix. -/
theorem stripEnd_eq_some_iff {ending text rest : List Char} :
    stripEnd ending text = some rest ↔ text = rest ++ ending := by
  rw [stripEnd]
  split
  · rename_i h
    obtain ⟨front, rfl⟩ := List.isSuffixOf_iff_suffix.mp h
    simp [eq_comm]
  · rename_i h
    refine iff_of_false (by simp) ?_
    rintro rfl
    exact h (List.isSuffixOf_iff_suffix.mpr (List.suffix_append rest ending))

/-! ## Lines -/

/-- What precedes a line feed makes lines of its own. -/
theorem lines_append_cons (front back : List Char) :
    lines (front ++ '\n' :: back) = (splitOn '\n' front).map dropReturn ++ lines back := by
  have hne := splitOn_ne_nil '\n' back
  have hlast : (splitOn '\n' front ++ splitOn '\n' back).getLast? =
      (splitOn '\n' back).getLast? := by
    rw [List.getLast?_append, List.getLast?_eq_some_getLast hne]
    rfl
  rw [lines, splitOn_append_cons, List.dropLast_append_of_ne_nil hne, List.map_append, hlast,
    List.append_assoc, lines]

/-- A carriage return is dropped only where there is one. -/
theorem dropReturn_of_getLast? {line : List Char} (h : line.getLast? ≠ some '\r') :
    dropReturn line = line := by
  have hsuffix : ¬ ['\r'] <:+ line := by
    rintro ⟨start, rfl⟩
    exact h List.getLast?_concat
  rw [dropReturn, stripEnd, if_neg (by simpa using hsuffix)]
  rfl

/-- One line, without a line feed in it or a carriage return at its end. -/
theorem lines_cons_of_not_mem {line : List Char} (hline : '\n' ∉ line)
    (hlast : line.getLast? ≠ some '\r') (back : List Char) :
    lines (line ++ '\n' :: back) = line :: lines back := by
  rw [lines_append_cons, splitOn_of_not_mem hline, List.map_singleton, dropReturn_of_getLast? hlast,
    List.singleton_append]

end NamedExports.Text
