import NamedExports.Proofs.Text.Utf8
import NamedExports.Text.WordTable

/-!
# Finding words in a table

Bytes put texts in a linear order, as each text has bytes of its own.  In a table the order of the
words is that of their places, `byteOrder_getElem`, so the word in the middle tells in which half a
text can stand, and the search finds exactly the words: `place?_eq_some_iff`.
-/

namespace NamedExports.Text

/-! ## The order of bytes -/

instance : Std.OrientedCmp byteOrder :=
  inferInstanceAs (Std.OrientedCmp (compareOn fun text : String => Utf8.encode text.toList))

instance : Std.LawfulEqCmp byteOrder where
  compare_self := Std.ReflCmp.compare_self
  eq_of_compare h := String.toList_inj.mp (Utf8.encode_injective (Std.LawfulEqCmp.eq_of_compare h))

/-! ## Tables -/

namespace WordTable

variable {table : WordTable} {text : String} {low high i j : Nat}

/-- Words stand in the order of their places. -/
theorem byteOrder_getElem (hi : i < table.words.size) (hj : j < table.words.size) :
    byteOrder table.words[i] table.words[j] = compare i j := by
  have hascending := List.pairwise_iff_getElem.mp table.ascending
  rcases Nat.lt_trichotomy i j with hlt | rfl | hgt
  · rw [Nat.compare_eq_lt.mpr hlt]
    exact hascending i j hi hj hlt
  · rw [Nat.compare_eq_eq.mpr rfl]
    exact Std.ReflCmp.compare_self
  · rw [Nat.compare_eq_gt.mpr hgt]
    exact Std.OrientedCmp.gt_of_lt (hascending j i hj hi hgt)

/-- What is found is the text. -/
theorem getElem?_of_placeBetween? {h : high ≤ table.words.size}
    (hfound : table.placeBetween? text low high h = some i) : table.words[i]? = some text := by
  fun_induction placeBetween? table text low high h with
  | case1 low high h hlow middle hbefore ih => exact ih hfound
  | case2 low high h hlow middle hafter ih => exact ih hfound
  | case3 low high h hlow middle hequal =>
    obtain rfl := Option.some.inj hfound
    have hmiddle : middle < table.words.size := by omega
    rw [Array.getElem?_eq_getElem hmiddle, Std.LawfulEqCmp.eq_of_compare hequal]
  | case4 => cases hfound

/-- A word is found wherever the search takes place around it. -/
theorem placeBetween?_getElem {h : high ≤ table.words.size} (hlow : low ≤ i) (hhigh : i < high) :
    table.placeBetween? table.words[i] low high h = some i := by
  have hi : i < table.words.size := Nat.lt_of_lt_of_le hhigh h
  generalize htext : table.words[i] = text
  -- the place stays between the bounds, as its word does
  fun_induction placeBetween? table text low high h with
  | case1 low high h hbounds middle hbefore ih =>
    rw [← htext, byteOrder_getElem, Nat.compare_eq_lt] at hbefore
    exact ih hbefore hhigh
  | case2 low high h hbounds middle hafter ih =>
    rw [← htext, byteOrder_getElem, Nat.compare_eq_gt] at hafter
    exact ih hlow hafter
  | case3 low high h hbounds middle hequal =>
    rw [← htext, byteOrder_getElem, Nat.compare_eq_eq] at hequal
    rw [hequal]
  | case4 low high h hbounds => omega

/-- The search finds a text at the place where it stands. -/
theorem place?_eq_some_iff : table.place? text = some i ↔ table.words[i]? = some text := by
  constructor
  · exact getElem?_of_placeBetween?
  · intro h
    obtain ⟨hi, rfl⟩ := Array.getElem?_eq_some_iff.mp h
    exact placeBetween?_getElem (Nat.zero_le i) hi

/-- The search finds the words of a table and no other text. -/
theorem isSome_place?_iff : (table.place? text).isSome = true ↔ text ∈ table.words := by
  rw [Option.isSome_iff_exists, Array.mem_iff_getElem?]
  exact exists_congr fun i => place?_eq_some_iff

end WordTable

end NamedExports.Text
