import NamedExports.Text.Utf8

/-!
# Word tables

Words kept in the order of their bytes, so that a look at one of them tells on which side of it a
text has to stand.  A search halves what is left of the table until it meets the text.
-/

namespace NamedExports.Text

/-- Texts compared by their bytes: by the first two that differ, and a beginning comes first. -/
def byteOrder : String → String → Ordering := compareOn fun text => Utf8.encode text.toList

/-- Words in ascending order of their bytes. -/
structure WordTable where
  words : Array String
  ascending : words.toList.Pairwise fun a b => byteOrder a b = .lt

namespace WordTable

/-- The place of a text among the words from `low` on that stand before `high`. -/
@[semireducible]
def placeBetween? (table : WordTable) (text : String) (low high : Nat)
    (h : high ≤ table.words.size) : Option Nat :=
  if hlow : low < high then
    let middle := low + (high - low) / 2
    match byteOrder table.words[middle] text with
    | .lt => table.placeBetween? text (middle + 1) high h
    | .gt => table.placeBetween? text low middle (by omega)
    | .eq => some middle
  else none
termination_by high - low

/-- The place of a text in a table. -/
def place? (table : WordTable) (text : String) : Option Nat :=
  table.placeBetween? text 0 table.words.size (Nat.le_refl _)

end WordTable

end NamedExports.Text
