import NamedExports.Name
import NamedExports.Proofs.Text.WordTable

/-!
# Which names can be exported

Names are checked byte by byte, and what is reserved is searched for.  Both tell of characters and
of membership: a name can be exported exactly if it is a word of the grammar
`[A-Za-z_$][A-Za-z0-9_$]*` and not one of the reserved words, `isExportable_iff`.
-/

namespace NamedExports.Name

open Text.Utf8

/-- A character of `[A-Za-z_$]`. -/
def IsLetter (c : Char) : Prop :=
  'A' ≤ c ∧ c ≤ 'Z' ∨ 'a' ≤ c ∧ c ≤ 'z' ∨ c = '_' ∨ c = '$'

/-- A text of the form `[A-Za-z_$][A-Za-z0-9_$]*`. -/
def IsWord (text : String) : Prop :=
  ∃ first rest, text.toList = first :: rest ∧ IsLetter first ∧
    ∀ c ∈ rest, IsLetter c ∨ '0' ≤ c ∧ c ≤ '9'

variable {byte : UInt8} {c : Char} {text : String}

/-! ## Codes -/

/-- A code of `[A-Za-z_$]`. -/
def IsLetterCode (code : Nat) : Prop :=
  0x41 ≤ code ∧ code ≤ 0x5A ∨ 0x61 ≤ code ∧ code ≤ 0x7A ∨ code = 0x5F ∨ code = 0x24

/-- A code of `[0-9]`. -/
def IsDigitCode (code : Nat) : Prop := 0x30 ≤ code ∧ code ≤ 0x39

/-- Letters by their codes. -/
theorem isLetter_iff : IsLetter c ↔ IsLetterCode c.toNat := by
  simp only [IsLetter, Char.le_def, UInt32.le_iff_toNat_le, ← Char.toNat_inj]
  rfl

/-- Digits by their codes. -/
theorem isDigit_iff : '0' ≤ c ∧ c ≤ '9' ↔ IsDigitCode c.toNat := by
  simp only [Char.le_def, UInt32.le_iff_toNat_le]
  rfl

/-- The bytes that may start a name. -/
theorem isStart_iff : isStart byte = true ↔ IsLetterCode byte.toNat := by
  simp only [isStart, Bool.or_eq_true, Bool.and_eq_true, decide_eq_true_eq, beq_iff_eq,
    UInt8.le_iff_toNat_le, ← UInt8.toNat_inj, or_assoc]
  rfl

/-- The bytes that may stand behind the first one. -/
theorem isPart_iff : isPart byte = true ↔ IsLetterCode byte.toNat ∨ IsDigitCode byte.toNat := by
  simp only [isPart, Bool.or_eq_true, isStart_iff, Bool.and_eq_true, decide_eq_true_eq,
    UInt8.le_iff_toNat_le]
  rfl

/-- Bytes of identifiers are bytes of ASCII. -/
theorem toNat_lt_of_isPart (h : isPart byte = true) : byte.toNat < 0x80 := by
  rw [isPart_iff, IsLetterCode, IsDigitCode] at h
  omega

/-! ## Characters -/

/-- Letters and digits are characters of ASCII. -/
theorem toNat_lt_of_isLetter (h : IsLetter c ∨ '0' ≤ c ∧ c ≤ '9') : c.toNat < 0x80 := by
  rw [isLetter_iff, isDigit_iff, IsLetterCode, IsDigitCode] at h
  omega

/-- The byte of an ASCII character has the code of the character. -/
theorem toNat_byte (h : c.toNat < 0x80) : (UInt8.ofNat c.toNat).toNat = c.toNat := by
  rw [UInt8.toNat_ofNat']
  exact Nat.mod_eq_of_lt (Nat.lt_trans h (by decide))

/-- For characters of ASCII, bytes and characters start names alike. -/
theorem isStart_byte_iff (h : c.toNat < 0x80) :
    isStart (UInt8.ofNat c.toNat) = true ↔ IsLetter c := by
  rw [isStart_iff, toNat_byte h, isLetter_iff]

/-- The letters and digits are the characters of ASCII whose bytes may stand there. -/
theorem isPart_byte_iff : c.toNat < 0x80 ∧ isPart (UInt8.ofNat c.toNat) = true ↔
    IsLetter c ∨ '0' ≤ c ∧ c ≤ '9' := by
  constructor
  · rintro ⟨hc, hpart⟩
    rwa [isPart_iff, toNat_byte hc, ← isLetter_iff, ← isDigit_iff] at hpart
  · intro h
    have hc := toNat_lt_of_isLetter h
    exact ⟨hc, by rwa [isPart_iff, toNat_byte hc, ← isLetter_iff, ← isDigit_iff]⟩

/-- What follows the first character is checked byte by byte. -/
theorem all_isPart_encode_iff {rest : List Char} : (encode rest).all isPart = true ↔
    ∀ c ∈ rest, IsLetter c ∨ '0' ≤ c ∧ c ≤ '9' := by
  rw [all_encode_iff fun _ => toNat_lt_of_isPart]
  simp only [isPart_byte_iff]

/-- Identifiers are told by their bytes. -/
theorem isIdentifier_iff : isIdentifier text = true ↔ IsWord text := by
  rw [isIdentifier, IsWord]
  cases text.toList with
  | nil => simp [encode]
  | cons first rest =>
    have hcons : (∃ c others, first :: rest = c :: others ∧ IsLetter c ∧
        ∀ d ∈ others, IsLetter d ∨ '0' ≤ d ∧ d ≤ '9') ↔
        IsLetter first ∧ ∀ d ∈ rest, IsLetter d ∨ '0' ≤ d ∧ d ≤ '9' := by
      constructor
      · rintro ⟨_, _, ⟨rfl, rfl⟩, h⟩
        exact h
      · exact fun h => ⟨first, rest, rfl, h⟩
    rw [hcons, encode_cons]
    by_cases hfirst : first.toNat < 0x80
    · rw [encodeChar_ascii hfirst, List.singleton_append, Bool.and_eq_true,
        isStart_byte_iff hfirst, all_isPart_encode_iff]
    · -- beyond ASCII there is no letter, and no byte that could start an identifier
      obtain ⟨byte, more, hbytes, hbeyond⟩ := exists_encodeChar_eq_cons (Nat.le_of_not_lt hfirst)
      rw [hbytes, List.cons_append, Bool.and_eq_true, isStart_iff, IsLetterCode]
      refine iff_of_false (fun h => ?_) (fun h => ?_)
      · omega
      · exact hfirst (toNat_lt_of_isLetter (Or.inl h.1))

/-! ## Names -/

/-- What is reserved is found by the search. -/
theorem isReserved_iff : isReserved text = true ↔ text ∈ reservedWords := by
  rw [isReserved, Text.WordTable.isSome_place?_iff]
  exact List.mem_toArray

/-- Exportable are the words that are not reserved. -/
theorem isExportable_iff : isExportable text = true ↔ IsWord text ∧ text ∉ reservedWords := by
  rw [isExportable, Bool.and_eq_true, isIdentifier_iff, Bool.not_eq_true', ← Bool.not_eq_true,
    isReserved_iff]

example : isExportable "$el_2" = true ∧ isExportable "π" = false ∧ isExportable "enum" = false := by
  decide

end NamedExports.Name
