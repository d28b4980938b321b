import NamedExports.Text.Utf8

/-!
# Laws of UTF-8

A text that has been encoded is read back whole, whatever bytes follow it.  Bytes that come before
it need not end with a whole character: what they leave pending waits for a byte beyond ASCII, so an
ASCII character is never taken for a part of it.  All bytes of other characters lie beyond ASCII, so
that a test for bytes of ASCII is one for characters: `all_encode_iff`.
-/

namespace NamedExports.Text.Utf8

/-! ## Encoded characters -/

/-- A byte below 0x80 is a character by itself. -/
theorem first_ascii : ∀ n < 0x80, first (UInt8.ofNat n) = ([some (Char.ofNat n)], none) := by
  decide

/-- Bytes of two are begun by 0xC2 to 0xDF. -/
theorem first_of_two : ∀ n < 0x20, 2 ≤ n →
    first (UInt8.ofNat (n + 0xC0)) = ([], some ⟨0, 0x80, 0xBF, n⟩) := by
  decide

/-- Bytes of three are begun by 0xE0 to 0xEF; the ranges of the second byte leave out overlong forms
and surrogates. -/
theorem first_of_three : ∀ n < 0x10, first (UInt8.ofNat (n + 0xE0)) =
    ([], some ⟨1, if n = 0 then 0xA0 else 0x80, if n = 0xD then 0x9F else 0xBF, n⟩) := by
  decide

/-- Bytes of four are begun by 0xF0 to 0xF4; the ranges of the second byte leave out overlong forms
and what is above the last character. -/
theorem first_of_four : ∀ n < 5, first (UInt8.ofNat (n + 0xF0)) =
    ([], some ⟨2, if n = 0 then 0x90 else 0x80, if n = 4 then 0x8F else 0xBF, n⟩) := by
  decide

/-- A byte behind the first one, which carries six bits. -/
def tail (bits : Nat) : UInt8 := UInt8.ofNat (bits + 0x80)

/-- A byte that continues others is at least 0x80, and larger in the part that a first byte may ask
for. -/
theorem le_tail : ∀ n < 0x40,
    0x80 ≤ tail n ∧ (0x10 ≤ n → 0x90 ≤ tail n) ∧ (0x20 ≤ n → 0xA0 ≤ tail n) := by
  decide

/-- It is at most 0xBF, and smaller in the part that a first byte may ask for. -/
theorem tail_le : ∀ n < 0x40,
    tail n ≤ 0xBF ∧ (n < 0x20 → tail n ≤ 0x9F) ∧ (n < 0x10 → tail n ≤ 0x8F) := by
  decide

/-- It carries six bits. -/
theorem toNat_tail : ∀ n < 0x40, (tail n - 0x80).toNat = n := by decide

/-- The first byte of a character leaves the others pending. -/
theorem piecesFrom_lead {byte : UInt8} {after : Pending} (h : first byte = ([], some after))
    (rest : List UInt8) : piecesFrom none (byte :: rest) = piecesFrom (some after) rest := by
  rw [piecesFrom, next, h]
  rfl

section

variable {more value n : Nat} {low high : UInt8} (hn : n < 0x40) (hlow : low ≤ tail n)
  (hhigh : tail n ≤ high) (rest : List UInt8)

include hn hlow hhigh

/-- The last byte of a character completes it. -/
theorem piecesFrom_last : piecesFrom (some ⟨0, low, high, value⟩) (tail n :: rest) =
    some (Char.ofNat (value * 64 + n)) :: piecesFrom none rest := by
  rw [piecesFrom, next]
  simp [hlow, hhigh, toNat_tail n hn]

/-- Each byte before that adds its bits. -/
theorem piecesFrom_more : piecesFrom (some ⟨more + 1, low, high, value⟩) (tail n :: rest) =
    piecesFrom (some ⟨more, 0x80, 0xBF, value * 64 + n⟩) rest := by
  rw [piecesFrom, next]
  simp [hlow, hhigh, toNat_tail n hn]

end

/-- The bytes of a character are read as that character. -/
theorem piecesFrom_encodeChar (c : Char) (rest : List UInt8) :
    piecesFrom none (String.utf8EncodeChar c ++ rest) = some c :: piecesFrom none rest := by
  have hc : Char.ofNat c.val.toNat = c := Char.ofNat_toNat c
  have hv : c.val.toNat < 0xD800 ∨ 0xDFFF < c.val.toNat ∧ c.val.toNat < 0x110000 := c.valid
  have hmod (m : Nat) : m % 64 < 0x40 := Nat.mod_lt _ (by decide)
  have hlow (m : Nat) : 0x80 ≤ tail (m % 64) := (le_tail _ (hmod m)).1
  have hhigh (m : Nat) : tail (m % 64) ≤ 0xBF := (tail_le _ (hmod m)).1
  unfold String.utf8EncodeChar
  generalize c.val.toNat = v at *
  dsimp only
  split
  · rw [List.singleton_append, piecesFrom, next, first_ascii v (by omega), hc]
    rfl
  split
  · have hvalue : v / 64 % 32 * 64 + v % 64 = v := by omega
    rw [List.cons_append, piecesFrom_lead (first_of_two _ (by omega) (by omega)),
      List.singleton_append, ← tail, piecesFrom_last (hmod _) (hlow _) (hhigh _), hvalue, hc]
  split
  · have hvalue : (v / 4096 % 16 * 64 + v / 64 % 64) * 64 + v % 64 = v := by omega
    rw [List.cons_append, piecesFrom_lead (first_of_three _ (by omega)), List.cons_append,
      List.singleton_append, ← tail, ← tail, piecesFrom_more (hmod _),
      piecesFrom_last (hmod _) (hlow _) (hhigh _), hvalue, hc]
    -- no character of fewer bytes is written with three, and none is a surrogate
    · split
      · exact (le_tail _ (hmod _)).2.2 (by omega)
      · exact hlow _
    · split
      · exact (tail_le _ (hmod _)).2.1 (by omega)
      · exact hhigh _
  · have hvalue :
        ((v / 262144 % 8 * 64 + v / 4096 % 64) * 64 + v / 64 % 64) * 64 + v % 64 = v := by
      omega
    rw [List.cons_append, piecesFrom_lead (first_of_four _ (by omega)), List.cons_append,
      List.cons_append, List.singleton_append, ← tail, ← tail, ← tail, piecesFrom_more (hmod _),
      piecesFrom_more (hmod _) (hlow _) (hhigh _), piecesFrom_last (hmod _) (hlow _) (hhigh _),
      hvalue, hc]
    -- the same for four bytes, and no character lies beyond U+10FFFF
    · split
      · exact (le_tail _ (hmod _)).2.1 (by omega)
      · exact hlow _
    · split
      · exact (tail_le _ (hmod _)).2.2 (by omega)
      · exact hhigh _

/-- What has been encoded is read back, whatever follows. -/
theorem pieces_encode_append (text : List Char) (rest : List UInt8) :
    pieces (encode text ++ rest) = text.map some ++ pieces rest := by
  induction text with
  | nil => rfl
  | cons c others ih =>
    rw [encode, List.flatMap_cons, List.append_assoc, pieces, piecesFrom_encodeChar, ← encode,
      ← pieces, ih]
    rfl

/-- Encoded characters are decoded to themselves, whatever bytes follow. -/
theorem decodeLossy_encode_append (text : List Char) (rest : List UInt8) :
    decodeLossy (encode text ++ rest) = text ++ decodeLossy rest := by
  rw [decodeLossy, pieces_encode_append, List.map_append, List.map_map, decodeLossy]
  congr 1
  exact List.map_id text

/-- A text is told by its bytes. -/
theorem encode_injective {a b : List Char} (h : encode a = encode b) : a = b := by
  have hread (text : List Char) : decodeLossy (encode text) = text := by
    have happend := decodeLossy_encode_append text []
    rw [List.append_nil] at happend
    exact happend.trans (List.append_nil text)
  rw [← hread a, h, hread b]

/-! ## Bytes of ASCII -/

/-- What holds of the codes of ASCII holds of its characters. -/
@[elab_as_elim]
theorem forall_ascii {P : Char → Prop} (h : ∀ n < 0x80, P (Char.ofNat n)) {c : Char}
    (hc : c.toNat < 0x80) : P c := by
  have hcode := h c.toNat hc
  rwa [Char.ofNat_toNat] at hcode

/-- An ASCII character is its own byte. -/
theorem encodeChar_ascii {c : Char} (h : c.toNat < 0x80) :
    String.utf8EncodeChar c = [UInt8.ofNat c.toNat] :=
  if_pos (Nat.le_of_lt_succ h)

/-- Every byte of another character lies beyond ASCII. -/
theorem le_of_mem_encodeChar {c : Char} {byte : UInt8} (h : 0x80 ≤ c.toNat)
    (hbyte : byte ∈ String.utf8EncodeChar c) : 0x80 ≤ byte.toNat := by
  -- some bits of the character, behind a mark that says where the byte stands
  have hmarked (bits mark : Nat) (hmark : 0x80 ≤ mark) (hfits : bits + mark < 0x100) :
      0x80 ≤ (UInt8.ofNat (bits + mark)).toNat := by
    rw [UInt8.toNat_ofNat', Nat.mod_eq_of_lt hfits]
    omega
  change 0x80 ≤ c.val.toNat at h
  unfold String.utf8EncodeChar at hbyte
  generalize c.val.toNat = v at *
  dsimp only at hbyte
  split at hbyte
  · omega
  split at hbyte
  · simp only [List.mem_cons, List.not_mem_nil, or_false] at hbyte
    rcases hbyte with rfl | rfl <;> exact hmarked _ _ (by decide) (by omega)
  split at hbyte
  · simp only [List.mem_cons, List.not_mem_nil, or_false] at hbyte
    rcases hbyte with rfl | rfl | rfl <;> exact hmarked _ _ (by decide) (by omega)
  · simp only [List.mem_cons, List.not_mem_nil, or_false] at hbyte
    rcases hbyte with rfl | rfl | rfl | rfl <;> exact hmarked _ _ (by decide) (by omega)

/-- Another character begins with a byte beyond ASCII. -/
theorem exists_encodeChar_eq_cons {c : Char} (h : 0x80 ≤ c.toNat) :
    ∃ byte more, String.utf8EncodeChar c = byte :: more ∧ 0x80 ≤ byte.toNat := by
  obtain ⟨byte, more, hbytes⟩ := List.exists_cons_of_ne_nil (String.utf8EncodeChar_ne_nil (c := c))
  exact ⟨byte, more, hbytes, le_of_mem_encodeChar h (hbytes ▸ List.mem_cons_self)⟩

/-- The bytes of the first character stand in front. -/
theorem encode_cons (c : Char) (others : List Char) :
    encode (c :: others) = String.utf8EncodeChar c ++ encode others :=
  List.flatMap_cons

section

variable {passes : UInt8 → Bool} (hascii : ∀ byte, passes byte = true → byte.toNat < 0x80)

include hascii

/-- A character passes by its bytes if it is in ASCII and passes there. -/
theorem all_encodeChar_iff {c : Char} : (String.utf8EncodeChar c).all passes = true ↔
    c.toNat < 0x80 ∧ passes (UInt8.ofNat c.toNat) = true := by
  by_cases hc : c.toNat < 0x80
  · rw [encodeChar_ascii hc, List.all_cons, List.all_nil, Bool.and_true]
    exact (and_iff_right hc).symm
  · obtain ⟨byte, more, hbytes, hbeyond⟩ := exists_encodeChar_eq_cons (Nat.le_of_not_lt hc)
    rw [hbytes, List.all_cons, Bool.and_eq_true]
    refine iff_of_false (fun h => ?_) (fun h => hc h.1)
    exact absurd (hascii byte h.1) (Nat.not_lt_of_le hbeyond)

/-- A text passes by its bytes if its characters do. -/
theorem all_encode_iff {text : List Char} : (encode text).all passes = true ↔
    ∀ c ∈ text, c.toNat < 0x80 ∧ passes (UInt8.ofNat c.toNat) = true := by
  rw [encode, List.all_flatMap, List.all_eq_true]
  simp only [all_encodeChar_iff hascii]

end

/-! ## Characters that stay apart -/

/-- What is pending waits for a byte beyond ASCII. -/
def Waits (pending : Option Pending) : Prop := ∀ p ∈ pending, 0x80 ≤ p.low

theorem waits_none : Waits none := nofun

/-- What a first byte leaves pending is not ended by ASCII. -/
theorem waits_first (byte : UInt8) : Waits (first byte).2 := by
  intro p hp
  unfold first at hp
  dsimp only at hp
  repeat' split at hp
  all_goals cases hp
  all_goals
    dsimp only
    decide

/-- Nor is what any byte leaves pending. -/
theorem waits_next (pending : Option Pending) (byte : UInt8) : Waits (next pending byte).2 := by
  cases pending with
  | none => exact waits_first byte
  | some p =>
    unfold next
    dsimp only
    split
    · split
      · exact waits_none
      · intro q hq
        obtain rfl := Option.some.inj hq
        dsimp only
        decide
    · exact waits_first byte

/-- An ASCII character ends what is pending, and is read for itself. -/
theorem next_ascii {pending : Option Pending} {n : Nat} (hwaits : Waits pending) (h : n < 0x80) :
    next pending (UInt8.ofNat n) =
      ((if pending.isSome then [none] else []) ++ [some (Char.ofNat n)], none) := by
  cases pending with
  | none => exact first_ascii n h
  | some p =>
    have hbyte : UInt8.ofNat n < 0x80 := by
      rw [UInt8.lt_iff_toNat_lt, UInt8.toNat_ofNat']
      exact Nat.lt_of_le_of_lt (Nat.mod_le _ _) h
    have hlow : ¬ p.low ≤ UInt8.ofNat n := by
      intro hle
      exact absurd (UInt8.le_trans (hwaits p rfl) hle) (UInt8.not_le.mpr hbyte)
    simp [next, first_ascii n h, hlow]

/-- A text is cut at each of its ASCII characters, even behind bytes that are no characters. -/
theorem piecesFrom_append_ascii {pending : Option Pending} {n : Nat} (hwaits : Waits pending)
    (h : n < 0x80) (front back : List UInt8) :
    piecesFrom pending (front ++ UInt8.ofNat n :: back) =
      piecesFrom pending front ++ some (Char.ofNat n) :: pieces back := by
  induction front generalizing pending with
  | nil =>
    simp only [List.nil_append, piecesFrom, next_ascii hwaits h, pieces, List.append_assoc]
    rfl
  | cons byte rest ih =>
    simp only [List.cons_append, piecesFrom]
    rw [ih (waits_next pending byte), List.append_assoc]

/-- A line feed stays one, whatever bytes come before it. -/
theorem decodeLossy_append_newline (front back : List UInt8) :
    decodeLossy (front ++ encode ['\n'] ++ back) =
      decodeLossy front ++ '\n' :: decodeLossy back := by
  have hcut := piecesFrom_append_ascii (n := 10) waits_none (by decide) front back
  rw [List.append_assoc]
  show (piecesFrom none (front ++ UInt8.ofNat 10 :: back)).map _ = _
  rw [hcut, List.map_append]
  rfl

end NamedExports.Text.Utf8
