import Mathlib.Data.List.DropRight
import NamedExports.Json.Reader
import NamedExports.Proofs.Json.Grammar

/-!
# Reading what the grammar allows

A text that spells a value is read as that value, whatever the spelling: if the value is not nested
too deep and its numbers are in range, nothing else can make the reader refuse it.  Each reader is
given text that goes on behind what it reads, so the lemmas about parts make those about the whole.
-/

namespace NamedExports.Json

/-! ## White space -/

/-- Blanks are the four characters of the grammar. -/
theorem isSpace_iff {c : Char} :
    isSpace c = true ↔ c = ' ' ∨ c = '\t' ∨ c = '\n' ∨ c = '\r' := by
  simp [isSpace, or_assoc]

/-- White space in front of a text is skipped. -/
theorem skipSpace_append {blank : List Char} (h : IsBlank blank) (text : List Char) :
    skipSpace (blank ++ text) = skipSpace text := by
  rw [skipSpace, List.dropWhile_append_of_pos]
  · rfl
  · intro c hc
    exact isSpace_iff.mpr (h c hc)

/-- Nothing is skipped in front of another character. -/
theorem skipSpace_cons {c : Char} (h : isSpace c = false) (text : List Char) :
    skipSpace (c :: text) = c :: text :=
  List.dropWhile_cons_of_neg (by simp [h])

/-! ## Strings -/

/-- A digit of the table is read as its value. -/
theorem hexDigit?_of_mem {digit : Char × Nat} (h : digit ∈ hexDigits) :
    hexDigit? digit.1 = some digit.2 := by
  have hall : ∀ digit ∈ hexDigits, hexDigit? digit.1 = some digit.2 := by decide
  exact hall digit h

/-- Four hexadecimal digits are read as the code unit that they spell. -/
theorem UnitSpelling.hex4? {n : Nat} {text : List Char} (h : UnitSpelling n text) :
    ∃ a b c d, text = [a, b, c, d] ∧ hex4? a b c d = some n := by
  cases h with
  | @intro a b c d i j k l first second third fourth =>
    refine ⟨a, b, c, d, rfl, ?_⟩
    simp [Json.hex4?, hexDigit?_of_mem first, hexDigit?_of_mem second, hexDigit?_of_mem third,
      hexDigit?_of_mem fourth]

/-- A short escape of the table is read as its character, and none of them is a `\u`. -/
theorem shortEscape?_of_mem {escape : Char × Char} (h : escape ∈ shortEscapes) :
    shortEscape? escape.1 = some escape.2 ∧ escape.1 ≠ 'u' := by
  have hall : ∀ escape ∈ shortEscapes,
      shortEscape? escape.1 = some escape.2 ∧ escape.1 ≠ 'u' := by
    decide
  exact hall escape h

/-- A short escape is read as one character. -/
theorem readChars_of_short {purpose : Purpose} {letter c : Char} (h : shortEscape? letter = some c)
    (hu : letter ≠ 'u') (rest : List Char) :
    readChars purpose ('\\' :: letter :: rest) = (readChars purpose rest).cons c := by
  rw [readChars]
  · simp [h]
  · simp [hu]

/-- A character that needs no escape is read as itself. -/
theorem readChars_plain {purpose : Purpose} {c : Char} (hc : ' ' ≤ c) (hq : c ≠ '"')
    (hb : c ≠ '\\') (rest : List Char) :
    readChars purpose (c :: rest) = (readChars purpose rest).cons c := by
  have : ¬ c < ' ' := Char.not_lt.mpr hc
  rw [readChars]
  · rw [if_neg this]
  · simp [hq]
  · simp [hb]
  · simp [hb]

/-- No character is a surrogate. -/
theorem not_surrogate (c : Char) :
    isHighSurrogate c.toNat = false ∧ isLowSurrogate c.toNat = false := by
  have hv : c.toNat < 0xD800 ∨ 0xDFFF < c.toNat ∧ c.toNat < 0x110000 := c.valid
  simp [isHighSurrogate, isLowSurrogate]
  omega

/-- The first half of a pair is a high surrogate. -/
theorem isHighSurrogate_high {n : Nat} (h : n < 0x100000) :
    isHighSurrogate (0xD800 + n / 0x400) = true := by
  simp [isHighSurrogate]
  omega

/-- The second half of a pair is a low surrogate. -/
theorem isLowSurrogate_low (n : Nat) : isLowSurrogate (0xDC00 + n % 0x400) = true := by
  simp [isLowSurrogate]
  omega

/-- The two halves of a character beyond the first plane make that character. -/
theorem ofPair_halves {c : Char} (h : 0x10000 ≤ c.toNat) :
    ofPair (0xD800 + (c.toNat - 0x10000) / 0x400) (0xDC00 + (c.toNat - 0x10000) % 0x400) = c := by
  have hsum : 0x10000 + (0xD800 + (c.toNat - 0x10000) / 0x400 - 0xD800) * 0x400 +
      (0xDC00 + (c.toNat - 0x10000) % 0x400 - 0xDC00) = c.toNat := by
    omega
  rw [ofPair, hsum, Char.ofNat_toNat]

/-- Each spelling of a character is read as that character. -/
theorem readChars_char {c : Char} {text : List Char} (h : CharSpelling c text)
    (rest : List Char) : readChars .keep (text ++ rest) = (readChars .keep rest).cons c := by
  cases h with
  | plain noControl noQuote noBackslash => exact readChars_plain noControl noQuote noBackslash rest
  | short listed =>
    exact readChars_of_short (shortEscape?_of_mem listed).1 (shortEscape?_of_mem listed).2 rest
  | unit spelled =>
    obtain ⟨a, b, c', d, rfl, hex⟩ := spelled.hex4?
    simp only [List.cons_append, List.nil_append]
    rw [readChars]
    simp [hex, not_surrogate c]
  | pair beyond first second =>
    obtain ⟨a, b, c', d, rfl, hhigh⟩ := first.hex4?
    obtain ⟨e, f, g, h, rfl, hlow⟩ := second.hex4?
    have hv : c.toNat < 0xD800 ∨ 0xDFFF < c.toNat ∧ c.toNat < 0x110000 := c.valid
    simp only [List.cons_append, List.nil_append]
    rw [readChars]
    simp only [hhigh, hlow, isHighSurrogate_high (n := c.toNat - 0x10000) (by omega),
      isLowSurrogate_low, ofPair_halves beyond, Bool.true_or, Bool.and_self, if_true]

/-- The characters of a string are read up to its closing quotation mark. -/
theorem readChars_append {chars body : List Char} (h : CharsSpelling chars body)
    (rest : List Char) : readChars .keep (body ++ '"' :: rest) = .ok (chars, rest) := by
  induction h with
  | nil => rfl
  | cons first _ ih =>
    rw [List.append_assoc, readChars_char first, ih]
    rfl

/-- A string is read as the value that it spells, and reading stops behind it. -/
theorem readString_append {value : String} {text : List Char} (h : StringSpelling value text)
    (rest : List Char) : readString .keep (text ++ rest) = .ok (value, rest) := by
  cases h with
  | intro spelled =>
    rw [List.cons_append, List.cons_append, List.append_assoc, List.singleton_append, readString,
      readChars_append spelled]
    simp [Except.map]

/-! ## Numbers -/

/-- Digits are the ten characters of the grammar. -/
theorem isDigit_iff {c : Char} : isDigit c = true ↔ '0' ≤ c ∧ c ≤ '9' := by
  simp [isDigit]

/-- A text that does not go on with a number that stands before it. -/
def EndsNumber (rest : List Char) : Prop :=
  ∀ c ∈ rest.head?, isDigit c = false ∧ c ≠ '.' ∧ c ≠ 'e' ∧ c ≠ 'E'

/-- A text that does not go on with digits. -/
def EndsDigits (rest : List Char) : Prop := ∀ c ∈ rest.head?, isDigit c = false

/-- What ends a number ends a run of digits. -/
theorem EndsNumber.endsDigits {rest : List Char} (h : EndsNumber rest) : EndsDigits rest :=
  fun c hc => (h c hc).1

theorem endsDigits_cons {c : Char} {rest : List Char} (h : isDigit c = false) :
    EndsDigits (c :: rest) := by
  intro d hd
  obtain rfl : c = d := by simpa using hd
  exact h

/-- Digits are read up to what ends them. -/
theorem readDigits_append {digits rest : List Char} (h : IsDigits digits)
    (hrest : EndsDigits rest) : readDigits (digits ++ rest) = .ok (digits, rest) := by
  have hall : ∀ c ∈ digits, isDigit c = true := fun c hc => isDigit_iff.mpr (h.2 c hc)
  have htake : (digits ++ rest).takeWhile isDigit = digits := by
    rw [List.takeWhile_append_of_pos hall]
    cases rest with
    | nil => simp
    | cons c others =>
      rw [List.takeWhile_cons_of_neg (by simp [hrest c rfl]), List.append_nil]
  have hdrop : (digits ++ rest).dropWhile isDigit = rest := by
    rw [List.dropWhile_append_of_pos hall]
    cases rest with
    | nil => rfl
    | cons c others => exact List.dropWhile_cons_of_neg (by simp [hrest c rfl])
  rw [readDigits, htake, hdrop]
  obtain ⟨c, others, rfl⟩ := List.exists_cons_of_ne_nil h.1
  rfl

/-- The whole part of a number is read up to what ends its digits. -/
theorem readWhole_append {whole rest : List Char} (h : IsWhole whole) (hrest : EndsDigits rest) :
    readWhole (whole ++ rest) = .ok (whole, rest) := by
  obtain ⟨hdigits, hzero⟩ := h
  have hread := readDigits_append hdigits hrest
  obtain ⟨c, others, rfl⟩ := List.exists_cons_of_ne_nil hdigits.1
  by_cases hc : c = '0'
  · subst hc
    obtain rfl : others = [] := by simpa using hzero rfl
    cases rest with
    | nil => exact hread
    | cons d more =>
      rw [List.singleton_append, readWhole, if_neg (by simp [hrest d rfl])]
  · rw [readWhole]
    · exact hread
    · intro d more heq
      exact absurd (List.cons.inj heq).1 hc

/-- The fraction of a number is read, or found to be missing. -/
theorem readFraction_append {fraction : Option (List Char)} {text rest : List Char}
    (h : FractionSpelling fraction text) (hrest : EndsDigits rest)
    (hpoint : ∀ c ∈ rest.head?, c ≠ '.') : readFraction (text ++ rest) = .ok (fraction, rest) := by
  cases h with
  | none =>
    rw [List.nil_append, readFraction]
    rintro more rfl
    exact hpoint '.' rfl rfl
  | some digital =>
    rw [List.cons_append, readFraction, readDigits_append digital hrest]
    rfl

/-- Digits do not start with a sign. -/
theorem IsDigits.ne_sign {digits : List Char} (h : IsDigits digits) (rest more : List Char)
    {sign : Char} (hsign : isDigit sign = false) : digits ++ rest ≠ sign :: more := by
  obtain ⟨c, others, rfl⟩ := List.exists_cons_of_ne_nil h.1
  intro heq
  obtain ⟨rfl, -⟩ := List.cons.inj heq
  rw [isDigit_iff.mpr (h.2 c List.mem_cons_self)] at hsign
  cases hsign

/-- The exponent of a number is read, or found to be missing. -/
theorem readExponent_append {exponent : Option Int} {text rest : List Char}
    (h : ExponentSpelling exponent text) (hrest : EndsNumber rest) :
    readExponent (text ++ rest) = .ok (exponent, rest) := by
  cases h with
  | none =>
    cases rest with
    | nil => rfl
    | cons c others =>
      obtain ⟨-, -, he, hE⟩ := hrest c rfl
      unfold readExponent
      exact if_neg (by simp [he, hE])
  | @some letter sign digits factor lettered signed digital =>
    have hletter : (letter == 'e' || letter == 'E') = true := by simpa using lettered
    have hpower (factor : Int) : readPower factor (digits ++ rest) =
        .ok (some (factor * Number.accumulate 0 digits), rest) := by
      rw [readPower, readDigits_append digital hrest.endsDigits]
      rfl
    simp only [exponentSigns, List.mem_cons, Prod.mk.injEq, List.not_mem_nil, or_false] at signed
    unfold readExponent
    rcases signed with ⟨rfl, rfl⟩ | ⟨rfl, rfl⟩ | ⟨rfl, rfl⟩
    · refine (if_pos hletter).trans ?_
      split
      · rename_i heq
        exact absurd heq (digital.ne_sign rest _ (by decide))
      · rename_i heq
        exact absurd heq (digital.ne_sign rest _ (by decide))
      · exact hpower 1
    · exact (if_pos hletter).trans (hpower 1)
    · exact (if_pos hletter).trans (hpower (-1))

/-- The parts of a number behind its sign are read one after the other. -/
theorem readUnsigned_append {negative : Bool} {whole f e rest : List Char}
    {fraction : Option (List Char)} {exponent : Option Int} (isWhole : IsWhole whole)
    (fractional : FractionSpelling fraction f) (exponential : ExponentSpelling exponent e)
    (hfinite : (⟨negative, whole, fraction, exponent⟩ : Number).isFinite = true)
    (hrest : EndsNumber rest) :
    readUnsigned .keep negative (whole ++ f ++ e ++ rest) =
      .ok (⟨negative, whole, fraction, exponent⟩, rest) := by
  have he : EndsDigits (e ++ rest) ∧ ∀ c ∈ (e ++ rest).head?, c ≠ '.' := by
    cases exponential with
    | none => exact ⟨hrest.endsDigits, fun c hc => (hrest c hc).2.1⟩
    | some lettered signed digital =>
      rcases lettered with rfl | rfl
      · exact ⟨endsDigits_cons (by decide), by simp⟩
      · exact ⟨endsDigits_cons (by decide), by simp⟩
  have hf : EndsDigits (f ++ (e ++ rest)) := by
    cases fractional with
    | none => exact he.1
    | some digital => exact endsDigits_cons (by decide)
  rw [List.append_assoc, List.append_assoc, readUnsigned, readWhole_append isWhole hf]
  dsimp only [bind, Except.bind]
  rw [readFraction_append fractional he.1 he.2]
  dsimp only
  rw [readExponent_append exponential hrest]
  dsimp only
  rw [hfinite]
  rfl

/-- A number is read as the number that it spells, unless it is infinite. -/
theorem readNumber_append {number : Number} {text rest : List Char}
    (h : NumberSpelling number text) (hfinite : number.isFinite = true)
    (hrest : EndsNumber rest) : readNumber .keep (text ++ rest) = .ok (number, rest) := by
  cases h with
  | @intro negative whole f e fraction exponent isWhole fractional exponential =>
    cases negative with
    | true => exact readUnsigned_append isWhole fractional exponential hfinite hrest
    | false =>
      rw [if_neg Bool.false_ne_true, List.nil_append]
      rw [readNumber]
      · exact readUnsigned_append isWhole fractional exponential hfinite hrest
      · intro more heq
        rw [List.append_assoc, List.append_assoc] at heq
        exact isWhole.1.ne_sign _ _ (by decide) heq

/-! ## Lists -/

/-- A text that starts with a token, and not with one that ends a list. -/
def StartsItem (text : List Char) : Prop :=
  ∃ c rest, text = c :: rest ∧ isSpace c = false ∧ c ≠ ']' ∧ c ≠ '\x7d'

/-- No blanks stand in front of an item. -/
theorem StartsItem.skipSpace {text : List Char} (h : StartsItem text) (rest : List Char) :
    skipSpace (text ++ rest) = text ++ rest := by
  obtain ⟨c, others, rfl, hc, -⟩ := h
  exact skipSpace_cons hc (others ++ rest)

/-- An item is not empty. -/
theorem StartsItem.one_le_length {text : List Char} (h : StartsItem text) : 1 ≤ text.length := by
  obtain ⟨c, others, rfl, -⟩ := h
  simp

/-- A character that neither is white space nor goes on with a number. -/
def Stops (c : Char) : Prop :=
  isSpace c = false ∧ isDigit c = false ∧ c ≠ '.' ∧ c ≠ 'e' ∧ c ≠ 'E'

instance (c : Char) : Decidable (Stops c) := inferInstanceAs (Decidable (_ ∧ _))

/-- A number ends where blanks stand in front of what ends it. -/
theorem EndsNumber.of_isBlank {blank rest : List Char} (h : IsBlank blank)
    (hrest : EndsNumber rest) : EndsNumber (blank ++ rest) := by
  cases blank with
  | nil => exact hrest
  | cons c others =>
    intro d hd
    obtain rfl : c = d := by simpa using hd
    obtain rfl | rfl | rfl | rfl := h c List.mem_cons_self
    all_goals decide

/-- A character that stops a list ends a number. -/
theorem Stops.endsNumber {c : Char} (h : Stops c) (rest : List Char) : EndsNumber (c :: rest) := by
  intro d hd
  obtain rfl : c = d := by simpa using hd
  exact h.2

section

variable {α β : Type} {Item : α → List Char → Prop} {item : List Char → Reading β} {f : α → β}
  {close : Char}

/-- The white space in front of the first item makes no difference. -/
theorem readItems_skipSpace (fuel : Nat) (text : List Char) :
    readItems close item fuel (skipSpace text) = readItems close item fuel text := by
  have hskip : skipSpace (skipSpace text) = skipSpace text := List.dropWhile_idempotent _ _
  cases fuel with
  | zero => rfl
  | succ fuel => rw [readItems, readItems, hskip]

/-- Items that start as items do are no more than the characters of their text. -/
theorem Separated.length_le (hstart : ∀ a text, Item a text → StartsItem text) {items : List α}
    {body : List Char} (h : Separated Item items body) : items.length ≤ body.length := by
  induction h with
  | last _ spelled =>
    have := (hstart _ _ spelled).one_le_length
    simp only [List.length_append, List.length_singleton]
    omega
  | more _ spelled _ _ ih =>
    have := (hstart _ _ spelled).one_le_length
    simp only [List.length_append, List.length_cons]
    omega

variable (hstart : ∀ a text, Item a text → StartsItem text)

include hstart

/-- A list of items starts with blanks and an item. -/
theorem Separated.startsItem {items : List α} {body : List Char} (h : Separated Item items body) :
    ∃ blank text, IsBlank blank ∧ StartsItem text ∧ body = blank ++ text := by
  cases h with
  | @last _ before text after blank spelled =>
    obtain ⟨c, others, rfl, hc⟩ := hstart _ _ spelled
    exact ⟨before, c :: others ++ after, blank, ⟨c, others ++ after, rfl, hc⟩, by simp⟩
  | @more _ _ before text after rest blank spelled =>
    obtain ⟨c, others, rfl, hc⟩ := hstart _ _ spelled
    exact ⟨before, c :: others ++ (after ++ ',' :: rest), blank, ⟨c, _, rfl, hc⟩, by simp⟩

/-- One item is read with what stands around it. -/
theorem readItems_succ {a : α} {before text after rest : List Char} {c : Char} {fuel : Nat}
    (hread : ∀ rest, EndsNumber rest → item (text ++ rest) = .ok (f a, rest))
    (blank : IsBlank before) (spelled : Item a text) (blank' : IsBlank after) (hc : Stops c) :
    readItems close item (fuel + 1) (before ++ text ++ after ++ c :: rest) =
      if c == close then .ok ([f a], rest)
      else if c == ',' then do
        let (others, text) ← readItems close item fuel rest
        .ok (f a :: others, text)
      else .error (.unexpectedCharacter c) := by
  have hitem : item (skipSpace (before ++ text ++ after ++ c :: rest)) =
      .ok (f a, after ++ c :: rest) := by
    rw [List.append_assoc, List.append_assoc, skipSpace_append blank,
      (hstart _ _ spelled).skipSpace, hread _ (.of_isBlank blank' (hc.endsNumber rest))]
  have hskip : skipSpace (after ++ c :: rest) = c :: rest := by
    rw [skipSpace_append blank', skipSpace_cons hc.1]
  rw [readItems, hitem]
  dsimp only [bind, Except.bind]
  rw [hskip]

variable (hclose : close = ']' ∨ close = '\x7d')

include hclose

/-- Items are read up to the bracket that closes them, if each item can be read. -/
theorem readItems_append {items : List α} {body : List Char} (h : Separated Item items body)
    (hread : ∀ a ∈ items, ∀ text rest, Item a text → EndsNumber rest →
      item (text ++ rest) = .ok (f a, rest)) {fuel : Nat} (hfuel : items.length ≤ fuel)
    (rest : List Char) :
    readItems close item fuel (body ++ close :: rest) = .ok (items.map f, rest) := by
  have hstops : Stops close := by obtain rfl | rfl := hclose <;> decide
  have hcomma : close ≠ ',' := by obtain rfl | rfl := hclose <;> decide
  induction h generalizing fuel with
  | last blank spelled blank' =>
    obtain ⟨fuel, rfl⟩ := Nat.exists_eq_add_of_le' hfuel
    rw [List.length_singleton, readItems_succ hstart
      (hread _ List.mem_cons_self _ · spelled) blank spelled blank' hstops,
      if_pos (beq_self_eq_true _)]
    rfl
  | more blank spelled blank' _ ih =>
    obtain ⟨fuel, rfl⟩ := Nat.exists_eq_add_of_le' (Nat.le_trans (Nat.le_add_left 1 _) hfuel)
    rw [List.append_assoc, List.cons_append, readItems_succ hstart
      (hread _ List.mem_cons_self _ · spelled) blank spelled blank' (by decide),
      if_neg (by simpa using hcomma.symm), if_pos (by rfl),
      ih (fun a ha => hread a (List.mem_cons_of_mem _ ha)) (by simpa using hfuel)]
    rfl

/-- A list is read behind its opening character. -/
theorem readList_append {items : List α} {body : List Char} (h : Listed Item items body)
    (hread : ∀ a ∈ items, ∀ text rest, Item a text → EndsNumber rest →
      item (text ++ rest) = .ok (f a, rest)) (rest : List Char) :
    readList close item (body ++ close :: rest) = .ok (items.map f, rest) := by
  cases h with
  | none blank =>
    have hspace : isSpace close = false := by obtain rfl | rfl := hclose <;> decide
    rw [readList, skipSpace_append blank, skipSpace_cons hspace]
    exact if_pos (beq_self_eq_true close)
  | some separated =>
    obtain ⟨blank, text, hblank, ⟨c, others, rfl, hc, hbracket, hbrace⟩, hbody⟩ :=
      separated.startsItem hstart
    have hskip : skipSpace (body ++ close :: rest) = c :: (others ++ close :: rest) := by
      rw [hbody, List.append_assoc, skipSpace_append hblank]
      exact skipSpace_cons hc _
    have hne : ¬ (c == close) = true := by obtain rfl | rfl := hclose <;> simpa
    rw [readList, hskip]
    dsimp only
    rw [if_neg hne, ← hskip, readItems_skipSpace]
    refine readItems_append hstart hclose separated hread ?_ rest
    have := separated.length_le hstart
    rw [List.length_append]
    omega

end

/-! ## Values -/

/-- A value that is nested at most `depth` levels deep, of numbers in the range of doubles. -/
def Value.FitsIn (depth : Nat) (value : Value) : Prop :=
  match value with
  | null | bool _ | string _ => True
  | number value => value.isFinite = true
  | array items =>
    match depth with
    | 0 => False
    | depth + 1 => ∀ item ∈ items, FitsIn depth item
  | object members =>
    match depth with
    | 0 => False
    | depth + 1 => ∀ member ∈ members, FitsIn depth member.2

/-- A string starts an item. -/
theorem StringSpelling.startsItem {value : String} {text : List Char}
    (h : StringSpelling value text) : StartsItem text := by
  cases h with
  | intro spelled => exact ⟨'"', _, rfl, by decide⟩

/-- What a number starts with. -/
def StartsNumber (c : Char) : Prop := c = '-' ∨ isDigit c = true

instance (c : Char) : Decidable (StartsNumber c) := inferInstanceAs (Decidable (_ ∨ _))

/-- A number starts with a sign or a digit. -/
theorem NumberSpelling.starts {number : Number} {text : List Char}
    (h : NumberSpelling number text) : ∃ c rest, text = c :: rest ∧ StartsNumber c := by
  cases h with
  | @intro negative whole f e fraction exponent isWhole fractional exponential =>
    cases negative with
    | true => exact ⟨'-', _, rfl, .inl rfl⟩
    | false =>
      obtain ⟨c, others, rfl⟩ := List.exists_cons_of_ne_nil isWhole.1.1
      exact ⟨c, _, rfl, .inr (isDigit_iff.mpr (isWhole.1.2 c List.mem_cons_self))⟩

/-- A sign or a digit starts an item. -/
theorem StartsNumber.startsItem {c : Char} (h : StartsNumber c) (rest : List Char) :
    StartsItem (c :: rest) := by
  refine ⟨c, rest, rfl, Bool.eq_false_iff.mpr fun hspace => ?_, ?_, ?_⟩
  · obtain rfl | rfl | rfl | rfl := isSpace_iff.mp hspace
    all_goals exact absurd h (by decide)
  · rintro rfl
    exact absurd h (by decide)
  · rintro rfl
    exact absurd h (by decide)

/-- What starts like a number is read as one. -/
theorem readValue_number {purpose : Purpose} {depth : Nat} {c : Char} {rest : List Char}
    (hc : StartsNumber c) : readValue purpose depth (c :: rest) =
      (readNumber purpose (c :: rest)).map fun (value, rest) => (.number value, rest) := by
  rw [readValue.eq_def]
  split
  -- each other form of value has a first character of its own
  case h_7 => rfl
  all_goals
    rename_i heq
    obtain ⟨rfl, -⟩ := List.cons.inj heq
    exact absurd hc (by decide)

/-- A value starts an item. -/
theorem Spelling.startsItem {value : Value} {text : List Char} (h : Spelling value text) :
    StartsItem text := by
  cases h with
  | number spelled =>
    obtain ⟨c, rest, rfl, hc⟩ := spelled.starts
    exact hc.startsItem rest
  | string spelled => exact spelled.startsItem
  | _ => exact ⟨_, _, rfl, by decide⟩

/-- A member starts an item. -/
theorem MemberSpelling.startsItem {member : String × Value} {text : List Char}
    (h : MemberSpelling member text) : StartsItem text := by
  cases h with
  | intro named =>
    cases named with
    | intro => exact ⟨'"', _, rfl, by decide⟩

/-- The colon of a member is read, with blanks in front of it. -/
theorem readColon_append {blank : List Char} (h : IsBlank blank) (rest : List Char) :
    readColon (blank ++ ':' :: rest) = .ok ((), rest) := by
  rw [readColon, skipSpace_append h, skipSpace_cons (by decide)]
  rfl

/-- A member is read as its key and its value, if the value can be read. -/
theorem readMember_append {depth : Nat} {member : String × Value} {text rest : List Char}
    (h : MemberSpelling member text)
    (hread : ∀ text rest, Spelling member.2 text → EndsNumber rest →
      readValue .keep depth (text ++ rest) = .ok (member.2, rest))
    (hrest : EndsNumber rest) :
    readMember .keep (readValue .keep depth) (text ++ rest) = .ok (member, rest) := by
  cases h with
  | intro named blank blank' spelled =>
    simp only [readMember, List.append_assoc, List.cons_append, readString_append named, bind,
      Except.bind, readColon_append blank, skipSpace_append blank', spelled.startsItem.skipSpace,
      hread _ _ spelled hrest]

/-- A text that spells a value is read as that value. -/
theorem readValue_append {depth : Nat} {value : Value} {text rest : List Char}
    (hfits : value.FitsIn depth) (h : Spelling value text) (hrest : EndsNumber rest) :
    readValue .keep depth (text ++ rest) = .ok (value, rest) := by
  induction depth using Nat.strong_induction_on generalizing value text rest with
  | _ depth ih =>
    cases h with
    | null => rw [readValue.eq_def]; rfl
    | true => rw [readValue.eq_def]; rfl
    | false => rw [readValue.eq_def]; rfl
    | number spelled =>
      rw [Value.FitsIn.eq_def] at hfits
      have hnumber := readNumber_append spelled hfits hrest
      obtain ⟨c, others, rfl, hc⟩ := spelled.starts
      rw [List.cons_append, readValue_number hc, ← List.cons_append, hnumber]
      rfl
    | string spelled =>
      have hstring := readString_append spelled rest
      cases spelled with
      | intro =>
        rw [readValue.eq_def]
        exact congrArg (Except.map _) hstring
    | array listed =>
      cases depth with
      | zero => exact hfits.elim
      | succ depth =>
        have hlist := readList_append (f := id) (fun _ _ => Spelling.startsItem) (.inl rfl) listed
          (fun item hitem text rest spelled hrest => ih depth (Nat.lt_succ_self _)
            (hfits item hitem) spelled hrest) rest
        rw [List.map_id] at hlist
        rw [List.append_assoc, List.cons_append]
        exact congrArg (Except.map _) hlist
    | object listed =>
      cases depth with
      | zero => exact hfits.elim
      | succ depth =>
        have hlist := readList_append (f := id) (fun _ _ => MemberSpelling.startsItem) (.inr rfl)
          listed (fun member hmember text rest spelled => readMember_append spelled
            fun _ _ spelled hrest => ih depth (Nat.lt_succ_self _) (hfits member hmember) spelled
              hrest) rest
        rw [List.map_id] at hlist
        rw [List.append_assoc, List.cons_append]
        exact congrArg (Except.map _) hlist

/-- Blanks end a number. -/
theorem endsNumber_of_isBlank {blank : List Char} (h : IsBlank blank) : EndsNumber blank := by
  have hnone : EndsNumber [] := nofun
  simpa using EndsNumber.of_isBlank h hnone

/-- A whole text is read if a reader for what it holds reads it. -/
theorem readAll_append {α : Type} {reader : List Char → Reading α} {result : α}
    {before text after : List Char} (blank : IsBlank before) (hstart : StartsItem text)
    (blank' : IsBlank after) (hread : reader (text ++ after) = .ok (result, after)) :
    readAll reader (before ++ text ++ after) = .ok result := by
  have hskip : skipSpace after = [] := by
    simpa [skipSpace] using skipSpace_append blank' []
  rw [readAll, List.append_assoc, skipSpace_append blank, hstart.skipSpace, hread]
  dsimp only [bind, Except.bind]
  rw [hskip]
  rfl

/-- A text that spells a value, with white space around it, is read as that value. -/
theorem read_ofList {value : Value} {before text after : List Char} (blank : IsBlank before)
    (h : Spelling value text) (blank' : IsBlank after) (hfits : value.FitsIn maxDepth) :
    read (String.ofList (before ++ text ++ after)) = .ok value := by
  rw [read, String.toList_ofList]
  exact readAll_append blank h.startsItem blank'
    (readValue_append hfits h (endsNumber_of_isBlank blank'))

end NamedExports.Json
