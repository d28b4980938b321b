import NamedExports.Json.Value

/-!
# The grammar of JSON

Which texts stand for a value, by the rules of RFC 8259.  A value has many spellings: there may be
white space around each item, and a character of a string may be written plainly, as a short escape
or as one or two code units.  `Spelling` knows all of them, and nothing of how a text is read or
printed.
-/

namespace NamedExports.Json

/-- White space. -/
def IsBlank (text : List Char) : Prop := ∀ c ∈ text, c = ' ' ∨ c = '\t' ∨ c = '\n' ∨ c = '\r'

theorem IsBlank.nil : IsBlank [] := List.forall_mem_nil _

/-! ## Strings -/

/-- The letters of the short escapes, and what they stand for. -/
def shortEscapes : List (Char × Char) :=
  [('"', '"'), ('\\', '\\'), ('/', '/'), ('b', '\x08'), ('f', '\x0c'), ('n', '\n'), ('r', '\r'),
    ('t', '\t')]

/-- The hexadecimal digits, in letters of either case, and their values. -/
def hexDigits : List (Char × Nat) :=
  "0123456789abcdef".toList.zip (List.range 16) ++ "ABCDEF".toList.zip (List.range' 10 6)

/-- Four hexadecimal digits. -/
inductive UnitSpelling : Nat → List Char → Prop
  | intro {a b c d : Char} {i j k l : Nat} (first : (a, i) ∈ hexDigits)
      (second : (b, j) ∈ hexDigits) (third : (c, k) ∈ hexDigits) (fourth : (d, l) ∈ hexDigits) :
      UnitSpelling (((i * 16 + j) * 16 + k) * 16 + l) [a, b, c, d]

/-- A character as it may stand in a string. -/
inductive CharSpelling : Char → List Char → Prop
  | plain {c : Char} (noControl : ' ' ≤ c) (noQuote : c ≠ '"') (noBackslash : c ≠ '\\') :
      CharSpelling c [c]
  | short {letter c : Char} (listed : (letter, c) ∈ shortEscapes) : CharSpelling c ['\\', letter]
  | unit {c : Char} {digits : List Char} (spelled : UnitSpelling c.toNat digits) :
      CharSpelling c ('\\' :: 'u' :: digits)
  /-- A character beyond the first plane, as a surrogate pair. -/
  | pair {c : Char} {high low : List Char} (beyond : 0x10000 ≤ c.toNat)
      (first : UnitSpelling (0xD800 + (c.toNat - 0x10000) / 0x400) high)
      (second : UnitSpelling (0xDC00 + (c.toNat - 0x10000) % 0x400) low) :
      CharSpelling c ('\\' :: 'u' :: high ++ '\\' :: 'u' :: low)

/-- What stands between the quotes of a string. -/
inductive CharsSpelling : List Char → List Char → Prop
  | nil : CharsSpelling [] []
  | cons {c : Char} {chars text rest : List Char} (first : CharSpelling c text)
      (others : CharsSpelling chars rest) : CharsSpelling (c :: chars) (text ++ rest)

/-- A string in quotes. -/
inductive StringSpelling : String → List Char → Prop
  | intro {value : String} {body : List Char} (spelled : CharsSpelling value.toList body) :
      StringSpelling value ('"' :: body ++ ['"'])

/-! ## Numbers -/

/-- One digit or more. -/
def IsDigits (text : List Char) : Prop := text ≠ [] ∧ ∀ c ∈ text, '0' ≤ c ∧ c ≤ '9'

/-- The digits before the point, without a zero in front of others. -/
def IsWhole (text : List Char) : Prop := IsDigits text ∧ (text.head? = some '0' → text = ['0'])

/-- The part behind the point, with the point. -/
inductive FractionSpelling : Option (List Char) → List Char → Prop
  | none : FractionSpelling none []
  | some {digits : List Char} (digital : IsDigits digits) :
      FractionSpelling (some digits) ('.' :: digits)

/-- The signs of an exponent, of which there need not be one. -/
def exponentSigns : List (List Char × Int) := [([], 1), (['+'], 1), (['-'], -1)]

/-- The exponent, with its letter. -/
inductive ExponentSpelling : Option Int → List Char → Prop
  | none : ExponentSpelling none []
  | some {letter : Char} {sign digits : List Char} {factor : Int}
      (lettered : letter = 'e' ∨ letter = 'E') (signed : (sign, factor) ∈ exponentSigns)
      (digital : IsDigits digits) :
      ExponentSpelling (some (factor * Number.accumulate 0 digits)) (letter :: sign ++ digits)

/-- A number. -/
inductive NumberSpelling : Number → List Char → Prop
  | intro {negative : Bool} {whole f e : List Char} {fraction : Option (List Char)}
      {exponent : Option Int} (isWhole : IsWhole whole) (fractional : FractionSpelling fraction f)
      (exponential : ExponentSpelling exponent e) :
      NumberSpelling ⟨negative, whole, fraction, exponent⟩
        ((if negative then ['-'] else []) ++ whole ++ f ++ e)

/-! ## Lists and values -/

/-- Items, one or more, with white space around them and commas between them. -/
inductive Separated {α : Type} (Item : α → List Char → Prop) : List α → List Char → Prop
  | last {item : α} {before text after : List Char} (blank : IsBlank before)
      (spelled : Item item text) (blank' : IsBlank after) :
      Separated Item [item] (before ++ text ++ after)
  | more {item : α} {items : List α} {before text after rest : List Char} (blank : IsBlank before)
      (spelled : Item item text) (blank' : IsBlank after) (others : Separated Item items rest) :
      Separated Item (item :: items) (before ++ text ++ after ++ ',' :: rest)

/-- What stands between brackets: items, or white space alone. -/
inductive Listed {α : Type} (Item : α → List Char → Prop) : List α → List Char → Prop
  | none {text : List Char} (blank : IsBlank text) : Listed Item [] text
  | some {items : List α} {text : List Char} (separated : Separated Item items text) :
      Listed Item items text

mutual

/-- The texts of a value, without white space around them. -/
inductive Spelling : Value → List Char → Prop
  | null : Spelling .null "null".toList
  | true : Spelling (.bool true) "true".toList
  | false : Spelling (.bool false) "false".toList
  | number {value : Number} {text : List Char} (spelled : NumberSpelling value text) :
      Spelling (.number value) text
  | string {value : String} {text : List Char} (spelled : StringSpelling value text) :
      Spelling (.string value) text
  | array {items : List Value} {body : List Char} (listed : Listed Spelling items body) :
      Spelling (.array items) ('[' :: body ++ [']'])
  | object {members : List (String × Value)} {body : List Char}
      (listed : Listed MemberSpelling members body) :
      Spelling (.object members) ('\x7b' :: body ++ ['\x7d'])

/-- The texts of a member: its key, a colon and its value. -/
inductive MemberSpelling : String × Value → List Char → Prop
  | intro {key : String} {value : Value} {name before after text : List Char}
      (named : StringSpelling key name) (blank : IsBlank before) (blank' : IsBlank after)
      (spelled : Spelling value text) :
      MemberSpelling (key, value) (name ++ before ++ ':' :: after ++ text)

end

end NamedExports.Json
