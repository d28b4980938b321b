import NamedExports.Json.Value

/-!
# Reading JSON

JSON text as RFC 8259 defines it, nothing around it and nothing left out.  Beyond the grammar a
value must not be nested too deep, a number must not exceed the range of doubles, and a surrogate
escape must be one of a pair.  Text that is read only to be skipped is held to the grammar alone.
-/

namespace NamedExports.Json

/-- Why a text is no JSON value. -/
inductive ReadError where
  | unexpectedEnd
  | unexpectedCharacter (c : Char)
  | controlCharacter
  | invalidEscape
  | loneSurrogate
  | numberOutOfRange
  | tooDeep
  | trailingText
  /-- The value is not of the form that is wanted. -/
  | wrongForm (wanted : String)
  deriving Repr, DecidableEq

/-- The wording of a reading error. -/
def ReadError.message : ReadError → String
  | unexpectedEnd => "unexpected end of text"
  | unexpectedCharacter c => s!"unexpected character {c.quote}"
  | controlCharacter => "control character in a string"
  | invalidEscape => "invalid escape"
  | loneSurrogate => "lone surrogate in an escape"
  | numberOutOfRange => "number out of range"
  | tooDeep => "nested too deep"
  | trailingText => "text behind the value"
  | wrongForm wanted => s!"expected {wanted}"

/-- What a reader answers: a result and the text behind it. -/
abbrev Reading (α : Type) := Except ReadError (α × List Char)

/-- Whether text is read for its value, or only skipped. -/
inductive Purpose where
  | keep
  | skip
  deriving Repr, DecidableEq

/-- The complaint about the first character of a text. -/
def unexpected {α : Type} : List Char → Except ReadError α
  | [] => .error .unexpectedEnd
  | c :: _ => .error (.unexpectedCharacter c)

/-- White space between tokens. -/
def isSpace (c : Char) : Bool := c == ' ' || c == '\t' || c == '\n' || c == '\r'

/-- The text from its first token on. -/
def skipSpace (text : List Char) : List Char := text.dropWhile isSpace

/-! ## Strings -/

/-- The value of a hexadecimal digit. -/
def hexDigit? (c : Char) : Option Nat :=
  if '0' ≤ c && c ≤ '9' then some (c.toNat - '0'.toNat)
  else if 'a' ≤ c && c ≤ 'f' then some (c.toNat - 'a'.toNat + 10)
  else if 'A' ≤ c && c ≤ 'F' then some (c.toNat - 'A'.toNat + 10)
  else none

/-- The value of four hexadecimal digits. -/
def hex4? (a b c d : Char) : Option Nat := do
  return (((← hexDigit? a) * 16 + (← hexDigit? b)) * 16 + (← hexDigit? c)) * 16 + (← hexDigit? d)

/-- Whether a code unit is the first of a surrogate pair. -/
def isHighSurrogate (unit : Nat) : Bool := 0xD800 ≤ unit && unit < 0xDC00

/-- Whether a code unit is the second of a surrogate pair. -/
def isLowSurrogate (unit : Nat) : Bool := 0xDC00 ≤ unit && unit < 0xE000

/-- The character that a surrogate pair stands for. -/
def ofPair (high low : Nat) : Char :=
  Char.ofNat (0x10000 + (high - 0xD800) * 0x400 + (low - 0xDC00))

/-- The character that a short escape stands for. -/
def shortEscape? : Char → Option Char
  | '"' => some '"'
  | '\\' => some '\\'
  | '/' => some '/'
  | 'b' => some '\x08'
  | 'f' => some '\x0c'
  | 'n' => some '\n'
  | 'r' => some '\r'
  | 't' => some '\t'
  | _ => none

/-- Puts a character in front of a string that has been read. -/
def Reading.cons (c : Char) (reading : Reading (List Char)) : Reading (List Char) :=
  reading.map fun (chars, rest) => (c :: chars, rest)

/-- Reads a string behind its opening quote. -/
def readChars (purpose : Purpose) : List Char → Reading (List Char)
  | [] => .error .unexpectedEnd
  | '"' :: rest => .ok ([], rest)
  | '\\' :: 'u' :: a :: b :: c :: d :: rest =>
    match hex4? a b c d with
    | none => .error .invalidEscape
    | some unit =>
      if isHighSurrogate unit || isLowSurrogate unit then
        match purpose, rest with
        | .skip, rest => (readChars .skip rest).cons '\uFFFD'
        | .keep, '\\' :: 'u' :: e :: f :: g :: h :: rest =>
          match hex4? e f g h with
          | none => .error .invalidEscape
          | some low =>
            if isHighSurrogate unit && isLowSurrogate low then
              (readChars .keep rest).cons (ofPair unit low)
            else .error .loneSurrogate
        | .keep, _ => .error .loneSurrogate
      else (readChars purpose rest).cons (Char.ofNat unit)
  | '\\' :: c :: rest =>
    match shortEscape? c with
    | some character => (readChars purpose rest).cons character
    | none => .error .invalidEscape
  | c :: rest =>
    if c < ' ' then .error .controlCharacter else (readChars purpose rest).cons c

/-- Reads a string. -/
def readString (purpose : Purpose) : List Char → Reading String
  | '"' :: rest => (readChars purpose rest).map fun (chars, rest) => (String.ofList chars, rest)
  | text => unexpected text

/-! ## Numbers -/

/-- A decimal digit. -/
def isDigit (c : Char) : Bool := '0' ≤ c && c ≤ '9'

/-- Reads one digit or more. -/
def readDigits (text : List Char) : Reading (List Char) :=
  match text.takeWhile isDigit with
  | [] => unexpected text
  | digits => .ok (digits, text.dropWhile isDigit)

/-- Reads the digits before the point, which start with a zero only if it stands alone. -/
def readWhole : List Char → Reading (List Char)
  | '0' :: c :: rest =>
    if isDigit c then .error (.unexpectedCharacter c) else .ok (['0'], c :: rest)
  | text => readDigits text

/-- Reads the part of a number behind the point, if there is one. -/
def readFraction : List Char → Reading (Option (List Char))
  | '.' :: rest => (readDigits rest).map fun (digits, rest) => (some digits, rest)
  | text => .ok (none, text)

/-- Reads the exponent of a number behind its letter. -/
def readPower (sign : Int) (text : List Char) : Reading (Option Int) :=
  (readDigits text).map fun (digits, rest) => (some (sign * Number.accumulate 0 digits), rest)

/-- Reads the exponent of a number, if there is one. -/
def readExponent : List Char → Reading (Option Int)
  | c :: rest =>
    if c == 'e' || c == 'E' then
      match rest with
      | '+' :: rest => readPower 1 rest
      | '-' :: rest => readPower (-1) rest
      | rest => readPower 1 rest
    else .ok (none, c :: rest)
  | [] => .ok (none, [])

/-- Reads a number behind its sign. -/
def readUnsigned (purpose : Purpose) (negative : Bool) (text : List Char) :
    Except ReadError (Number × List Char) := do
  let (whole, text) ← readWhole text
  let (fraction, text) ← readFraction text
  let (exponent, text) ← readExponent text
  let number : Number := ⟨negative, whole, fraction, exponent⟩
  if purpose == .keep && !number.isFinite then .error .numberOutOfRange
  else .ok (number, text)

/-- Reads a number. -/
def readNumber (purpose : Purpose) : List Char → Reading Number
  | '-' :: rest => readUnsigned purpose true rest
  | text => readUnsigned purpose false text

/-! ## Lists and values -/

/-- Reads items with commas between them, up to the closing character. -/
def readItems {α : Type} (close : Char) (item : List Char → Reading α) :
    Nat → List Char → Except ReadError (List α × List Char)
  | 0, _ => .error .unexpectedEnd
  | fuel + 1, text => do
    let (first, text) ← item (skipSpace text)
    match skipSpace text with
    | c :: rest =>
      if c == close then .ok ([first], rest)
      else if c == ',' then
        let (others, text) ← readItems close item fuel rest
        .ok (first :: others, text)
      else .error (.unexpectedCharacter c)
    | [] => .error .unexpectedEnd

/-- Reads a list behind its opening character.  It holds fewer items than the text characters. -/
def readList {α : Type} (close : Char) (item : List Char → Reading α) (text : List Char) :
    Reading (List α) :=
  match skipSpace text with
  | c :: rest => if c == close then .ok ([], rest) else readItems close item text.length (c :: rest)
  | [] => .error .unexpectedEnd

/-- Reads a colon. -/
def readColon (text : List Char) : Reading Unit :=
  match skipSpace text with
  | ':' :: rest => .ok ((), rest)
  | other => unexpected other

/-- Reads a member of an object: its key, a colon and its value. -/
def readMember {α : Type} (purpose : Purpose) (value : List Char → Reading α) (text : List Char) :
    Except ReadError ((String × α) × List Char) := do
  let (key, text) ← readString purpose text
  let (_, text) ← readColon text
  let (value, text) ← value (skipSpace text)
  .ok ((key, value), text)

/-- Reads a known word. -/
def readWord {α : Type} (word : String) (value : α) (text : List Char) : Reading α :=
  if word.toList.isPrefixOf text then .ok (value, text.drop word.toList.length)
  else unexpected (text.drop 1)

/-- Reads a value that starts at the first character and is nested at most `depth` levels deep. -/
def readValue (purpose : Purpose) (depth : Nat) (text : List Char) : Reading Value :=
  match text with
  | 'n' :: _ => readWord "null" .null text
  | 't' :: _ => readWord "true" (.bool true) text
  | 'f' :: _ => readWord "false" (.bool false) text
  | '"' :: _ => (readString purpose text).map fun (value, rest) => (.string value, rest)
  | '[' :: rest =>
    match depth with
    | 0 => .error .tooDeep
    | depth + 1 =>
      (readList ']' (readValue purpose depth) rest).map fun (items, rest) => (.array items, rest)
  | '\x7b' :: rest =>
    match depth with
    | 0 => .error .tooDeep
    | depth + 1 =>
      (readList '\x7d' (readMember purpose (readValue purpose depth)) rest).map
        fun (members, rest) => (.object members, rest)
  | _ => (readNumber purpose text).map fun (value, rest) => (.number value, rest)

/-- The number of levels that arrays and objects may be nested. -/
def maxDepth : Nat := 127

/-- Reads a whole text with a reader for what it holds. -/
def readAll {α : Type} (read : List Char → Reading α) (text : List Char) : Except ReadError α := do
  let (value, rest) ← read (skipSpace text)
  if (skipSpace rest).isEmpty then .ok value else .error .trailingText

/-- The value that a text holds. -/
def read (text : String) : Except ReadError Value :=
  readAll (readValue .keep maxDepth) text.toList

end NamedExports.Json
