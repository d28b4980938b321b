/-!
# UTF-8

Bytes as characters.  `Utf8.pieces` reads a byte string one byte at a time and answers its
characters, with `none` for each longest piece that starts a character and cannot be finished, or
that can start none.  The two ways to read a file differ in what they make of such a piece:
`decodeLossy` puts U+FFFD in its place and `decode?` refuses the whole string.
-/

namespace NamedExports.Text.Utf8

/-- A character of which the first bytes have been read. -/
structure Pending where
  /-- How many bytes are still owed, less one. -/
  more : Nat
  /-- The least value that the next byte may have. -/
  low : UInt8
  /-- The greatest value that the next byte may have. -/
  high : UInt8
  /-- The code point's bits so far. -/
  value : Nat
  deriving Repr, DecidableEq

/-- What one byte does to the text: the pieces it completes, and what is pending after it. -/
abbrev Step := List (Option Char) × Option Pending

/-- A byte where a character starts. -/
def first (byte : UInt8) : Step :=
  let lead (more : Nat) (low high : UInt8) (base : UInt8) : Step :=
    ([], some ⟨more, low, high, (byte - base).toNat⟩)
  if byte < 0x80 then ([some (Char.ofNat byte.toNat)], none)
  else if byte < 0xC2 then ([none], none)
  else if byte < 0xE0 then lead 0 0x80 0xBF 0xC0
  else if byte == 0xE0 then lead 1 0xA0 0xBF 0xE0
  else if byte == 0xED then lead 1 0x80 0x9F 0xE0
  else if byte < 0xF0 then lead 1 0x80 0xBF 0xE0
  else if byte == 0xF0 then lead 2 0x90 0xBF 0xF0
  else if byte < 0xF4 then lead 2 0x80 0xBF 0xF0
  else if byte == 0xF4 then lead 2 0x80 0x8F 0xF0
  else ([none], none)

/-- A byte after what is pending.  One that cannot continue it ends a malformed piece and starts
afresh. -/
def next (pending : Option Pending) (byte : UInt8) : Step :=
  match pending with
  | none => first byte
  | some p =>
    if p.low ≤ byte && byte ≤ p.high then
      let value := p.value * 64 + (byte - 0x80).toNat
      match p.more with
      | 0 => ([some (Char.ofNat value)], none)
      | more + 1 => ([], some ⟨more, 0x80, 0xBF, value⟩)
    else
      let (pieces, after) := first byte
      (none :: pieces, after)

/-- The pieces of the bytes that follow what is pending. -/
def piecesFrom (pending : Option Pending) : List UInt8 → List (Option Char)
  | [] => if pending.isSome then [none] else []
  | byte :: rest =>
    let (pieces, after) := next pending byte
    pieces ++ piecesFrom after rest

/-- The characters of a byte string, and `none` for each malformed piece. -/
def pieces (bytes : List UInt8) : List (Option Char) := piecesFrom none bytes

/-- What stands for a malformed piece. -/
def replacement : Char := '\uFFFD'

/-- The characters of a byte string, with a replacement character for each malformed piece. -/
def decodeLossy (bytes : List UInt8) : List Char :=
  (pieces bytes).map (·.getD replacement)

/-- The characters of a byte string without malformed pieces. -/
def decode? (bytes : List UInt8) : Option (List Char) :=
  (pieces bytes).mapM id

/-- The bytes of a text. -/
def encode (chars : List Char) : List UInt8 :=
  chars.flatMap String.utf8EncodeChar

end NamedExports.Text.Utf8
