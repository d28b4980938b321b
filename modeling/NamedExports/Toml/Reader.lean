import NamedExports.Toml.Scalar

/-!
# Reading TOML

TOML 1.0 documents: lines with a key and a value, or with the header of a table.  The grammar is
read first, statement by statement, and what a statement does to the document is left to the tables.
-/

namespace NamedExports.Toml

/-- What a reader answers: a result and the text behind it. -/
abbrev Reading (α : Type) := Except ReadError (α × List Char)

/-- The complaint about the first character of a text. -/
def unexpected {α : Type} : List Char → Except ReadError α
  | [] => .error .unexpectedEnd
  | c :: _ => .error (.unexpectedCharacter c)

/-- A blank. -/
def isBlank (c : Char) : Bool := c == ' ' || c == '\t'

/-- The text from its first character that is no blank. -/
def skipBlanks (text : List Char) : List Char := text.dropWhile isBlank

/-- Whether a character stands for itself: no control character but a tab. -/
def isPlain (c : Char) : Bool := c == '\t' || (' ' ≤ c && c != '\x7f')

/-- The text behind a comment, which ends before the line does. -/
def skipComment : List Char → List Char
  | '#' :: rest => rest.dropWhile isPlain
  | text => text

/-- The text behind a line end, if one stands there. -/
def lineEnd? : List Char → Option (List Char)
  | '\n' :: rest => some rest
  | '\r' :: '\n' :: rest => some rest
  | _ => none

/-- Skips blanks, comments and line ends. -/
def skipLines : Nat → List Char → List Char
  | 0, text => text
  | fuel + 1, text =>
    let text := skipComment (skipBlanks text)
    match lineEnd? text with
    | some rest => skipLines fuel rest
    | none => text

/-- Skips all blanks, comments and line ends. -/
def skipAll (text : List Char) : List Char := skipLines (text.length + 1) text

/-! ## Strings -/

/-- The code point of hexadecimal digits, if it is one of a character. -/
def codePoint? (digits : List Char) : Option Char := do
  let value := ofDigits 16 (← digits.mapM (digitIn? 16))
  if value < 0xD800 || (0xE000 ≤ value && value ≤ 0x10FFFF) then some (Char.ofNat value) else none

/-- The character that a short escape stands for. -/
def shortEscape? : Char → Option Char
  | 'b' => some '\x08'
  | 't' => some '\t'
  | 'n' => some '\n'
  | 'f' => some '\x0c'
  | 'r' => some '\r'
  | '"' => some '"'
  | '\\' => some '\\'
  | _ => none

/-- Puts a character in front of a string that has been read. -/
def Reading.cons (c : Char) (reading : Reading (List Char)) : Reading (List Char) :=
  reading.map fun (chars, rest) => (c :: chars, rest)

/-- Whether strings go over several lines. -/
inductive Extent where
  | oneLine
  | manyLines
  deriving Repr, DecidableEq

/-- The text from its first character that is no blank and no line end. -/
def skipSpace (text : List Char) : List Char :=
  text.dropWhile fun c => isBlank c || c == '\n' || c == '\r'

/-- The text behind a backslash that ends a line, with all white space that follows, if it does end
the line. -/
def lineContinuation? (text : List Char) : Option (List Char) :=
  (lineEnd? (skipBlanks text)).map skipSpace

/-- The quotes at the end of a string over several lines: up to two belong to the string. -/
def closingQuotes (quote : Char) (text : List Char) : List Char × List Char :=
  let count := min 5 (text.takeWhile (· == quote)).length
  (List.replicate (count - 3) quote, text.drop count)

/-- Whether a text starts with three quotes. -/
def atTripleQuote (quote : Char) (text : List Char) : Bool :=
  [quote, quote, quote].isPrefixOf text

/-- Reads a string in double quotes behind the opening ones. -/
def readBasic (extent : Extent) : Nat → List Char → Reading (List Char)
  | 0, _ => .error .unexpectedEnd
  | fuel + 1, text =>
    match text with
    | [] => .error .unexpectedEnd
    | '"' :: rest =>
      match extent with
      | .oneLine => .ok ([], rest)
      | .manyLines =>
        if atTripleQuote '"' text then .ok (closingQuotes '"' text)
        else (readBasic extent fuel rest).cons '"'
    | '\\' :: 'u' :: a :: b :: c :: d :: rest =>
      match codePoint? [a, b, c, d] with
      | some character => (readBasic extent fuel rest).cons character
      | none => .error .invalidEscape
    | '\\' :: 'U' :: a :: b :: c :: d :: e :: f :: g :: h :: rest =>
      match codePoint? [a, b, c, d, e, f, g, h] with
      | some character => (readBasic extent fuel rest).cons character
      | none => .error .invalidEscape
    | '\\' :: c :: rest =>
      match shortEscape? c with
      | some character => (readBasic extent fuel rest).cons character
      | none =>
        match extent, lineContinuation? (c :: rest) with
        | .manyLines, some rest => readBasic extent fuel rest
        | _, _ => .error .invalidEscape
    | c :: rest =>
      if isPlain c && c != '\\' then (readBasic extent fuel rest).cons c
      else
        match extent, lineEnd? text with
        | .manyLines, some rest =>
          if c == '\r' then ((readBasic extent fuel rest).cons '\n').cons '\r'
          else (readBasic extent fuel rest).cons '\n'
        | _, _ => .error .controlCharacter

/-- Reads a string in single quotes behind the opening ones. -/
def readLiteral (extent : Extent) : List Char → Reading (List Char)
  | [] => .error .unexpectedEnd
  | '\'' :: rest =>
    match extent with
    | .oneLine => .ok ([], rest)
    | .manyLines =>
      if atTripleQuote '\'' ('\'' :: rest) then .ok (closingQuotes '\'' ('\'' :: rest))
      else (readLiteral extent rest).cons '\''
  | '\r' :: '\n' :: rest =>
    match extent with
    | .oneLine => .error .controlCharacter
    | .manyLines => ((readLiteral extent rest).cons '\n').cons '\r'
  | c :: rest =>
    if isPlain c || (extent == .manyLines && c == '\n') then (readLiteral extent rest).cons c
    else .error .controlCharacter

/-- A line end right behind the opening quotes does not belong to the string. -/
def dropLineEnd (text : List Char) : List Char := (lineEnd? text).getD text

/-- Reads a string that starts with a quote, on one line. -/
def readShort (text : List Char) : Reading (List Char) :=
  match text with
  | '"' :: rest => readBasic .oneLine text.length rest
  | '\'' :: rest => readLiteral .oneLine rest
  | _ => unexpected text

/-- Reads a string that starts with a quote. -/
def readString (text : List Char) : Reading (List Char) :=
  if atTripleQuote '"' text then readBasic .manyLines text.length (dropLineEnd (text.drop 3))
  else if atTripleQuote '\'' text then readLiteral .manyLines (dropLineEnd (text.drop 3))
  else readShort text

/-! ## Keys -/

/-- A character of a key without quotes. -/
def isKeyChar (c : Char) : Bool := c.isAlphanum || c == '_' || c == '-'

/-- Reads one key of a dotted key. -/
def readKey (text : List Char) : Reading String :=
  match text.takeWhile isKeyChar with
  | [] => (readShort text).map fun (chars, rest) => (String.ofList chars, rest)
  | chars => .ok (String.ofList chars, text.dropWhile isKeyChar)

/-- A dotted key: the keys on the way, and the last one. -/
abbrev DottedKey := List String × String

/-- Reads a dotted key, and the blanks around it. -/
def readDottedKey : Nat → List Char → Except ReadError (DottedKey × List Char)
  | 0, _ => .error .unexpectedEnd
  | fuel + 1, text => do
    let (key, text) ← readKey (skipBlanks text)
    match skipBlanks text with
    | '.' :: rest =>
      let ((path, last), text) ← readDottedKey fuel rest
      .ok ((key :: path, last), text)
    | text => .ok (([], key), text)

/-! ## Values -/

/-- A character of a value without quotes. -/
def isScalarChar (c : Char) : Bool :=
  c.isAlphanum || c == '+' || c == '-' || c == '_' || c == '.' || c == ':'

/-- The text of a value without quotes.  A blank between a date and a time belongs to it. -/
def scalarText (text : List Char) : List Char :=
  let word := text.takeWhile isScalarChar
  match text.drop word.length with
  | ' ' :: c :: rest =>
    if isDate word && isDigit c then word ++ ' ' :: (c :: rest).takeWhile isScalarChar else word
  | _ => word

/-- Reads a value without quotes. -/
def readScalar (text : List Char) : Reading Value :=
  let word := scalarText text
  match scalar? word with
  | some value => .ok (value, text.drop word.length)
  | none => if word.isEmpty then unexpected text else .error (.invalidValue (String.ofList word))

/-- Reads the items of an array, up to its closing bracket.  A comma may stand behind the last
one. -/
def readItems (item : List Char → Reading Value) :
    Nat → List Char → Except ReadError (List Value × List Char)
  | 0, _ => .error .unexpectedEnd
  | fuel + 1, text => do
    match skipAll text with
    | ']' :: rest => .ok ([], rest)
    | text =>
      let (first, text) ← item text
      match skipAll text with
      | ',' :: rest =>
        let (others, text) ← readItems item fuel rest
        .ok (first :: others, text)
      | ']' :: rest => .ok ([first], rest)
      | text => unexpected text

/-- Reads a key, an equals sign and a value. -/
def readPair (value : List Char → Reading Value) (text : List Char) :
    Except ReadError ((DottedKey × Value) × List Char) := do
  let (key, text) ← readDottedKey text.length text
  match text with
  | '=' :: rest =>
    let (value, text) ← value (skipBlanks rest)
    .ok ((key, value), text)
  | text => unexpected text

/-- Reads the pairs of a table in braces, of which there is at least one, and its closing brace. -/
def readPairs (value : List Char → Reading Value) :
    Nat → List Char → Except ReadError (List (DottedKey × Value) × List Char)
  | 0, _ => .error .unexpectedEnd
  | fuel + 1, text => do
    let (first, text) ← readPair value text
    match skipBlanks text with
    | ',' :: rest =>
      let (others, text) ← readPairs value fuel rest
      .ok (first :: others, text)
    | '\x7d' :: rest => .ok ([first], rest)
    | text => unexpected text

/-- The table that pairs make up. -/
def ofPairs (pairs : List (DottedKey × Value)) : Except ReadError Members :=
  pairs.foldlM (fun members ((path, key), value) =>
    Members.assign path key value .inline members) []

/-- Reads a value, which arrays and tables are nested in at most `depth` levels deep. -/
def readValue (depth : Nat) (text : List Char) : Except ReadError (Value × List Char) :=
  match text with
  | '"' :: _ | '\'' :: _ =>
    (readString text).map fun (chars, rest) => (.string (String.ofList chars), rest)
  | '[' :: rest =>
    match depth with
    | 0 => .error .tooDeep
    | depth + 1 =>
      (readItems (readValue depth) text.length rest).map
        fun (items, rest) => (.array false items, rest)
  | '\x7b' :: rest =>
    match depth with
    | 0 => .error .tooDeep
    | depth + 1 => do
      match skipBlanks rest with
      | '\x7d' :: rest => .ok (.table .inline [], rest)
      | rest =>
        let (pairs, rest) ← readPairs (readValue depth) text.length rest
        .ok (.table .inline (← ofPairs pairs), rest)
  | _ => readScalar text

/-- The number of levels that arrays and tables in braces may be nested. -/
def maxDepth : Nat := 80

/-! ## Statements -/

/-- A line of a document. -/
inductive Statement where
  | assign (key : DottedKey) (value : Value)
  | header (key : DottedKey)
  | arrayHeader (key : DottedKey)
  deriving Repr

/-- Reads the end of a header. -/
def readClose (close : List Char) (text : List Char) : Except ReadError (List Char) :=
  match Text.stripStart close text with
  | some rest => .ok rest
  | none => unexpected text

/-- Reads one statement. -/
def readStatement (text : List Char) : Except ReadError (Statement × List Char) := do
  match text with
  | '[' :: '[' :: rest =>
    let (key, text) ← readDottedKey text.length rest
    .ok (.arrayHeader key, ← readClose [']', ']'] text)
  | '[' :: rest =>
    let (key, text) ← readDottedKey text.length rest
    .ok (.header key, ← readClose [']'] text)
  | text =>
    let ((key, value), text) ← readPair (readValue maxDepth) text
    .ok (.assign key value, text)

/-- Reads statements, each on a line of its own. -/
def readStatements : Nat → List Char → Except ReadError (List Statement)
  | 0, _ => .error .unexpectedEnd
  | fuel + 1, text => do
    match skipAll text with
    | [] => .ok []
    | text =>
      let (first, text) ← readStatement text
      match skipComment (skipBlanks text) with
      | [] => .ok [first]
      | text =>
        match lineEnd? text with
        | some rest => .ok (first :: (← readStatements fuel rest))
        | none => unexpected text

/-- A document up to some line, and the table that the following lines belong to. -/
structure Progress where
  members : Members
  current : List String

/-- What a statement does to a document. -/
def Progress.apply (progress : Progress) : Statement → Except ReadError Progress
  | .assign (path, key) value => do
    let members ← Members.update false (Members.assign path key value) progress.current .defined
      progress.members
    .ok { progress with members }
  | .header (path, key) => do
    let members ← Members.update false (fun _ => Members.openTable key) path .defined
      progress.members
    .ok ⟨members, path ++ [key]⟩
  | .arrayHeader (path, key) => do
    let members ← Members.update false (fun _ => Members.appendTable key) path .defined
      progress.members
    .ok ⟨members, path ++ [key]⟩

/-- The members of the table that a text holds. -/
def read (text : String) : Except ReadError Members := do
  let chars := (Text.stripStart ['\uFEFF'] text.toList).getD text.toList
  let statements ← readStatements (chars.length + 1) chars
  let progress ← statements.foldlM Progress.apply ⟨[], []⟩
  .ok progress.members

end NamedExports.Toml
