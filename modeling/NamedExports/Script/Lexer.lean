import NamedExports.Number.Double
import NamedExports.Script.Token
import NamedExports.Text.IdentifierChars

/-!
# Reading tokens

`Token.next` reads one token of program text: it skips blanks and comments, noting line breaks, and
reads a word, punctuator, number, string, or the first piece of a template.  A slash is always read
as a punctuator and a closing brace as one too; `Token.asRegex` and `Token.asTemplate` read the same
place again as a regular expression and as the next piece of a template.
-/

namespace NamedExports.Script

/-! ## Blanks and comments -/

/-- Blanks that do not end a line. -/
def isBlank (c : Char) : Bool :=
  c == ' ' || c == '\t' || c == '\x0b' || c == '\x0c' || c == '\u0085' || c == '\u00a0' ||
    c == '\ufeff' || c == '\u1680' || ('\u2000' ≤ c && c ≤ '\u200b') || c == '\u202f' ||
    c == '\u205f' || c == '\u3000'

/-- Characters that end a line. -/
def isLineEnd (c : Char) : Bool :=
  c == '\n' || c == '\r' || c == '\u2028' || c == '\u2029'

/-- Where `skipBlanks` is: between tokens, in a comment to the end of the line, or in a bracketed
comment. -/
inductive BlankState where
  | between | lineComment | blockComment

/-- Drops blanks and comments before a token.  `newline` tells whether a line break has been passed
since the last token, or nothing precedes at all; a comment may then also open with `-->`. -/
def skipBlanks : BlankState → (newline : Bool) → List Char →
    Except SyntaxError (Bool × List Char)
  | .between, newline, [] => .ok (newline, [])
  | .between, newline, '/' :: '/' :: rest => skipBlanks .lineComment newline rest
  | .between, newline, '/' :: '*' :: rest => skipBlanks .blockComment newline rest
  | .between, newline, '<' :: '!' :: '-' :: '-' :: rest => skipBlanks .lineComment newline rest
  | .between, true, '-' :: '-' :: '>' :: rest => skipBlanks .lineComment true rest
  | .between, newline, c :: rest =>
    if isLineEnd c then skipBlanks .between true rest
    else if isBlank c then skipBlanks .between newline rest
    else .ok (newline, c :: rest)
  | .lineComment, newline, [] => .ok (newline, [])
  | .lineComment, newline, c :: rest =>
    if isLineEnd c then skipBlanks .between true rest else skipBlanks .lineComment newline rest
  | .blockComment, newline, '*' :: '/' :: rest => skipBlanks .between newline rest
  | .blockComment, newline, c :: rest => skipBlanks .blockComment (newline || isLineEnd c) rest
  | .blockComment, _, [] => .error .unterminatedComment

/-! ## Escapes -/

/-- The value of a hexadecimal digit. -/
def hexDigit? (c : Char) : Option Nat :=
  if c.isDigit then some (c.toNat - '0'.toNat)
  else if 'a' ≤ c && c ≤ 'f' then some (c.toNat - 'a'.toNat + 10)
  else if 'A' ≤ c && c ≤ 'F' then some (c.toNat - 'A'.toNat + 10)
  else none

/-- The value of a list of hexadecimal digits. -/
def hexValue? (digits : List Char) : Option Nat :=
  digits.foldlM (fun value c => (hexDigit? c).map (value * 16 + ·)) 0

/-- Reads exactly `count` hexadecimal digits. -/
def fixedHex? (count : Nat) (text : List Char) : Option (Nat × List Char) :=
  let digits := text.take count
  if digits.length == count then (hexValue? digits).map (·, text.drop count) else none

/-- Reads the part of a code point escape after `\u`: four digits, or any number of them in
braces. -/
def codePoint? : List Char → Option (Nat × List Char)
  | '\x7b' :: rest =>
    let digits := rest.takeWhile (hexDigit? · |>.isSome)
    match digits, rest.drop digits.length with
    | _ :: _, '\x7d' :: after =>
      match hexValue? digits with
      | some value => if value ≤ 0x10FFFF then some (value, after) else none
      | none => none
    | _, _ => none
  | text => fixedHex? 4 text

/-- Reads the part of a code point escape after `\u` in text, where two escapes may spell the two
halves of one code point. -/
def codeUnits? (text : List Char) : Option (Nat × List Char) :=
  match codePoint? text with
  | some (high, rest) =>
    if 0xD800 ≤ high && high ≤ 0xDBFF && text.head? != some '\x7b' then
      match rest with
      | '\\' :: 'u' :: more =>
        match fixedHex? 4 more with
        | some (low, after) =>
          if 0xDC00 ≤ low && low ≤ 0xDFFF then
            some (0x10000 + (high - 0xD800) * 0x400 + (low - 0xDC00), after)
          else some (high, rest)
        | none => some (high, rest)
      | _ => some (high, rest)
    else some (high, rest)
  | none => none

/-- The character a letter stands for after a backslash. -/
def singleEscape (c : Char) : Char :=
  match c with
  | 'b' => '\x08'
  | 't' => '\t'
  | 'n' => '\n'
  | 'v' => '\x0b'
  | 'f' => '\x0c'
  | 'r' => '\r'
  | _ => c

/-- Whether a character is an octal digit. -/
def isOctal (c : Char) : Bool := '0' ≤ c && c ≤ '7'

/-- Reads an octal escape: up to three digits with a value below 256. -/
def octalEscape (first : Char) (rest : List Char) : Nat × List Char :=
  let limit := if first ≤ '3' then 2 else 1
  let more := (rest.take limit).takeWhile isOctal
  ((first :: more).foldl (fun value c => value * 8 + (c.toNat - '0'.toNat)) 0,
    rest.drop more.length)

/-- Reads what stands after a backslash in a string or template: the code points it denotes and the
text after it, or nothing when the escape is malformed.  Templates have no octal escapes. -/
def escape? (inTemplate : Bool) : List Char → Option (List Nat × List Char)
  | [] => none
  | '\r' :: '\n' :: rest => some ([], rest)
  | 'x' :: rest => (fixedHex? 2 rest).map fun (code, after) => ([code], after)
  | 'u' :: rest => (codeUnits? rest).map fun (code, after) => ([code], after)
  | c :: rest =>
    if isLineEnd c then some ([], rest)
    else if inTemplate && c.isDigit then
      if c == '0' && !(rest.head?.any Char.isDigit) then some ([0], rest) else none
    else if isOctal c then
      let (code, after) := octalEscape c rest
      some ([code], after)
    else some ([(singleEscape c).toNat], rest)

/-- Four lower-case hexadecimal digits. -/
def hex4 (code : Nat) : List Char :=
  [code / 4096 % 16, code / 256 % 16, code / 16 % 16, code % 16].map Nat.digitChar

/-- The text of a list of code points.  If half of a surrogate pair stands alone anywhere, each such
half and each replacement character is written as a replacement character and four digits. -/
def textOfCodes (codes : List Nat) : String :=
  let lone := fun code => 0xD800 ≤ code && code ≤ 0xDFFF
  if codes.any lone then
    String.ofList (codes.flatMap fun code =>
      if lone code || code == 0xFFFD then '\ufffd' :: hex4 code else [Char.ofNat code])
  else String.ofList (codes.map Char.ofNat)

/-! ## Strings, templates and regular expressions -/

/-- Reads a string up to its closing quote: its code points and the text after it.  The first list
bounds the number of steps; any list that is as long as the text will do. -/
def stringBody (quote : Char) : List Char → List Char → Except SyntaxError (List Nat × List Char)
  | [], _ => .error .unterminatedString
  | _, [] => .error .unterminatedString
  | _ :: fuel, '\\' :: rest =>
    match escape? false rest with
    | some (codes, after) => do
      let (more, final) ← stringBody quote fuel after
      return (codes ++ more, final)
    | none => .error .invalidEscape
  | _ :: fuel, c :: rest =>
    if c == quote then .ok ([], rest)
    else if c == '\n' || c == '\r' then .error .unterminatedString
    else do
      let (more, final) ← stringBody quote fuel rest
      return (c.toNat :: more, final)

/-- Reads a piece of a template, up to the closing backquote or the next substitution: its code
points unless an escape is malformed, whether the template ends, and the text after it.  The first
list bounds the number of steps, as for strings. -/
def templateBody :
    List Char → List Char → Except SyntaxError (Option (List Nat) × Bool × List Char)
  | [], _ => .error .unterminatedTemplate
  | _, [] => .error .unterminatedTemplate
  | _ :: _, '\x60' :: rest => .ok (some [], true, rest)
  | _ :: _, '$' :: '\x7b' :: rest => .ok (some [], false, rest)
  | _ :: fuel, '\\' :: rest =>
    match escape? true rest with
    | some (codes, after) => do
      let (more, last, final) ← templateBody fuel after
      return (more.map (codes ++ ·), last, final)
    | none => do
      let (_, last, final) ← templateBody fuel (rest.drop 1)
      return (none, last, final)
  | _ :: fuel, '\r' :: '\n' :: rest => do
    let (more, last, final) ← templateBody fuel rest
    return (more.map (10 :: ·), last, final)
  | _ :: fuel, c :: rest => do
    let (more, last, final) ← templateBody fuel rest
    return (more.map ((if c == '\r' then 10 else c.toNat) :: ·), last, final)

/-- Reads a regular expression's pattern up to the closing slash.  A slash in a class does not
close it. -/
def regexBody : (inClass : Bool) → List Char → Except SyntaxError (List Char × List Char)
  | _, [] => .error .unterminatedRegex
  | inClass, '\\' :: c :: rest =>
    if isLineEnd c then .error .unterminatedRegex
    else do
      let (more, final) ← regexBody inClass rest
      return ('\\' :: c :: more, final)
  | inClass, c :: rest =>
    if isLineEnd c then .error .unterminatedRegex
    else if c == '/' && !inClass then .ok ([], rest)
    else do
      let (more, final) ← regexBody (c == '[' || (inClass && c != ']')) rest
      return (c :: more, final)

/-! ## Numbers -/

/-- Reads digits with single separators between them. -/
def digitRun (isDigit : Char → Bool) : List Char → Option (List Char × List Char)
  | [] => some ([], [])
  | '_' :: c :: rest => if isDigit c then digitRun isDigit (c :: rest) else none
  | c :: rest =>
    if isDigit c then (digitRun isDigit rest).map fun (more, final) => (c :: more, final)
    else if c == '_' then none
    else some ([], c :: rest)

/-- Reads one digit or more, with single separators between them. -/
def digitRun1 (isDigit : Char → Bool) (text : List Char) : Option (List Char × List Char) :=
  if text.head?.any isDigit then digitRun isDigit text else none

/-- The value of digits in a base up to sixteen. -/
def digitsValue (base : Nat) (digits : List Char) : Nat :=
  digits.foldl (fun value c => value * base + (hexDigit? c).getD 0) 0

/-- The double that digits in a base other than ten denote, rounded after each digit. -/
def digitsDouble (base : Nat) (digits : List Char) : Number.Double :=
  digits.foldl (fun value c => value.shiftIn base ((hexDigit? c).getD 0)) (.finite 0 0)

/-- A number with its exponent part, if one follows: its value in plain decimal and the text after
it. -/
def withExponent (whole fraction : List Char) (text : List Char) :
    Option (Literal × List Char) := do
  let (exponent, rest) ← match text with
    | c :: rest =>
      if c == 'e' || c == 'E' then
        let (negative, rest) := match rest with
          | '-' :: rest => (true, rest)
          | '+' :: rest => (false, rest)
          | rest => (false, rest)
        let (digits, rest) ← digitRun1 Char.isDigit rest
        let size : Int := digitsValue 10 digits
        pure (if negative then -size else size, rest)
      else pure ((0 : Int), text)
    | [] => pure ((0 : Int), text)
  let value := Number.Double.ofScientific (digitsValue 10 (whole ++ fraction))
    (exponent - fraction.length)
  return (.number value.toPlain, rest)

/-- The digits after a decimal point, of which there may be none. -/
def fractionRun (text : List Char) : Option (List Char × List Char) :=
  if text.head?.any Char.isDigit then digitRun Char.isDigit text else some ([], text)

/-- A literal in a base other than ten, after its two-character mark. -/
def basedNumber (base : Nat) (isDigit : Char → Bool) (text : List Char) :
    Option (Literal × List Char) := do
  let (digits, rest) ← digitRun1 isDigit text
  match rest with
  | 'n' :: rest => return (.bigint (toString (digitsValue base digits)), rest)
  | _ => return (.number (digitsDouble base digits).toPlain, rest)

/-- A literal with a leading zero: octal if all its digits are, otherwise decimal. -/
def zeroLedNumber (text : List Char) : Option (Literal × List Char) :=
  let digits := text.takeWhile Char.isDigit
  let rest := text.drop digits.length
  if digits.all isOctal then some (.number (digitsDouble 8 digits).toPlain, rest)
  else
    match rest with
    | '.' :: rest => do
      let (fraction, rest) ← fractionRun rest
      withExponent digits fraction rest
    | 'E' :: _ => none
    | _ => withExponent digits [] rest

/-- A decimal literal that starts with a digit. -/
def decimalNumber (text : List Char) : Option (Literal × List Char) := do
  let (whole, rest) ← digitRun1 Char.isDigit text
  match rest with
  | 'n' :: rest => return (.bigint (toString (digitsValue 10 whole)), rest)
  | '.' :: rest => do
    let (fraction, rest) ← fractionRun rest
    withExponent whole fraction rest
  | _ => withExponent whole [] rest

/-- Reads a number.  No word and no digit may follow at once. -/
def number? (text : List Char) : Option (Literal × List Char) := do
  let (value, rest) ← match text with
    | '0' :: c :: rest =>
      if c == 'x' || c == 'X' then basedNumber 16 (hexDigit? · |>.isSome) rest
      else if c == 'o' || c == 'O' then basedNumber 8 isOctal rest
      else if c == 'b' || c == 'B' then basedNumber 2 (fun d => d == '0' || d == '1') rest
      else if c.isDigit then zeroLedNumber text
      else if c == '_' then none
      else decimalNumber text
    | '.' :: rest => do
      let (fraction, rest) ← digitRun1 Char.isDigit rest
      withExponent [] fraction rest
    | _ => decimalNumber text
  match rest with
  | c :: _ => if c.isDigit || Text.isIdentifierStart c then none else pure (value, rest)
  | [] => pure (value, rest)

/-! ## Words -/

/-- Reads the characters of a word after its first: its text, whether it holds an escape, and the
text after it.  The first list bounds the number of steps, as for strings. -/
def wordRest : List Char → List Char → Except SyntaxError (List Char × Bool × List Char)
  | [], text => .ok ([], false, text)
  | _ :: fuel, '\\' :: 'u' :: rest =>
    match codePoint? rest with
    | some (code, after) =>
      if Text.isIdentifierPart (Char.ofNat code) then do
        let (more, _, final) ← wordRest fuel after
        return (Char.ofNat code :: more, true, final)
      else .error .invalidEscape
    | none => .error .invalidEscape
  | _ :: _, '\\' :: _ => .error .invalidEscape
  | _ :: fuel, c :: rest =>
    if Text.isIdentifierPart c then do
      let (more, escaped, final) ← wordRest fuel rest
      return (c :: more, escaped, final)
    else .ok ([], false, c :: rest)
  | _ :: _, [] => .ok ([], false, [])

/-- Reads a word, or nothing when the text does not start one. -/
def word? (text : List Char) : Except SyntaxError (Option (String × Bool × List Char)) :=
  match text with
  | '\\' :: 'u' :: rest =>
    match codePoint? rest with
    | some (code, after) =>
      if Text.isIdentifierStart (Char.ofNat code) then do
        let (more, _, final) ← wordRest after after
        return some (String.ofList (Char.ofNat code :: more), true, final)
      else .error .invalidEscape
    | none => .error .invalidEscape
  | '\\' :: _ => .error .invalidEscape
  | c :: rest =>
    if Text.isIdentifierStart c then do
      let (more, escaped, final) ← wordRest rest rest
      return some (String.ofList (c :: more), escaped, final)
    else .ok none
  | [] => .ok none

/-! ## Tokens -/

namespace Token

/-- Reads the token that starts at the first character of a text without leading blanks. -/
def at? (text : List Char) : Except SyntaxError (TokenKind × List Char) :=
  match text with
  | [] => .ok (.endOfText, [])
  | c :: rest =>
    if c == '"' || c == '\'' then do
      let (codes, after) ← stringBody c rest rest
      return (.literal (.string (textOfCodes codes)), after)
    else if c == '\x60' then do
      let (codes, last, after) ← templateBody rest rest
      return (.template (codes.map textOfCodes) last, after)
    else if c.isDigit || (c == '.' && rest.head?.any Char.isDigit) then
      match number? text with
      | some (value, after) => .ok (.literal value, after)
      | none => .error .invalidNumber
    else if c == '#' then
      match word? rest with
      | .ok (some (name, _, after)) => .ok (.privateWord name, after)
      | _ => .error (.invalidCharacter c)
    else
      match word? text with
      | .error reason => .error reason
      | .ok (some (name, escaped, after)) => .ok (.word name escaped, after)
      | .ok none =>
        match Punct.read? text with
        | some (mark, after) => .ok (.punct mark, after)
        | none => .error (.invalidCharacter c)

/-- Reads the next token of a text.  `newline` tells whether a line break, or nothing at all,
precedes the text. -/
def next (newline : Bool) (text : List Char) : Except SyntaxError Token := do
  let (newlineBefore, start) ← skipBlanks .between newline text
  let (kind, rest) ← at? start
  return { kind, newlineBefore, start, rest }

/-- The first token of a program.  A line that starts with `#!` at the very start is skipped. -/
def first (text : List Char) : Except SyntaxError Token :=
  match text with
  | '#' :: '!' :: rest => next true (rest.dropWhile (!isLineEnd ·))
  | _ => next true text

/-- The token after a token. -/
def after (token : Token) : Except SyntaxError Token := next false token.rest

/-- The regular expression that starts where the token does. -/
def asRegex (token : Token) : Except SyntaxError (List Char × List Char × List Char) := do
  let (pattern, rest) ← regexBody false (token.start.drop 1)
  let flags := rest.takeWhile fun c => c.isAlphanum || c == '$' || c == '_'
  return (pattern, flags, rest.drop flags.length)

/-- The piece of a template that follows the closing brace of a substitution. -/
def asTemplate (token : Token) : Except SyntaxError Token := do
  let (codes, last, rest) ← templateBody token.start (token.start.drop 1)
  return { token with kind := .template (codes.map textOfCodes) last, rest }

end Token

end NamedExports.Script
