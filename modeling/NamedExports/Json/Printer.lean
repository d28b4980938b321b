import NamedExports.Json.Value

/-!
# Printing JSON

A value's text in two layouts: compact, without any white space, and indented, with every item and
member on a line of its own, two spaces deeper than what holds it.  In strings only quotes,
backslashes and control characters are escaped.
-/

namespace NamedExports.Json

/-- How a value is laid out. -/
inductive Layout where
  | compact
  | indented
  deriving Repr, DecidableEq

/-- A hexadecimal digit. -/
def hexDigit (n : Nat) : Char :=
  if n < 10 then Char.ofNat ('0'.toNat + n) else Char.ofNat ('a'.toNat + (n - 10))

/-- A character as it stands in a string. -/
def escape (c : Char) : List Char :=
  if c == '"' then ['\\', '"']
  else if c == '\\' then ['\\', '\\']
  else if c == '\x08' then ['\\', 'b']
  else if c == '\x0c' then ['\\', 'f']
  else if c == '\n' then ['\\', 'n']
  else if c == '\r' then ['\\', 'r']
  else if c == '\t' then ['\\', 't']
  else if c < ' ' then ['\\', 'u', '0', '0', hexDigit (c.toNat / 16), hexDigit (c.toNat % 16)]
  else [c]

/-- A string in quotes. -/
def quote (text : String) : List Char :=
  '"' :: text.toList.flatMap escape ++ ['"']

/-- A number as it was written. -/
def Number.print (n : Number) : List Char :=
  (if n.negative then ['-'] else []) ++ n.whole ++
    (match n.fraction with
      | some digits => '.' :: digits
      | none => []) ++
    (match n.exponent with
      | some power => 'e' :: (toString power).toList
      | none => [])

/-- The white space in front of an item at a depth. -/
def Layout.newline (layout : Layout) (depth : Nat) : List Char :=
  match layout with
  | .compact => []
  | .indented => '\n' :: List.replicate (2 * depth) ' '

/-- What stands between a key and its value. -/
def Layout.colon : Layout → List Char
  | .compact => [':']
  | .indented => [':', ' ']

mutual

/-- A value at a depth. -/
def printAt (layout : Layout) (depth : Nat) : Value → List Char
  | .null => "null".toList
  | .bool value => (toString value).toList
  | .number value => value.print
  | .string value => quote value
  | .array [] => ['[', ']']
  | .array (first :: rest) =>
    '[' :: layout.newline (depth + 1) ++ printAt layout (depth + 1) first ++
      printItems layout (depth + 1) rest ++ layout.newline depth ++ [']']
  | .object [] => ['\x7b', '\x7d']
  | .object ((key, value) :: rest) =>
    '\x7b' :: layout.newline (depth + 1) ++ quote key ++ layout.colon ++
      printAt layout (depth + 1) value ++ printMembers layout (depth + 1) rest ++
      layout.newline depth ++ ['\x7d']

/-- Items behind the first, each with a comma in front. -/
def printItems (layout : Layout) (depth : Nat) : List Value → List Char
  | [] => []
  | value :: rest =>
    ',' :: layout.newline depth ++ printAt layout depth value ++ printItems layout depth rest

/-- Members behind the first, each with a comma in front. -/
def printMembers (layout : Layout) (depth : Nat) : List (String × Value) → List Char
  | [] => []
  | (key, value) :: rest =>
    ',' :: layout.newline depth ++ quote key ++ layout.colon ++ printAt layout depth value ++
      printMembers layout depth rest

end

/-- A value's text. -/
def print (layout : Layout) (value : Value) : String :=
  String.ofList (printAt layout 0 value)

end NamedExports.Json
