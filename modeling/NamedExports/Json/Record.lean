import NamedExports.Json.Reader

/-!
# Records in JSON

Values of a known form read from JSON text.  A record is written as an object, in which unknown
members are skipped and a known one must not be repeated, or as an array of its fields in order,
from the end of which fields with a default may be missing.
-/

namespace NamedExports.Json

/-- What is known of a record's field. -/
structure Field where
  name : String
  /-- The value of the field where an object lacks it. -/
  absent : Option Value := none
  /-- The value of the field where an array is too short for it. -/
  cutOff : Option Value := none

/-- Skips a value, however deep it is nested. -/
def skipValue (text : List Char) : Reading Value := readValue .skip text.length text

/-- Reads a member of a record: the value only if the field is known. -/
def readField (fields : List Field) (depth : Nat) (text : List Char) :
    Except ReadError ((String × Option Value) × List Char) := do
  let (key, text) ← readString .keep text
  let (_, text) ← readColon text
  if fields.any (·.name == key) then
    let (value, text) ← readValue .keep depth (skipSpace text)
    .ok ((key, some value), text)
  else
    let (_, text) ← skipValue (skipSpace text)
    .ok ((key, none), text)

/-- The values of a record's fields, in order, from the known members of an object. -/
def ofMembers (members : List (String × Option Value)) (field : Field) : Except ReadError Value :=
  match members.filter fun member => member.1 == field.name with
  | [(_, some value)] => .ok value
  | [] =>
    match field.absent with
    | some value => .ok value
    | none => .error (.wrongForm s!"a member {field.name}")
  | _ => .error (.wrongForm s!"one member {field.name}")

/-- The values of a record's fields, in order, from the items of an array. -/
def ofItems : List Field → List Value → Except ReadError (List Value)
  | [], [] => .ok []
  | [], _ :: _ => .error (.wrongForm "fewer items")
  | field :: fields, [] => do
    match field.cutOff with
    | some value => .ok (value :: (← ofItems fields []))
    | none => .error (.wrongForm "more items")
  | _ :: fields, value :: values => do .ok (value :: (← ofItems fields values))

/-- Reads the values of a record's fields, in order. -/
def readRecord (fields : List Field) (text : List Char) :
    Except ReadError (List Value × List Char) := do
  match text with
  | '\x7b' :: rest =>
    let (members, rest) ← readList '\x7d' (readField fields (maxDepth - 1)) rest
    .ok (← fields.mapM (ofMembers members), rest)
  | '[' :: rest =>
    let (items, rest) ← readList ']' (readValue .keep (maxDepth - 1)) rest
    .ok (← ofItems fields items, rest)
  | text => unexpected text

/-! ## Fields -/

/-- A text. -/
def toText : Value → Except ReadError String
  | .string value => .ok value
  | _ => .error (.wrongForm "a string")

/-- A truth value. -/
def toBool : Value → Except ReadError Bool
  | .bool value => .ok value
  | _ => .error (.wrongForm "true or false")

/-- A natural number of at most 64 bits. -/
def toNatural : Value → Except ReadError Nat
  | .number value =>
    match value.natural? with
    | some n => .ok n
    | none => .error (.wrongForm "a natural number")
  | _ => .error (.wrongForm "a natural number")

/-- A list of texts. -/
def toTexts : Value → Except ReadError (List String)
  | .array items => items.mapM toText
  | _ => .error (.wrongForm "an array")

/-- One of a set of known words, which may also be written as the only key of an object, with no
value. -/
def toWord {α : Type} (words : List (String × α)) (value : Value) : Except ReadError α :=
  let word? : Option String :=
    match value with
    | .string word => some word
    | .object [(word, .null)] => some word
    | _ => none
  match word?.bind fun word => (words.find? (·.1 == word)).map (·.2) with
  | some meaning => .ok meaning
  | none => .error (.wrongForm "a known word")

/-- A value that may be missing, for which `null` stands. -/
def toOption {α : Type} (read : Value → Except ReadError α) : Value → Except ReadError (Option α)
  | .null => .ok none
  | value => (read value).map some

end NamedExports.Json
