/-!
# TOML values

A document is a table.  Every table remembers how it came about, because that decides what later
lines may still add to it.
-/

namespace NamedExports.Toml

/-- How a table came about. -/
inductive TableKind where
  /-- By a header of its own, or as the whole document. -/
  | defined
  /-- By the header of a table inside it. -/
  | implied
  /-- By a dotted key. -/
  | dotted
  /-- By braces. -/
  | inline
  deriving Repr, DecidableEq

/-- A TOML value. -/
inductive Value where
  | string (value : String)
  | integer (value : Int)
  /-- A number with a point or an exponent, an infinity or no number, as it is written. -/
  | float (text : String)
  | bool (value : Bool)
  /-- A date, a time of day or both, as it is written. -/
  | datetime (text : String)
  /-- An array, either in brackets or of the tables that have a header in double brackets. -/
  | array (ofTables : Bool) (items : List Value)
  | table (kind : TableKind) (members : List (String × Value))
  deriving Repr, Inhabited

/-- The members of a table. -/
abbrev Members := List (String × Value)

/-- Why a text is no document. -/
inductive ReadError where
  | unexpectedEnd
  | unexpectedCharacter (c : Char)
  | controlCharacter
  | invalidEscape
  | invalidValue (text : String)
  | tooDeep
  | duplicateKey (key : String)
  | notExtensible (key : String)
  /-- A key's value is not of the form that is wanted. -/
  | wrongForm (wanted : String)
  deriving Repr, DecidableEq

/-- The wording of a reading error. -/
def ReadError.message : ReadError → String
  | unexpectedEnd => "unexpected end of the document"
  | unexpectedCharacter c => s!"unexpected character {c.quote}"
  | controlCharacter => "control character"
  | invalidEscape => "invalid escape"
  | invalidValue text => s!"invalid value {text}"
  | tooDeep => "nested too deep"
  | duplicateKey key => s!"duplicate key {key}"
  | notExtensible key => s!"cannot extend the value of {key}"
  | wrongForm wanted => s!"expected {wanted}"

namespace Members

/-- The value of a key. -/
def get? (members : Members) (key : String) : Option Value :=
  (members.find? fun member => member.1 == key).map (·.2)

/-- The members with the value of a key replaced, or with the key at the end. -/
def set (key : String) (value : Value) : Members → Members
  | [] => [(key, value)]
  | (name, old) :: rest =>
    if name == key then (key, value) :: rest else (name, old) :: set key value rest

/-- Changes the table behind a path of keys.  Tables that are missing on the way are made; a dotted
key must not pass through a table that has a header, and nothing is ever added to an array or a
table that is written as a value.  Of an array of tables the last one is meant. -/
def update (dotted : Bool) (change : TableKind → Members → Except ReadError Members) :
    List String → TableKind → Members → Except ReadError Members
  | [], kind, members => change kind members
  | key :: path, _, members =>
    match get? members key with
    | none => do
      let kind := if dotted then TableKind.dotted else .implied
      let inner ← update dotted change path kind []
      .ok (set key (.table kind inner) members)
    | some (.table kind inner) =>
      if kind == .inline then .error (.notExtensible key)
      else if dotted && kind == .defined then .error (.duplicateKey key)
      else do
        let inner ← update dotted change path kind inner
        .ok (set key (.table kind inner) members)
    | some (.array true items) =>
      match items.getLast? with
      | some (.table kind inner) => do
        let inner ← update dotted change path kind inner
        .ok (set key (.array true (items.dropLast ++ [.table kind inner])) members)
      | _ => .error (.notExtensible key)
    | some _ => .error (.notExtensible key)

/-- Adds a key that must be new, to a table that came about in the same way as the path to it. -/
def insertNew (direct : Bool) (key : String) (value : Value) (kind : TableKind)
    (members : Members) : Except ReadError Members :=
  if (kind == .dotted) == direct then .error (.duplicateKey key)
  else if (get? members key).isSome then .error (.duplicateKey key)
  else .ok (set key value members)

/-- Assigns a value to a dotted key of a table. -/
def assign (path : List String) (key : String) (value : Value) (kind : TableKind)
    (members : Members) : Except ReadError Members :=
  update true (insertNew path.isEmpty key value) path kind members

/-- Opens the table of a header.  It must be new, or implied by the tables inside it. -/
def openTable (key : String) (members : Members) : Except ReadError Members :=
  match get? members key with
  | none => .ok (set key (.table .defined []) members)
  | some (.table .implied inner) => .ok (set key (.table .defined inner) members)
  | some _ => .error (.duplicateKey key)

/-- Adds a table to the array of a header in double brackets. -/
def appendTable (key : String) (members : Members) : Except ReadError Members :=
  match get? members key with
  | none => .ok (set key (.array true [.table .defined []]) members)
  | some (.array true items) => .ok (set key (.array true (items ++ [.table .defined []])) members)
  | some _ => .error (.duplicateKey key)

end Members

end NamedExports.Toml
