import NamedExports.Json.Record

/-!
# Forms

The form of a type in JSON: the fields of its record, the value of each field of an element, and the
element that values of the fields make.  An element is written as an object that has all fields in
order.
-/

namespace NamedExports.Json

/-- How the elements of a type are written as records and read from them. -/
structure Form (α : Type) where
  fields : List Field
  toValues : α → List Value
  ofValues : List Value → Except ReadError α

namespace Form

/-- An element as an object. -/
def value {α : Type} (form : Form α) (element : α) : Value :=
  .object ((form.fields.map Field.name).zip (form.toValues element))

/-- Reads an element at the start of a text. -/
def readRecord {α : Type} (form : Form α) (text : List Char) :
    Except ReadError (α × List Char) := do
  let (values, rest) ← Json.readRecord form.fields text
  .ok (← form.ofValues values, rest)

/-- Reads a text that is an element and nothing else. -/
def read {α : Type} (form : Form α) (text : List Char) : Except ReadError α :=
  readAll form.readRecord text

end Form

/-! ## Values of fields -/

/-- A natural number as written. -/
def Number.ofNat (n : Nat) : Number := ⟨false, (toString n).toList, none, none⟩

/-- A natural number. -/
def ofNatural (n : Nat) : Value := .number (.ofNat n)

/-- A list of texts. -/
def ofTexts (texts : List String) : Value := .array (texts.map .string)

/-- A value that may be missing. -/
def ofOption {α : Type} (write : α → Value) : Option α → Value
  | some element => write element
  | none => .null

/-- A field that must be there. -/
def Field.required (name : String) : Field := ⟨name, none, none⟩

/-- A field with a default. -/
def Field.withDefault (name : String) (default : Value) : Field :=
  ⟨name, some default, some default⟩

/-- A field that an object may lack, but not an array. -/
def Field.optional (name : String) : Field := ⟨name, some .null, none⟩

end NamedExports.Json
