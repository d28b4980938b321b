import NamedExports.Number.Double

/-!
# JSON values

A value as it is written: the members of an object keep their order, also when a key is repeated,
and a number keeps its digits.  What an object holds is read through two views, `Value.member?` and
`Value.keys`, for which the last member of a key counts and order does not.
-/

namespace NamedExports.Json

/-- A number as written: `whole.fraction e exponent`. -/
structure Number where
  negative : Bool
  whole : List Char
  /-- The digits behind the point, if there is one. -/
  fraction : Option (List Char)
  /-- The power of ten, if one is written. -/
  exponent : Option Int
  deriving Repr, DecidableEq

/-- A JSON value. -/
inductive Value where
  | null
  | bool (value : Bool)
  | number (value : Number)
  | string (value : String)
  | array (items : List Value)
  | object (members : List (String × Value))
  deriving Repr, Inhabited

namespace Number

/-- The number that digits stand for, behind other digits. -/
def accumulate (significand : Nat) (digits : List Char) : Nat :=
  digits.foldl (fun n c => n * 10 + (c.toNat - '0'.toNat)) significand

/-- The largest significand that is kept. -/
def maxSignificand : Nat := Nat.pow 2 64 - 1

/-- Appends digits to a significand while it stays small enough, and answers those left over. -/
def keepDigits (significand : Nat) : List Char → Nat × List Char
  | [] => (significand, [])
  | c :: rest =>
    let longer := accumulate significand [c]
    if longer > maxSignificand then (significand, c :: rest) else keepDigits longer rest

/-- The number as a significand of at most 64 bits times a power of ten, digits beyond that cut
off. -/
def scientific (n : Number) : Nat × Int :=
  let (significand, dropped) := keepDigits 0 n.whole
  let fraction := n.fraction.getD []
  let (significand, cut) := keepDigits significand fraction
  let places : Int := fraction.length - cut.length
  (significand, n.exponent.getD 0 + dropped.length - places)

/-- Whether a number's size is that of a finite double: the significand and the power of ten are
rounded to doubles and multiplied as such. -/
def isFinite (n : Number) : Bool :=
  let (significand, power) := n.scientific
  significand == 0 || power < 0 ||
    (power ≤ 308 &&
      (Number.Double.ofNat significand).mul (.ofScientific 1 power) != .infinite)

/-- The natural number that is written, without a sign, a point or an exponent, in at most 64
bits. -/
def natural? (n : Number) : Option Nat :=
  if n.negative || n.fraction.isSome || n.exponent.isSome then none
  else
    let value := accumulate 0 n.whole
    if value > maxSignificand then none else some value

end Number

namespace Value

/-- The value of the last member with a key. -/
def lastMember? {α : Type} (key : String) (members : List (String × α)) : Option α :=
  (members.reverse.find? fun member => member.1 == key).map (·.2)

/-- The value of an object's member. -/
def member? (key : String) : Value → Option Value
  | object members => lastMember? key members
  | _ => none

/-- Inserts a key into ascending keys, unless it is there. -/
def insertKey (key : String) : List String → List String
  | [] => [key]
  | first :: rest =>
    if key < first then key :: first :: rest
    else if key == first then first :: rest
    else first :: insertKey key rest

/-- The keys of an object in ascending order of their code points, each once.  Other values have
none. -/
def keys : Value → List String
  | object members => members.foldl (fun keys member => insertKey member.1 keys) []
  | _ => []

/-- The text of a string. -/
def text? : Value → Option String
  | string value => some value
  | _ => none

end Value

end NamedExports.Json
