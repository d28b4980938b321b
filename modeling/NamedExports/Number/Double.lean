/-!
# Double-precision values

The doubles that number literals denote, all of them at least zero.  A double is a mantissa times a
power of two; `Double.ofRatio` rounds an exact fraction to the nearest one, a tie to the even
mantissa, and `Double.toPlain` writes a double in plain decimal with the fewest digits that read
back as the same double.  All arithmetic is exact, on natural numbers.
-/

namespace NamedExports.Number

/-- A double that is not negative: `mantissa * 2 ^ exponent`, or infinity. -/
inductive Double where
  | finite (mantissa : Nat) (exponent : Int)
  | infinite
  deriving Repr, DecidableEq

namespace Double

/-- A mantissa has at most this many bits. -/
def precision : Nat := 53

/-- The least exponent of a double. -/
def minExponent : Int := -1074

/-- The largest exponent of a double. -/
def maxExponent : Int := 971

/-- The quotient of two naturals, rounded to the nearest natural, a tie to the even one. -/
def divNearest (num den : Nat) : Nat :=
  let q := num / den
  let r := num % den
  if 2 * r < den || (2 * r == den && q % 2 == 0) then q else q + 1

/-- The fraction `num / den` measured in units of `2 ^ exponent`. -/
def scale (num den : Nat) (exponent : Int) : Nat × Nat :=
  let factor := Nat.pow 2 exponent.natAbs
  if exponent < 0 then (num * factor, den) else (num, den * factor)

/-- The double nearest to `num / den`, for a positive `den`. -/
def ofRatio (num den : Nat) : Double :=
  if num == 0 then .finite 0 0 else
    let low := max minExponent ((num.log2 : Int) - (den.log2 : Int) - precision)
    let (n, d) := scale num den low
    let exponent := if n / d < Nat.pow 2 precision then low else low + 1
    let (n, d) := scale num den exponent
    let mantissa := divNearest n d
    let (mantissa, exponent) :=
      if mantissa == Nat.pow 2 precision then (Nat.pow 2 (precision - 1), exponent + 1)
      else (mantissa, exponent)
    if exponent > maxExponent then .infinite else .finite mantissa exponent

/-- The double nearest to a natural number. -/
def ofNat (n : Nat) : Double := ofRatio n 1

/-- A natural number's decimal digits. -/
def digits (n : Nat) : List Char := (toString n).toList

/-- The double nearest to `significand * 10 ^ exponent`.  Powers of ten far outside the range of
doubles are not computed. -/
def ofScientific (significand : Nat) (exponent : Int) : Double :=
  let magnitude := (digits significand).length + exponent
  if significand == 0 || magnitude < -400 then .finite 0 0
  else if magnitude > 400 then .infinite
  else if exponent < 0 then ofRatio significand (Nat.pow 10 exponent.natAbs)
  else ofRatio (significand * Nat.pow 10 exponent.natAbs) 1

/-- The fraction `mantissa * 2 ^ exponent`, as numerator and denominator. -/
def ratio (mantissa : Nat) (exponent : Int) : Nat × Nat :=
  let factor := Nat.pow 2 exponent.natAbs
  if exponent < 0 then (mantissa, factor) else (mantissa * factor, 1)

/-- The double `a * base + digit`, rounded once. -/
def shiftIn (base : Nat) (a : Double) (digit : Nat) : Double :=
  match a with
  | .infinite => .infinite
  | .finite mantissa exponent =>
    let (num, den) := ratio mantissa exponent
    ofRatio (num * base + digit * den) den

/-- The product of two doubles, rounded once. -/
def mul : Double → Double → Double
  | .finite m e, .finite m' e' =>
    let (num, den) := ratio (m * m') (e + e')
    ofRatio num den
  | _, _ => .infinite

/-! ## The fewest digits that read back -/

/-- The exponent of the leading decimal digit of the positive fraction `num / den`. -/
def leadingExponent (num den : Nat) : Int :=
  if num ≥ den then ((digits (num / den)).length : Int) - 1
  else
    let rec below (fuel t : Nat) : Int :=
      match fuel with
      | 0 => -(t : Int)
      | fuel + 1 => if num * Nat.pow 10 t ≥ den then -(t : Int) else below fuel (t + 1)
    below 400 1

/-- Whether `digits * 10 ^ power` reads back as the double `mantissa * 2 ^ exponent`. -/
def readsBack (mantissa : Nat) (exponent : Int) (digits : Nat) (power : Int) : Bool :=
  ofScientific digits power == .finite mantissa exponent

/-- The shortest decimal that reads back as the double, as digits and a power of ten: for one
digit, two, and so on, the two neighbours on the decimal grid are tried, the nearer one first. -/
def shortest (mantissa : Nat) (exponent : Int) : Nat × Int :=
  let (num, den) := ratio mantissa exponent
  let lead := leadingExponent num den
  let rec search (fuel count : Nat) : Nat × Int :=
    let power := lead - count + 1
    let factor := Nat.pow 10 power.natAbs
    let (n, d) := if power < 0 then (num * factor, den) else (num, den * factor)
    let lower := n / d
    let nearest := divNearest n d
    let farther := if nearest == lower then lower + 1 else lower
    match fuel with
    | 0 => (nearest, power)
    | fuel + 1 =>
      if readsBack mantissa exponent nearest power then (nearest, power)
      else if readsBack mantissa exponent farther power then (farther, power)
      else search fuel (count + 1)
  search 17 1

/-- Digits and a power of ten in plain decimal, never with an exponent. -/
def plain (digits : List Char) (power : Int) : String :=
  if power ≥ 0 then String.ofList (digits ++ List.replicate power.natAbs '0')
  else
    let places := power.natAbs
    let padded := List.replicate (places + 1 - digits.length) '0' ++ digits
    let whole := padded.take (padded.length - places)
    String.ofList (whole ++ '.' :: padded.drop (padded.length - places))

/-- A double in plain decimal, with the fewest digits that read back. -/
def toPlain : Double → String
  | .infinite => "inf"
  | .finite 0 _ => "0"
  | .finite mantissa exponent =>
    let (digits, power) := shortest mantissa exponent
    plain (Double.digits digits) power

end Double

end NamedExports.Number
