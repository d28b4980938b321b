import NamedExports.Number.Double
import NamedExports.Text.Cut
import NamedExports.Toml.Value

/-!
# TOML scalars

Values without quotes: truth values, integers, floating-point numbers, dates and times.
-/

namespace NamedExports.Toml

/-- A decimal digit. -/
def isDigit (c : Char) : Bool := '0' ≤ c && c ≤ '9'

/-- A digit's value in a base of up to sixteen. -/
def digitIn? (base : Nat) (c : Char) : Option Nat :=
  let value :=
    if isDigit c then c.toNat - '0'.toNat
    else if 'a' ≤ c && c ≤ 'f' then c.toNat - 'a'.toNat + 10
    else if 'A' ≤ c && c ≤ 'F' then c.toNat - 'A'.toNat + 10
    else base
  if value < base then some value else none

/-- The digits of a number in which single underscores may stand between digits. -/
def digits? (base : Nat) (text : List Char) : Option (List Nat) :=
  let part? (part : List Char) : Option (List Nat) :=
    if part.isEmpty then none else part.mapM (digitIn? base)
  ((Text.splitOn '_' text).mapM part?).map List.flatten

/-- The number that digits stand for. -/
def ofDigits (base : Nat) (digits : List Nat) : Nat := digits.foldl (fun n d => n * base + d) 0

/-- The digits of a decimal number that does not start with a needless zero. -/
def decimal? (text : List Char) : Option (List Nat) :=
  match digits? 10 text with
  | some (0 :: _ :: _) => none
  | other => other

/-- A sign and what follows it. -/
def splitSign : List Char → Bool × List Char
  | '-' :: rest => (true, rest)
  | '+' :: rest => (false, rest)
  | text => (false, text)

/-- The largest and the least integer that are read. -/
def inIntegerRange (value : Int) : Bool :=
  -(Nat.pow 2 127 : Int) ≤ value && value < (Nat.pow 2 128 : Int)

/-- An integer. -/
def integer? (text : List Char) : Option Int :=
  let value :=
    match text with
    | '0' :: 'x' :: rest => (digits? 16 rest).map fun digits => (ofDigits 16 digits : Int)
    | '0' :: 'o' :: rest => (digits? 8 rest).map fun digits => (ofDigits 8 digits : Int)
    | '0' :: 'b' :: rest => (digits? 2 rest).map fun digits => (ofDigits 2 digits : Int)
    | _ =>
      let (negative, rest) := splitSign text
      (decimal? rest).map fun digits =>
        let n : Int := ofDigits 10 digits
        if negative then -n else n
  value.filter inIntegerRange

/-! ## Floating-point numbers -/

/-- The exponent behind its letter. -/
def exponent? (text : List Char) : Option Int :=
  let (negative, rest) := splitSign text
  (digits? 10 rest).map fun digits =>
    let n : Int := ofDigits 10 digits
    if negative then -n else n

/-- The part of a number before its exponent, and the exponent. -/
def splitExponent (text : List Char) : List Char × Option (List Char) :=
  match (Text.splitOnce 'e' text).or (Text.splitOnce 'E' text) with
  | some (mantissa, exponent) => (mantissa, some exponent)
  | none => (text, none)

/-- Whether a text is a floating-point number of finite size, without its sign. -/
def isFiniteFloat (text : List Char) : Bool :=
  let (mantissa, exponent) := splitExponent text
  let (whole, fraction) :=
    match Text.splitOnce '.' mantissa with
    | some (whole, fraction) => (whole, some fraction)
    | none => (mantissa, none)
  if fraction.isNone && exponent.isNone then false
  else
    match decimal? whole, digits? 10 (fraction.getD ['0']), exponent? (exponent.getD ['0']) with
    | some whole, some fraction, some power =>
      Number.Double.ofScientific (ofDigits 10 (whole ++ fraction)) (power - fraction.length)
        != .infinite
    | _, _, _ => false

/-- Whether a text is a floating-point number. -/
def isFloat (text : List Char) : Bool :=
  let (_, rest) := splitSign text
  rest == "inf".toList || rest == "nan".toList || isFiniteFloat rest

/-! ## Dates and times -/

/-- A number written with exactly so many digits. -/
def fixed? (count : Nat) (text : List Char) : Option Nat :=
  if text.length == count then (text.mapM (digitIn? 10)).map (ofDigits 10) else none

/-- The number of days of a month. -/
def daysIn (year month : Nat) : Nat :=
  if month == 2 then
    if year % 4 == 0 && (year % 100 != 0 || year % 400 == 0) then 29 else 28
  else if month == 4 || month == 6 || month == 9 || month == 11 then 30
  else 31

/-- Whether a text is a date. -/
def isDate (text : List Char) : Bool :=
  match Text.splitOn '-' text with
  | [year, month, day] =>
    match fixed? 4 year, fixed? 2 month, fixed? 2 day with
    | some year, some month, some day =>
      1 ≤ month && month ≤ 12 && 1 ≤ day && day ≤ daysIn year month
    | _, _, _ => false
  | _ => false

/-- Whether a text is a number of at most so much, written with two digits. -/
def isAtMost (limit : Nat) (text : List Char) : Bool :=
  (fixed? 2 text).any (· ≤ limit)

/-- Whether a text is a time of day. -/
def isTime (text : List Char) : Bool :=
  match Text.splitOn ':' text with
  | [hour, minute, second] =>
    let (whole, fraction) := (Text.splitOnce '.' second).getD (second, ['0'])
    isAtMost 23 hour && isAtMost 59 minute && isAtMost 60 whole &&
      !fraction.isEmpty && fraction.all isDigit
  | _ => false

/-- Whether a text is the distance of a local time from universal time, without its sign. -/
def isOffset (text : List Char) : Bool :=
  match Text.splitOn ':' text with
  | [hour, minute] => isAtMost 23 hour && isAtMost 59 minute
  | _ => false

/-- Whether a text is a time of day, with or without an offset. -/
def isOffsetTime (text : List Char) : Bool :=
  isTime text ||
    (match text.reverse with
      | 'Z' :: rest | 'z' :: rest => isTime rest.reverse
      | _ => false) ||
    (match (Text.splitOnce '+' text).or (Text.splitOnce '-' text) with
      | some (time, offset) => isTime time && isOffset offset
      | none => false)

/-- The number of characters of a date. -/
def dateLength : Nat := 10

/-- Whether a character may stand between a date and a time. -/
def isDateSeparator (c : Char) : Bool := c == 'T' || c == 't' || c == ' '

/-- Whether a text is a date, a time of day, or a date and a time. -/
def isDatetime (text : List Char) : Bool :=
  isDate text || isTime text ||
    (match text.drop dateLength with
      | c :: time => isDateSeparator c && isDate (text.take dateLength) && isOffsetTime time
      | [] => false)

/-- The value of a text without quotes. -/
def scalar? (text : List Char) : Option Value :=
  if text == "true".toList then some (.bool true)
  else if text == "false".toList then some (.bool false)
  else
    match integer? text with
    | some value => some (.integer value)
    | none =>
      if isFloat text then some (.float (String.ofList text))
      else if isDatetime text then some (.datetime (String.ofList text))
      else none

end NamedExports.Toml
