/-!
# Numerals

Natural numbers of at most 64 bits as people write them: decimal digits, perhaps with a plus sign in
front.
-/

namespace NamedExports.Text

/-- Why a text is no numeral. -/
inductive NumeralError where
  | empty
  | invalidDigit
  | tooLarge
  deriving Repr, DecidableEq

/-- The wording of a numeral error. -/
def NumeralError.message : NumeralError → String
  | empty => "cannot parse integer from empty string"
  | invalidDigit => "invalid digit found in string"
  | tooLarge => "number too large to fit in target type"

/-- The largest number that is read. -/
def maxNatural : Nat := Nat.pow 2 64 - 1

/-- Reads digits behind a number that has been read. -/
def readDigits (value : Nat) : List Char → Except NumeralError Nat
  | [] => .ok value
  | c :: rest =>
    if c.isDigit then
      let value := value * 10 + (c.toNat - '0'.toNat)
      if value > maxNatural then .error .tooLarge else readDigits value rest
    else .error .invalidDigit

/-- Reads a number. -/
def readNatural : List Char → Except NumeralError Nat
  | [] => .error .empty
  | ['+'] => .error .invalidDigit
  | '+' :: rest => readDigits 0 rest
  | text => readDigits 0 text

end NamedExports.Text
