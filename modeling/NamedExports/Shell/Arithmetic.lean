import NamedExports.Shell.Format
import NamedExports.Shell.Token

/-!
# Arithmetic

Expressions on integers, in which names stand for the numbers that variables hold.
-/

namespace NamedExports.Shell.Arithmetic

/-- A token of an expression. -/
inductive Symbol where
  | number (value : Int)
  | operator (name : String)
  deriving Repr, DecidableEq

/-- The operators, longer ones before their beginnings. -/
def operators : List String :=
  ["<<", ">>", "<=", ">=", "==", "!=", "&&", "||", "<", ">", "+", "-", "*", "/", "%", "&", "|",
    "^", "!", "~", "(", ")", "?", ":"]

/-- Why an expression has no value. -/
inductive Error where
  | malformed
  | noNumber (text : Octets)
  | zeroDivisor
  deriving Repr, DecidableEq

/-- The wording of an error in an expression. -/
def Error.message (expression : Octets) : Error → Octets
  | malformed =>
    "arithmetic expression: expecting primary: \"".toList ++ expression ++ ['"']
  | noNumber text => "Illegal number: ".toList ++ text
  | zeroDivisor => "arithmetic expression: division by zero: \"".toList ++ expression ++ ['"']

/-- The number that the value of a variable stands for. -/
def numberOf (value : Octets) : Except Error Int :=
  if value.isEmpty then .ok 0
  else
    match integer? (trimmed value) with
    | some n => .ok n
    | none => .error (.noNumber value)

/-- Cuts an expression into tokens, given the values of variables. -/
def symbols (value : Octets → Octets) : Nat → Octets → Except Error (List Symbol)
  | 0, _ => .error .malformed
  | _, [] => .ok []
  | fuel + 1, c :: rest => do
    if c == ' ' || c == '\t' || c == '\n' then symbols value fuel rest
    else if isNameChar c then
      let name := (c :: rest).takeWhile isNameChar
      let number ←
        if c.isDigit then
          match unsigned? name with
          | some n => .ok (n : Int)
          | none => .error .malformed
        else numberOf (value name)
      .ok (.number number :: (← symbols value fuel ((c :: rest).drop name.length)))
    else
      match operators.find? fun name => name.toList.isPrefixOf (c :: rest) with
      | none => .error .malformed
      | some operator =>
        .ok (.operator operator :: (← symbols value fuel ((c :: rest).drop operator.length)))

/-- Wraps a number to a word of 64 bits. -/
def wrap (n : Int) : Int := Int.bmod n (Nat.pow 2 64)

/-- How tightly an operator between two operands binds. -/
def level? : String → Option Nat
  | "||" => some 1
  | "&&" => some 2
  | "|" => some 3
  | "^" => some 4
  | "&" => some 5
  | "==" | "!=" => some 6
  | "<" | "<=" | ">" | ">=" => some 7
  | "<<" | ">>" => some 8
  | "+" | "-" => some 9
  | "*" | "/" | "%" => some 10
  | _ => none

/-- The number that stands for a truth value. -/
def truth (holds : Bool) : Int := if holds then 1 else 0

/-- Two numbers, combined as words of 64 bits. -/
def bitwise (combine : Nat → Nat → Nat) (a b : Int) : Int :=
  let word (n : Int) : Nat := (n % (Nat.pow 2 64 : Int)).toNat
  wrap (combine (word a) (word b))

/-- The value of an operator. -/
def combine (operator : String) (a b : Int) : Except Error Int :=
  match operator with
  | "||" => .ok (truth (a != 0 || b != 0))
  | "&&" => .ok (truth (a != 0 && b != 0))
  | "|" => .ok (bitwise Nat.lor a b)
  | "^" => .ok (bitwise Nat.xor a b)
  | "&" => .ok (bitwise Nat.land a b)
  | "==" => .ok (truth (a == b))
  | "!=" => .ok (truth (a != b))
  | "<" => .ok (truth (a < b))
  | "<=" => .ok (truth (a ≤ b))
  | ">" => .ok (truth (b < a))
  | ">=" => .ok (truth (b ≤ a))
  | "<<" => .ok (wrap (a * (Nat.pow 2 (b.toNat % 64) : Int)))
  | ">>" => .ok (a / (Nat.pow 2 (b.toNat % 64) : Int))
  | "+" => .ok (wrap (a + b))
  | "-" => .ok (wrap (a - b))
  | "*" => .ok (wrap (a * b))
  | "/" => if b == 0 then .error .zeroDivisor else .ok (wrap (a.tdiv b))
  | "%" => if b == 0 then .error .zeroDivisor else .ok (a.tmod b)
  | _ => .error .malformed

mutual

/-- Evaluates an operand. -/
def operand : Nat → List Symbol → Except Error (Int × List Symbol)
  | 0, _ => .error .malformed
  | fuel + 1, symbols => do
    match symbols with
    | .number value :: rest => .ok (value, rest)
    | .operator "-" :: rest =>
      let (value, rest) ← operand fuel rest
      .ok (wrap (-value), rest)
    | .operator "+" :: rest => operand fuel rest
    | .operator "!" :: rest =>
      let (value, rest) ← operand fuel rest
      .ok (truth (value == 0), rest)
    | .operator "~" :: rest =>
      let (value, rest) ← operand fuel rest
      .ok (-value - 1, rest)
    | .operator "(" :: rest =>
      let (value, rest) ← conditional fuel rest
      match rest with
      | .operator ")" :: rest => .ok (value, rest)
      | _ => .error .malformed
    | _ => .error .malformed

/-- Evaluates operators that bind at least so tightly. -/
def operation : Nat → Nat → List Symbol → Except Error (Int × List Symbol)
  | 0, _, _ => .error .malformed
  | fuel + 1, least, symbols => do
    let (value, rest) ← operand fuel symbols
    operationRest fuel least value rest

/-- Evaluates the operators behind an operand. -/
def operationRest : Nat → Nat → Int → List Symbol → Except Error (Int × List Symbol)
  | 0, _, _, _ => .error .malformed
  | fuel + 1, least, value, symbols => do
    match symbols with
    | .operator name :: rest =>
      match level? name with
      | none => .ok (value, symbols)
      | some level =>
        if level < least then .ok (value, symbols)
        else
          let (other, rest) ← operation fuel (level + 1) rest
          operationRest fuel least (← combine name value other) rest
    | _ => .ok (value, symbols)

/-- Evaluates an expression that may choose between two others. -/
def conditional : Nat → List Symbol → Except Error (Int × List Symbol)
  | 0, _ => .error .malformed
  | fuel + 1, symbols => do
    let (test, rest) ← operation fuel 0 symbols
    match rest with
    | .operator "?" :: rest =>
      let (first, rest) ← conditional fuel rest
      match rest with
      | .operator ":" :: rest =>
        let (second, rest) ← conditional fuel rest
        .ok (if test == 0 then second else first, rest)
      | _ => .error .malformed
    | _ => .ok (test, rest)

end

/-- The value of an expression. -/
def evaluate (value : Octets → Octets) (expression : Octets) : Except Error Int := do
  let symbols ← symbols value (expression.length + 1) expression
  if symbols.isEmpty then .ok 0
  else
    match ← conditional (4 * symbols.length + 8) symbols with
    | (result, []) => .ok result
    | _ => .error .malformed

end NamedExports.Shell.Arithmetic
