import NamedExports.Shell.Format
import NamedExports.Shell.State

/-!
# Conditions

What `test` finds out about texts, numbers and files.
-/

namespace NamedExports.Shell.Condition

/-- Why a condition cannot be evaluated. -/
inductive Error where
  | noNumber (text : Octets)
  /-- Something is left behind a word. -/
  | unexpected (word : Octets)
  deriving Repr, DecidableEq

/-- The wording of an error. -/
def Error.message : Error → Octets
  | noNumber text => "Illegal number: ".toList ++ text
  | unexpected word => word ++ ": unexpected operator".toList

/-- Whether something is true of one operand, for the name of what it is. -/
def unary? (disk : Disk) (operator : String) (operand : Octets) : Option Bool :=
  let path := pathOf operand
  match operator with
  | "-n" => some (!operand.isEmpty)
  | "-z" => some operand.isEmpty
  | "-f" => some (disk.isFile path)
  | "-d" => some (disk.isDirectory path)
  | "-e" | "-r" | "-w" => some (disk.hasEntry path)
  | "-x" =>
    match disk.entry? path with
    | some (.file _ executable) => some executable
    | some .directory => some true
    | _ => some false
  | "-s" => some (((disk.readBytes path).toOption.map fun bytes => !bytes.isEmpty).getD false)
  | "-t" => some false
  | _ => none

/-- Whether something is true of two operands, for the name of what it is.  An operand that should
be a number and is none is answered instead. -/
def binary? (operator : String) (left right : Octets) : Option (Except Error Bool) :=
  let numbers (holds : Int → Int → Bool) : Except Error Bool :=
    match whole? left, whole? right with
    | some a, some b => .ok (holds a b)
    | none, _ => .error (.noNumber left)
    | _, none => .error (.noNumber right)
  match operator with
  | "=" => some (.ok (left == right))
  | "!=" => some (.ok (left != right))
  | "-eq" => some (numbers (· == ·))
  | "-ne" => some (numbers (· != ·))
  | "-gt" => some (numbers fun a b => b < a)
  | "-ge" => some (numbers fun a b => b ≤ a)
  | "-lt" => some (numbers fun a b => a < b)
  | "-le" => some (numbers fun a b => a ≤ b)
  | _ => none

/-- The name of an operator. -/
def nameOf (word : Octets) : String := String.ofList word

mutual

/-- Evaluates one condition. -/
def single (disk : Disk) : Nat → List Octets → Except Error (Bool × List Octets)
  | 0, words => .ok (false, words)
  | fuel + 1, words =>
    match words with
    | [] => .ok (false, [])
    | left :: operator :: right :: rest =>
      match binary? (nameOf operator) left right with
      | some outcome => outcome.map fun holds => (holds, rest)
      | none => short disk fuel words
    | _ => short disk fuel words

/-- Evaluates a condition with no operator between two operands. -/
def short (disk : Disk) : Nat → List Octets → Except Error (Bool × List Octets)
  | 0, words => .ok (false, words)
  | fuel + 1, words =>
    match words with
    | ['!'] :: next :: rest =>
      (single disk fuel (next :: rest)).map fun (holds, rest) => (!holds, rest)
    | ['('] :: next :: rest => do
      let (holds, rest) ← either disk fuel (next :: rest)
      .ok (holds, rest.tail)
    | operator :: operand :: rest =>
      match unary? disk (nameOf operator) operand with
      | some holds => .ok (holds, rest)
      | none => .ok (!operator.isEmpty, operand :: rest)
    | [text] => .ok (!text.isEmpty, [])
    | [] => .ok (false, [])

/-- Evaluates conditions that must all hold. -/
def both (disk : Disk) : Nat → List Octets → Except Error (Bool × List Octets)
  | 0, words => .ok (false, words)
  | fuel + 1, words => do
    let (first, rest) ← single disk fuel words
    match rest with
    | ['-', 'a'] :: rest =>
      let (second, rest) ← both disk fuel rest
      .ok (first && second, rest)
    | _ => .ok (first, rest)

/-- Evaluates conditions of which one must hold. -/
def either (disk : Disk) : Nat → List Octets → Except Error (Bool × List Octets)
  | 0, words => .ok (false, words)
  | fuel + 1, words => do
    let (first, rest) ← both disk fuel words
    match rest with
    | ['-', 'o'] :: rest =>
      let (second, rest) ← either disk fuel rest
      .ok (first || second, rest)
    | _ => .ok (first, rest)

end

/-- Whether a condition holds. -/
def holds (disk : Disk) (words : List Octets) : Except Error Bool := do
  let (holds, rest) ← either disk (4 * words.length + 4) words
  if rest.isEmpty then .ok holds
  else .error (.unexpected ((words.take (words.length - rest.length)).getLast?.getD []))

end NamedExports.Shell.Condition
