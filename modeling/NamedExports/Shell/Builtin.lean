import NamedExports.Shell.Condition
import NamedExports.Shell.Utility

/-!
# Commands of the shell itself

The commands that a shell runs without starting a program, but for those that run other commands.
-/

namespace NamedExports.Shell

namespace Builtin

/-- Prints arguments. -/
def echo : Program := fun state arguments => (state.print (Shell.echo arguments)).finish 0

/-- Prints arguments in a format. -/
def printf : Program := fun state arguments =>
  match arguments with
  | [] => (state.complain (ofText "printf: usage: printf format [arg ...]")).finish 2
  | pattern :: arguments =>
    let filled := format (arguments.length + 1) pattern arguments
    let state := filled.complaints.foldl (fun state complaint =>
      state.complain (ofText "printf: " ++ complaint)) state
    (state.print filled.text).finish (if filled.complaints.isEmpty then 0 else 1)

/-- Complains about a number and ends the script. -/
def refuseNumber (state : State) (command : String) (text : Octets) : State :=
  (state.complain (ofText s!"{command}: Illegal number: " ++ text)).leave 2

/-- Ends the script. -/
def exit : Program := fun state arguments =>
  match arguments with
  | [] => state.leave state.status
  | text :: _ =>
    match natural? text with
    | some status => state.leave status
    | none => refuseNumber state "exit" text

/-- Leaves a function. -/
def leaveFunction : Program := fun state arguments =>
  match arguments with
  | [] => { state with flow := .returning }
  | text :: _ =>
    match natural? text with
    | some status => { state with status := status % 256, flow := .returning }
    | none => refuseNumber state "return" text

/-- The number of loops that are named. -/
def loops (arguments : List Octets) : Nat := ((arguments.head?).bind natural?).getD 1

/-- The number of a signal, from its number or its name. -/
def signal? (text : Octets) : Option Nat :=
  (digits? 10 text).or
    ((ExitStatus.signalNames.find? fun (_, name) =>
      name.toList == text || name.toList == "SIG".toList ++ text).map (·.1))

/-- Signals that do not end a process. -/
def isHarmless (signal : Nat) : Bool := [0, 17, 18, 23, 28].contains signal

/-- Signals have smaller numbers than this. -/
def signalCount : Nat := 65

/-- How signals are sent. -/
def killUsage : String :=
  "kill: Usage: kill [-s sigspec | -signum | -sigspec] [pid | job]... or\nkill -l [exitstatus]"

/-- Sends a signal to the script. -/
def kill : Program := fun state arguments =>
  let signal :=
    match arguments with
    | ['-', 's'] :: name :: _ :: _ => signal? name
    | ('-' :: name) :: _ :: _ => signal? name
    | [_] => some 15
    | _ => none
  match signal.filter (· < signalCount) with
  | none => (state.complain (ofText killUsage)).finish 2
  | some signal =>
    if isHarmless signal then state.finish 0 else { state with flow := .ended (.signal signal) }

/-- Finds out whether a condition holds. -/
def condition (command : String) (state : State) (arguments : List Octets) : State :=
  match Condition.holds state.disk arguments with
  | .ok holds => state.finish (if holds then 0 else 1)
  | .error cause => (state.complain (ofText s!"{command}: " ++ cause.message)).finish 2

/-- Finds out whether a condition in brackets holds. -/
def bracket : Program := fun state arguments =>
  if arguments.getLast? == some [']'] then condition "[" state arguments.dropLast
  else (state.complain (ofText "[: missing ]")).finish 2

/-- Prints the working directory. -/
def pwd : Program := fun state _ =>
  (state.print (ofText ((Disk.pathOf state.disk.workingDirectory).text ++ "\n"))).finish 0

/-- Changes the working directory. -/
def cd : Program := fun state arguments =>
  let target := ((arguments.filter (· != ['-', '-'])).head?).or (state.value? "HOME".toList)
  let target := target.getD []
  match state.disk.locate (pathOf target) with
  | .ok location =>
    if state.disk.hasDirectory location then
      let disk := { state.disk with workingDirectory := location }
      ({ state with disk }.set "PWD".toList (ofText (Disk.pathOf location).text)).finish 0
    else (state.complain (ofText "cd: can't cd to " ++ target)).finish 2
  | .error _ => (state.complain (ofText "cd: can't cd to " ++ target)).finish 2

/-- Drops parameters. -/
def shift : Program := fun state arguments =>
  let count := ((arguments.head?).bind natural?).getD 1
  if state.parameters.length < count then
    (state.complain (ofText "shift: can't shift that many")).leave 2
  else { state with parameters := state.parameters.drop count }.finish 0

/-- A line that is read: its octets, each with whether a backslash stands before it, whether a line
feed ends it, and the octets after it. -/
structure ReadLine where
  /-- The octets, each with whether it is escaped. -/
  octets : List (Char × Bool)
  /-- Whether a line feed ends the line. -/
  isEnded : Bool
  /-- The octets after the line. -/
  rest : Octets

/-- Puts an octet in front of a line that is read. -/
def ReadLine.cons (octet : Char × Bool) (line : ReadLine) : ReadLine :=
  { line with octets := octet :: line.octets }

/-- The first line of octets, in which a backslash may escape an octet and join two lines. -/
def ReadLine.ofOctets (escapes : Bool) : Octets → ReadLine
  | [] => ⟨[], false, []⟩
  | '\n' :: rest => ⟨[], true, rest⟩
  | ['\\'] => ⟨if escapes then [] else [('\\', false)], false, []⟩
  | '\\' :: c :: rest =>
    if !escapes then (ofOctets escapes (c :: rest)).cons ('\\', false)
    else if c == '\n' then ofOctets escapes rest
    else (ofOctets escapes rest).cons (c, true)
  | c :: rest => (ofOctets escapes rest).cons (c, false)

/-- Whether an octet of a line parts two fields. -/
def isFieldBlank (octet : Char × Bool) : Bool :=
  !octet.2 && (octet.1 == ' ' || octet.1 == '\t')

/-- A line without blanks at its two ends. -/
def trimBlanks (line : List (Char × Bool)) : List (Char × Bool) :=
  ((line.dropWhile isFieldBlank).reverse.dropWhile isFieldBlank).reverse

/-- Sets variables to the fields of a line, the last one to all that is left. -/
def setFields (state : State) : List Octets → List (Char × Bool) → State
  | [], _ => state
  | [name], line => state.set name ((trimBlanks line).map Prod.fst)
  | name :: names, line =>
    let line := trimBlanks line
    let field := line.takeWhile fun octet => !isFieldBlank octet
    setFields (state.set name (field.map Prod.fst)) names (line.drop field.length)

/-- Reads a line of the standard input. -/
def read : Program := fun state arguments =>
  let (flags, names) := Utility.options arguments
  let line := ReadLine.ofOctets (!flags.any (·.contains 'r')) state.input
  let state := setFields { state with input := line.rest } names line.octets
  state.finish (if line.isEnded then 0 else 1)

/-- Sets the options of the shell, or its parameters. -/
def set : Program := fun state arguments =>
  match arguments with
  | [] => state.finish 0
  | ['-', '-'] :: parameters => { state with parameters }.finish 0
  | first :: rest =>
    match first with
    | '-' :: flags =>
      { state with
        stopsOnFailure := state.stopsOnFailure || flags.contains 'e'
        stopsOnUnset := state.stopsOnUnset || flags.contains 'u' }.finish 0
    | '+' :: flags =>
      { state with
        stopsOnFailure := state.stopsOnFailure && !flags.contains 'e'
        stopsOnUnset := state.stopsOnUnset && !flags.contains 'u' }.finish 0
    | _ => { state with parameters := first :: rest }.finish 0

/-- Sets variables that are given values. -/
def assign : Program := fun state arguments =>
  arguments.foldl (fun state argument =>
    match Text.splitOnce '=' argument with
    | some (name, value) => state.set name value
    | none => state) (state.finish 0)

/-- Forgets variables. -/
def unset : Program := fun state arguments =>
  ((Utility.options arguments).2.foldl State.unset state).finish 0

/-- Keeps a script for the end. -/
def trap : Program := fun state arguments =>
  match arguments with
  | script :: signals =>
    if signals.contains "EXIT".toList || signals.contains ['0'] then
      { state with farewell := script }.finish 0
    else state.finish 0
  | [] => state.finish 0

/-- The commands by their names. -/
def program? : String → Option Program
  | "echo" => some echo
  | "printf" => some printf
  | "exit" => some exit
  | "return" => some leaveFunction
  | "break" => some fun state arguments => { state with flow := .leaving (loops arguments) }
  | "continue" => some fun state arguments => { state with flow := .skipping (loops arguments) }
  | "kill" => some kill
  | "test" => some (condition "test")
  | "[" => some bracket
  | "pwd" => some pwd
  | "cd" => some cd
  | "shift" => some shift
  | "read" => some read
  | "set" => some set
  | "export" | "readonly" | "local" => some assign
  | "unset" => some unset
  | "trap" => some trap
  | "true" | ":" | "wait" | "umask" | "hash" | "ulimit" => some fun state _ => state.finish 0
  | "false" => some fun state _ => state.finish 1
  | _ => none

/-- The commands whose assignments outlast them. -/
def isLasting (name : String) : Bool :=
  ["exit", "return", "break", "continue", "shift", "set", "export", "readonly", "unset", "trap",
    "eval", "exec", ":"].contains name

end Builtin

end NamedExports.Shell
