import NamedExports.Disk
import NamedExports.Loading.Process
import NamedExports.Shell.Syntax

/-!
# The state of a shell

What a running script finds around it and has done so far.  All that is printed goes to buffers: one
for each of the two streams of the script, and one for each output that the script itself reads.
-/

namespace NamedExports.Shell

/-! ## Octets and text -/

/-- Bytes as octets. -/
def ofBytes (bytes : List UInt8) : Octets := bytes.map fun byte => Char.ofNat byte.toNat

/-- Octets as bytes. -/
def toBytes (octets : Octets) : List UInt8 := octets.map fun c => c.toNat.toUInt8

/-- Text as octets. -/
def ofText (text : String) : Octets := ofBytes (Text.Utf8.encode text.toList)

/-- The path that octets spell. -/
def pathOf (octets : Octets) : Path :=
  ⟨String.ofList (Text.Utf8.decodeLossy (toBytes octets))⟩

/-! ## Streams -/

/-- Where a stream leads. -/
inductive Sink where
  | buffer (index : Nat)
  | file (path : Path)
  | nowhere
  deriving Repr, DecidableEq

/-- How a script goes on. -/
inductive Flow where
  | running
  /-- So many loops are left. -/
  | leaving (loops : Nat)
  /-- So many loops are left, and the next one goes on. -/
  | skipping (loops : Nat)
  | returning
  | ended (status : ExitStatus)
  deriving Repr, DecidableEq

/-- The state of a shell. -/
structure State where
  disk : Disk
  /-- The name of the script. -/
  name : Octets
  parameters : List Octets
  bindings : List (Octets × Octets)
  functions : List (Octets × Command) := []
  /-- What has been printed. -/
  buffers : List Octets := [[], []]
  /-- Where the streams lead, by their numbers. -/
  streams : List (Nat × Sink) := [(1, .buffer 0), (2, .buffer 1)]
  /-- What is left of the standard input. -/
  input : Octets := []
  /-- The line of the command that runs. -/
  line : Nat := 0
  status : Nat := 0
  /-- The status of the last script that ran inside a word. -/
  innerStatus : Nat := 0
  flow : Flow := .running
  /-- Whether a command that fails ends the script. -/
  stopsOnFailure : Bool := false
  /-- Whether a parameter that is not set ends the script. -/
  stopsOnUnset : Bool := false
  /-- The script that runs when this one has ended. -/
  farewell : Octets := []

namespace State

/-- Whether a script has not been told to stop. -/
def isRunning (state : State) : Bool := state.flow == .running

/-- Ends a command. -/
def finish (state : State) (status : Nat) : State := { state with status }

/-- Ends a script with a status. -/
def leave (state : State) (status : Nat) : State :=
  { state with status, flow := .ended (.code (status % 256)) }

/-- Adds octets to a file. -/
def append (state : State) (path : Path) (octets : Octets) : State :=
  let old := (state.disk.readBytes path).toOption.getD []
  match state.disk.write path (old ++ toBytes octets) with
  | .ok disk => { state with disk }
  | .error _ => state

/-- Writes to a stream. -/
def write (state : State) (stream : Nat) (octets : Octets) : State :=
  match state.streams.lookup stream with
  | some (.buffer index) => { state with buffers := state.buffers.modify index (· ++ octets) }
  | some (.file path) => state.append path octets
  | _ => state

/-- Prints a text. -/
def print (state : State) (octets : Octets) : State := state.write 1 octets

/-- Prints a complaint of the shell itself. -/
def complain (state : State) (text : Octets) : State :=
  state.write 2 (state.name ++ ofText s!": {state.line}: " ++ text ++ ['\n'])

/-- Prints a complaint of a program. -/
def mourn (state : State) (text : String) : State := state.write 2 (ofText (text ++ "\n"))

/-! ## Variables -/

/-- The value of a variable. -/
def value? (state : State) (name : Octets) : Option Octets := state.bindings.lookup name

/-- Sets a variable. -/
def set (state : State) (name value : Octets) : State :=
  { state with bindings := (name, value) :: state.bindings.filter (·.1 != name) }

/-- Forgets a variable. -/
def unset (state : State) (name : Octets) : State :=
  { state with bindings := state.bindings.filter (·.1 != name) }

/-! ## Surroundings of commands -/

/-- The state behind commands that change nothing for those behind them. -/
def behind (outer inner : State) : State :=
  let status :=
    match inner.flow with
    | .ended (.code status) => status
    | _ => inner.status
  let flow :=
    match inner.flow with
    | .ended (.signal number) => .ended (.signal number)
    | _ => outer.flow
  let disk := { inner.disk with workingDirectory := outer.disk.workingDirectory }
  { outer with disk, flow, status, buffers := inner.buffers, input := inner.input }

/-- The state with a new buffer that the standard output leads to. -/
def capture (state : State) : State :=
  { state with
    buffers := state.buffers ++ [[]]
    streams := (1, .buffer state.buffers.length) :: state.streams }

/-- What has been captured last, and the state without it. -/
def release (state : State) : Octets × State :=
  (state.buffers.getLast?.getD [], { state with buffers := state.buffers.dropLast })

end State

end NamedExports.Shell
