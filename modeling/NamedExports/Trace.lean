import NamedExports.Failure
import NamedExports.Mode
import NamedExports.ModuleValue
import NamedExports.Scan.Findings

/-!
# Collaborators and traces

A resolution reads files, resolves specifiers, scans sources and loads modules through
collaborators, which are arbitrary functions.  A `Traced` computation records every call it makes of
them, in order; at the first failure it stops, with the calls made so far.
-/

namespace NamedExports

/-- What a resolution works with. -/
structure Collaborators where
  /-- The text of a file. -/
  read : Path → Except Failure String
  /-- The path that a specifier names, seen from a directory. -/
  resolve : Path → String → Except Failure Path
  /-- What a source exports, in a mode, or what the call of its export does. -/
  scan : Path → String → Mode → Bool → Except Failure Findings
  /-- The value of a module that is loaded in a mode. -/
  load : Path → Mode → Except Failure ModuleValue

/-- A call of a collaborator. -/
inductive Call where
  | read (path : Path)
  | resolve (base : Path) (specifier : String)
  | scan (path : Path) (mode : Mode) (called : Bool)
  | load (path : Path) (mode : Mode)
  deriving Repr, DecidableEq

/-- The calls that a computation made, and how it ended. -/
structure Traced (α : Type) where
  calls : List Call
  outcome : Except Failure α

namespace Traced

/-- A result without any call. -/
def done {α : Type} (value : α) : Traced α := ⟨[], .ok value⟩

/-- A failure without any call. -/
def fail {α : Type} (failure : Failure) : Traced α := ⟨[], .error failure⟩

/-- One call and what it answered. -/
def call {α : Type} (made : Call) (outcome : Except Failure α) : Traced α := ⟨[made], outcome⟩

/-- A computation that goes on with the result of another, unless that failed. -/
def andThen {α β : Type} (first : Traced α) (next : α → Traced β) : Traced β :=
  match first.outcome with
  | .error failure => ⟨first.calls, .error failure⟩
  | .ok value =>
    let rest := next value
    ⟨first.calls ++ rest.calls, rest.outcome⟩

instance : Monad Traced where
  pure := done
  bind := andThen

end Traced

namespace Collaborators

/-- Reads a file. -/
def readFile (c : Collaborators) (path : Path) : Traced String :=
  .call (.read path) (c.read path)

/-- Resolves a specifier. -/
def resolvePath (c : Collaborators) (base : Path) (specifier : String) : Traced Path :=
  .call (.resolve base specifier) (c.resolve base specifier)

/-- Scans a source. -/
def scanSource (c : Collaborators) (path : Path) (source : String) (mode : Mode) (called : Bool) :
    Traced Findings :=
  .call (.scan path mode called) (c.scan path source mode called)

/-- Loads a module. -/
def loadModule (c : Collaborators) (path : Path) (mode : Mode) : Traced ModuleValue :=
  .call (.load path mode) (c.load path mode)

end Collaborators

end NamedExports
