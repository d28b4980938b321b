import NamedExports.Json.Reader
import NamedExports.Trace

/-!
# Traversal of re-exports

All names that an entry exports, those of the modules it exports wholesale included.  Modules are
scanned one after the other from a stack: what a module re-exports is put on the stack in order, so
the last target is scanned next.  A JSON target is read at once and contributes its keys.

Nothing keeps a module from being scanned again, so a cycle never ends by itself.  A limit on the
number of scans ends it.
-/

namespace NamedExports

/-- The keys of the object that a JSON text holds. -/
def jsonKeys (path : Path) (text : String) : Except Failure (List String) :=
  match Json.read text with
  | .ok value => .ok value.keys
  | .error cause => .error (.malformedJson path cause.message)

namespace Traversal

/-- A module to scan, and whether its export is called. -/
structure Task where
  path : Path
  called : Bool
  deriving Repr, DecidableEq

/-- The keys of a JSON file. -/
def readKeys (c : Collaborators) (path : Path) : Traced (List String) := do
  let text ← c.readFile path
  ⟨[], jsonKeys path text⟩

/-- Follows re-export targets from a directory: the keys of those that are JSON files, and tasks for
the others. -/
def follow (c : Collaborators) (base : Path) : List String → Traced (List String × List Task)
  | [] => .done ([], [])
  | target :: rest => do
    let reexport := Reexport.decode target
    let path ← c.resolvePath base reexport.specifier
    if path.isJson then
      let keys ← readKeys c path
      let (names, tasks) ← follow c base rest
      return (keys ++ names, tasks)
    else
      let (names, tasks) ← follow c base rest
      return (names, ⟨path, reexport.called⟩ :: tasks)

/-- The directory that a module's specifiers are resolved from. -/
def directoryOf (path : Path) : Path := path.parent?.getD path

/-- Scans one module and follows its targets. -/
def visit (c : Collaborators) (mode : Mode) (task : Task) : Traced (List String × List Task) := do
  let source ← c.readFile task.path
  let found ← c.scanSource task.path source mode task.called
  let (keys, tasks) ← follow c (directoryOf task.path) found.reexports
  return (found.exports ++ keys, tasks)

/-- The state of a traversal that is under way. -/
structure Journey where
  entry : Path
  mode : Mode
  limit : Nat

/-- Works off a stack of tasks with as many scans as are left. -/
def Journey.run (c : Collaborators) (journey : Journey) : Nat → List Task → Traced (List String)
  | _, [] => .done []
  | 0, _ :: _ => .fail (.cycleLimitExceeded journey.entry journey.limit)
  | scans + 1, task :: waiting => do
    let (names, tasks) ← visit c journey.mode task
    let others ← journey.run c scans (tasks.reverse ++ waiting)
    return names ++ others

/-- The candidate names of an entry.  A JSON entry has its keys and an entry of another kind that is
not scanned has none. -/
def collect (c : Collaborators) (mode : Mode) (limit : Nat) (entry : Path) :
    Traced (List String) :=
  if entry.isJson then readKeys c entry
  else if !entry.isScanned then .done []
  else Journey.run c ⟨entry, mode, limit⟩ limit [⟨entry, false⟩]

end Traversal

end NamedExports
