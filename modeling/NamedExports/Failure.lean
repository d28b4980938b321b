import NamedExports.Path

/-!
# Failures

Everything that can go wrong, as a cause: what was being worked on and why it could not be done.  A
failure has two wordings, `Failure.message` for logs and callers and `Failure.userMessage` for the
person at the command line, who is also told what to do about it.  Its severity says whether it ends
the whole run or only the resolution it arose in.
-/

namespace NamedExports

/-- Why the operating system refused an operation on a file. -/
inductive IoError where
  | notFound
  | permissionDenied
  | notExecutable
  | alreadyExists
  | notADirectory
  | isADirectory
  | nameTooLong
  | tooManyLinks
  | invalidUtf8
  | nulInName
  | other (text : String)
  deriving Repr, DecidableEq

/-- The wording of an operating system error. -/
def IoError.message : IoError → String
  | notFound => "No such file or directory (os error 2)"
  | permissionDenied => "Permission denied (os error 13)"
  | notExecutable => "Exec format error (os error 8)"
  | alreadyExists => "File exists (os error 17)"
  | notADirectory => "Not a directory (os error 20)"
  | isADirectory => "Is a directory (os error 21)"
  | nameTooLong => "File name too long (os error 36)"
  | tooManyLinks => "Too many levels of symbolic links (os error 40)"
  | invalidUtf8 => "stream did not contain valid UTF-8"
  | nulInName => "file name contained an unexpected NUL byte"
  | other text => text

/-- How far a failure reaches. -/
inductive Severity where
  /-- Only the resolution at hand has failed. -/
  | error
  /-- Nothing that follows can succeed. -/
  | critical
  deriving Repr, DecidableEq

/-- A severity as it is printed in front of a message. -/
def Severity.label : Severity → String
  | error => "ERROR"
  | critical => "CRITICAL"

/-- Why a run failed. -/
inductive Failure where
  /-- A JSON module or a package manifest is not valid JSON. -/
  | malformedJson (path : Path) (detail : String)
  /-- No file was found for a specifier. -/
  | moduleNotFound (specifier : String) (base : Path)
  /-- A module could not be read. -/
  | fileRead (path : Path) (cause : IoError)
  /-- A module's source has a syntax error. -/
  | scan (path : Path) (detail : String)
  /-- A module could not be loaded, or what its loader answered could not be understood. -/
  | runtimeLoad (path : Path) (detail : String)
  /-- More modules were reached from an entry than allowed. -/
  | cycleLimitExceeded (entry : Path) (limit : Nat)
  /-- An operation on files that concerns no module. -/
  | io (cause : IoError)
  /-- The settings are invalid. -/
  | config (text : String)
  /-- A configuration file does not exist. -/
  | configNotFound (path : Path)
  /-- A configuration file could not be read. -/
  | configRead (path : Path) (cause : IoError)
  /-- A configuration file is not valid. -/
  | configParse (path : Path) (detail : String)
  /-- An output file could not be written. -/
  | outputWrite (path : Path) (cause : IoError)
  /-- The standard output could not be written. -/
  | stdoutWrite (cause : IoError)
  /-- A report could not be written as JSON. -/
  | jsonSerialize (detail : String)
  deriving Repr, DecidableEq

namespace Failure

/-- The failure in full. -/
def message : Failure → String
  | malformedJson path detail => s!"Malformed JSON in {path.text}: {detail}"
  | moduleNotFound specifier base => s!"Cannot find module '{specifier}' from {base.text}"
  | fileRead path cause => s!"Error reading {path.text}: {cause.message}"
  | scan path detail => s!"Failed to scan {path.text}: {detail}"
  | runtimeLoad path detail => s!"Failed to load {path.text} at runtime: {detail}"
  | cycleLimitExceeded entry limit =>
    s!"Re-export graph of {entry.text} exceeded {limit} scan tasks (cyclic re-exports?)"
  | io cause => s!"IO error: {cause.message}"
  | config text => s!"Configuration error: {text}"
  | configNotFound path => s!"Configuration file not found at {path.text}"
  | configRead path cause => s!"Error reading configuration file {path.text}: {cause.message}"
  | configParse path detail => s!"Error parsing configuration file {path.text}: {detail}"
  | outputWrite path cause => s!"Error writing to output file {path.text}: {cause.message}"
  | stdoutWrite cause => s!"Error writing to stdout: {cause.message}"
  | jsonSerialize detail => s!"JSON serialization error: {detail}"

/-- The failure for the person who ran the program, with advice where there is any. -/
def userMessage : Failure → String
  | moduleNotFound specifier base =>
    s!"Cannot resolve '{specifier}' from '{base.text}'. " ++
      "Check that the package is installed and its entry fields point at an existing file."
  | malformedJson path detail => s!"Invalid JSON in '{path.text}': {detail}."
  | scan path detail => s!"Could not parse '{path.text}' as CommonJS: {detail}"
  | cycleLimitExceeded entry limit =>
    s!"Re-exports reachable from '{entry.text}' did not settle within {limit} files. " ++
      "The package most likely re-exports itself; raise --max-hops if the graph is just large."
  | runtimeLoad path detail => s!"Loading '{path.text}' with node failed: {detail}"
  | configNotFound path =>
    s!"Configuration file not found at '{path.text}'. " ++
      "Create one with --init or drop the --config option."
  | failure => failure.message

/-- Failures of the configuration and of the output are critical. -/
def severity : Failure → Severity
  | config _ | configNotFound _ | configRead .. | configParse .. | stdoutWrite _ | outputWrite .. =>
    .critical
  | _ => .error

/-- Whether the whole run ends. -/
def isCritical (failure : Failure) : Bool := failure.severity == .critical

/-- A failure of the settings that says in which step another error arose. -/
def inContext (context : String) (cause : String) : Failure := .config s!"{context}: {cause}"

end Failure

end NamedExports
