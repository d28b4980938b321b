import NamedExports.Loading.Loader
import NamedExports.Package.Search
import NamedExports.Report
import NamedExports.Scan.Exports
import NamedExports.Script.Program
import NamedExports.Settings.Load

/-!
# Running a command

What a command line does on a host: it resolves its specifiers and reports on them, or makes a
configuration file.  The exit code is 0 if all went well, 1 if a specifier could not be resolved,
and 2 if the run as a whole failed.
-/

namespace NamedExports

/-- What the source of a module exports. -/
def scanSource (path : Path) (source : String) (mode : Mode) (called : Bool) :
    Except Failure Findings :=
  match Script.Program.read source.toList with
  | .ok program => .ok (program.findings mode called)
  | .error cause => .error (.scan path cause.message)

namespace Settings

/-- What searches for modules prefer. -/
def searchOptions (settings : Settings) : Package.SearchOptions where
  mainFields := settings.mainFields
  conditions := settings.conditionNames
  extensions := settings.extensions

/-- The collaborators that work on a host's disk. -/
def collaborators (settings : Settings) (host : Host) : Collaborators where
  read path :=
    (host.disk.readLossy path).mapError (Failure.fileRead path)
  resolve := settings.searchOptions.resolve host.disk
  scan := scanSource
  load := Loading.load host.runner settings.nodeBinary

/-- The resolver that settings ask for. -/
def resolver (settings : Settings) (host : Host) : Resolver where
  collaborators := settings.collaborators host
  policy := settings.fallbackPolicy
  limit := settings.maxHops

/-- The requests for specifiers. -/
def requests (settings : Settings) (specifiers : List String) : List Request :=
  specifiers.map fun specifier => ⟨settings.buildDirectory, specifier, settings.mode⟩

/-- How a text report is shown.  There are no colours in a file. -/
def textOptions (settings : Settings) : Report.TextOptions where
  colors := settings.useColors && settings.outputFile.isNone
  verbose := settings.verbose
  quiet := settings.quiet

end Settings

/-- Resolves requests with so many workers. -/
def Host.resolveBatch (host : Host) (resolver : Resolver) (requests : List Request)
    (threads : Nat) : Except Failure (List BatchEntry) :=
  match host.workerError threads with
  | some cause => .error (.inContext s!"failed to build a pool of {threads} threads" cause)
  | none => .ok (Batch.run resolver requests)

/-- The report on a batch.  JSON tells the directory of each request, which must be a text. -/
def Host.report (host : Host) (settings : Settings) (entries : List BatchEntry) :
    Except Failure String :=
  if settings.outputFormat == .json &&
      entries.any fun entry => host.isGarbled entry.request.buildDirectory then
    .error (.jsonSerialize "path contains invalid UTF-8 characters")
  else
    .ok (Report.render settings.outputFormat settings.textOptions entries)

/-- What a run leaves behind. -/
structure RunResult where
  disk : Disk
  stdout : String
  stderr : String
  exitCode : Nat

/-- What a command does until it has succeeded: the disk behind it, what it prints, and whether
every request was resolved. -/
structure Effect where
  disk : Disk
  stdout : String
  complete : Bool

namespace Command

/-- Prints a text. -/
def print (host : Host) (text : String) : Except Failure Effect :=
  match host.outputError with
  | some cause => .error (.stdoutWrite cause)
  | none => .ok ⟨host.disk, text, true⟩

/-- Writes a text to a file, or prints it. -/
def output (host : Host) (file : Option Path) (text : String) : Except Failure Effect :=
  match file with
  | none => print host text
  | some path =>
    ((host.disk.writeText path text).mapError (Failure.outputWrite path)).map
      fun disk => ⟨disk, "", true⟩

/-- Resolves the specifiers of a command line and reports on them. -/
def resolve (host : Host) (arguments : Arguments) : Except Failure Effect := do
  let settings ← Settings.load host Environment.defaultGroup arguments
  let entries ← host.resolveBatch (settings.resolver host)
    (settings.requests arguments.specifiers) settings.threads
  let report ← host.report settings entries
  let effect ← output host settings.outputFile report
  .ok { effect with complete := entries.all (! ·.isFailure) }

/-- Makes a configuration file in the working directory, unless there is one. -/
def initialise (host : Host) : Except Failure Effect := do
  let path : Path := ⟨ConfigFile.defaultName⟩
  if host.disk.hasEntry path then
    print host (Report.unlines
      [s!"Configuration file already exists at: {path.text}",
        "To overwrite it, delete the file first and run this command again."])
  else
    let disk ← ConfigFile.create host.disk path
    print { host with disk } (Report.unlines
      [s!"Created default configuration file at: {path.text}",
        "Every setting is commented out; uncomment the ones you want to change."])

/-- Does what a command line asks for. -/
def execute (host : Host) (arguments : Arguments) : Except Failure Effect :=
  if arguments.init then initialise host else resolve host arguments

/-- The exit code of a run that failed. -/
def failureCode : Severity → Nat
  | .error => 1
  | .critical => 2

/-- Runs a command. -/
def run (host : Host) (arguments : Arguments) : RunResult :=
  match execute host arguments with
  | .ok effect => ⟨effect.disk, effect.stdout, "", if effect.complete then 0 else 1⟩
  | .error failure =>
    ⟨host.disk, "", s!"{failure.severity.label}: {failure.userMessage}\n",
      failureCode failure.severity⟩

end Command

/-! ## The program -/

/-- The name and the version of the program. -/
def versionText : String := "cjs-exports 0.1.0\n"

/-- How the program is used. -/
def usageText : String := "Usage: cjs-exports [OPTIONS] [SPECIFIERS]...\n"

/-- Runs a command line, without the name of the program. -/
def Command.main (host : Host) (words : List String) : RunResult :=
  match Arguments.read words with
  | .ok arguments => Command.run host arguments
  | .error .versionWanted => ⟨host.disk, versionText, "", UsageError.versionWanted.exitCode⟩
  | .error .helpWanted => ⟨host.disk, usageText, "", UsageError.helpWanted.exitCode⟩
  | .error cause => ⟨host.disk, "", s!"error: {cause.message}\n\n{usageText}", cause.exitCode⟩

end NamedExports
