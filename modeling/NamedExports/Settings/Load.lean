import NamedExports.Settings.Source
import NamedExports.Settings.Template

/-!
# Loading settings

The settings of a run: those of a configuration file, of the environment and of the command line, in
this order, with defaults for what none of them sets.  The result must be valid as a whole, whatever
its parts are.
-/

namespace NamedExports

namespace Settings

/-- What is wrong with settings as far as the disk does not matter, the first problem only. -/
def problem? (settings : Settings) : Option String :=
  if settings.maxHops == 0 then some "max_hops must be at least 1"
  else if settings.threads == 0 then some "threads must be at least 1"
  else if settings.mainFields.isEmpty then some "main_fields must not be empty"
  else if settings.extensions.isEmpty then some "extensions must not be empty"
  else if settings.fallbackPackages.any PartialSettings.isBlank then
    some "fallback_packages must not contain empty names"
  else none

/-- What is wrong with the file that the report is written to: its directory does not exist. -/
def outputProblem? (settings : Settings) (disk : Disk) : Option String :=
  ((settings.outputFile.bind Path.parent?).filter fun parent =>
    !parent.isEmpty && !disk.isDirectory parent).map fun parent =>
      s!"Output directory does not exist: {parent.text}"

/-- The first problem of settings on a disk. -/
def anyProblem? (settings : Settings) (disk : Disk) : Option String :=
  if !disk.isDirectory settings.buildDirectory then
    some s!"Build directory does not exist: {settings.buildDirectory.text}"
  else settings.problem?.or (settings.outputProblem? disk)

/-- Refuses settings with a problem. -/
def check (settings : Settings) (disk : Disk) : Except Failure Unit :=
  match settings.anyProblem? disk with
  | some problem => .error (.config problem)
  | none => .ok ()

/-- The valid settings that partial settings amount to. -/
def build (host : Host) (settings : PartialSettings) : Except Failure Settings := do
  let settings := settings.toSettings host.processors
  settings.check host.disk
  .ok settings

/-- The settings of the configuration file: the one that is asked for, which must be valid, or the
first one that exists, unless it is invalid. -/
def ofFile (host : Host) (config : Option Path) : Except Failure PartialSettings :=
  match config with
  | some path => ConfigFile.read host path
  | none => .ok (ConfigFile.tryAddDefault host {})

/-- What all sources of a run set together.  An invalid environment is ignored. -/
def gather (host : Host) (group : String) (arguments : Arguments) :
    Except Failure PartialSettings := do
  let settings ← ofFile host arguments.config
  arguments.source.addTo ((Environment.source host group).tryAddTo settings)

/-- Loads the settings of a run. -/
def load (host : Host) (group : String) (arguments : Arguments) : Except Failure Settings := do
  build host (← gather host group arguments)

end Settings

namespace ConfigFile

/-- Makes a new configuration file, and its directory if that does not exist. -/
def create (disk : Disk) (path : Path) : Except Failure Disk := do
  let disk ←
    match (path.parent?).filter fun parent => !parent.isEmpty && !disk.hasEntry parent with
    | none => pure disk
    | some parent => (disk.makeDirectoryTree parent).mapError Failure.io
  (disk.writeText path Settings.template).mapError (Failure.outputWrite path)

end ConfigFile

end NamedExports
