import Mathlib.Control.Monad.Basic
import NamedExports.Proofs.Settings.Sources

/-!
# Which source wins

Each setting of a run is what the command line says, or else the environment, or else the
configuration file, or else the default.  An environment with an invalid variable says nothing at
all, and so does an invalid file that was not asked for; one that was asked for ends the run.
-/

namespace NamedExports

/-! ## The environment -/

/-- What the environment sets a setting to: nothing unless each of its variables is valid. -/
def Setting.fromEnvironment (host : Host) (group : String) (setting : Setting) :
    Option setting.Value :=
  if all.all fun other => (other.inEnvironment host group).isOk then
    (setting.inEnvironment host group).toOption.join
  else none

namespace Environment

variable {host : Host} {group : String}

/-- The names of a group's variables. -/
def names (group : String) : List String := keys.map fun key => s!"{group}_{key}"

end Environment

/-- The host without variables of some names. -/
def Host.unset (host : Host) (names : List String) : Host :=
  { host with environment := host.environment.filter fun entry => !names.contains entry.1 }

namespace Host

variable {host : Host} {names : List String} {name : String}

end Host

namespace ConfigFile

/-- The configuration file that is used: the one that is asked for, or the first one of the usual
places that exists. -/
def path? (host : Host) (config : Option Path) : Option Path :=
  config.or ((defaultPaths host).find? host.disk.hasEntry)

/-- The document in a configuration file, if the file is valid. -/
def document? (host : Host) (path : Path) : Option Toml.Members :=
  if (read host path).isOk then
    (host.disk.readText path).toOption.bind fun text => (Toml.read text).toOption
  else none

end ConfigFile

/-- What the configuration file sets a setting to: nothing unless the file is valid. -/
def Setting.fromFile (host : Host) (config : Option Path) (setting : Setting) :
    Option setting.Value :=
  ((ConfigFile.path? host config).bind (ConfigFile.document? host)).bind fun members =>
    (setting.inDocument members).toOption.join

namespace ConfigFile

variable {host : Host} {path : Path}

end ConfigFile

namespace Settings

variable {host : Host} {group : String} {arguments : Arguments}

/-- What all sources set a setting to. -/
def merged (host : Host) (group : String) (arguments : Arguments) (setting : Setting) :
    Option setting.Value :=
  (arguments.value? setting).or
    ((setting.fromEnvironment host group).or (setting.fromFile host arguments.config))

/-- A host with an invalid configuration file in the working directory, a valid one in the home
directory and an invalid variable. -/
def exampleHost : Host where
  disk := {
    entries := [
      ([ConfigFile.defaultName.toList], .file (Text.Utf8.encode "mode".toList) false),
      (["home".toList], .directory),
      (["home".toList, ConfigFile.defaultName.toList],
        .file (Text.Utf8.encode "max_hops = 3".toList) false)]
    workingDirectory := [] }
  environment :=
    [("HOME", "/home"), ("CJS_EXPORTS_MODE", "development"), ("CJS_EXPORTS_THREADS", "many")]
  processors := 4
  runner := fun _ => .error .notFound
  workerError := fun _ => none
  outputError := none

end Settings

end NamedExports
