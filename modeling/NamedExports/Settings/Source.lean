import NamedExports.CommandLine.Arguments
import NamedExports.Host
import NamedExports.Settings.Document

/-!
# Sources of settings

Where settings come from: a configuration file, the environment and the command line.
-/

namespace NamedExports

/-- Something that settings can be loaded from. -/
structure Source where
  name : String
  /-- The source with the higher priority wins. -/
  priority : Nat
  /-- Whether there is anything to load. -/
  isAvailable : Bool
  load : Except Failure PartialSettings

namespace Source

/-- Merges a source into settings.  A source with nothing to load changes nothing. -/
def addTo (source : Source) (settings : PartialSettings) : Except Failure PartialSettings :=
  if source.isAvailable then source.load.map settings.merge else .ok settings

/-- Merges a source into settings, unless it cannot be loaded. -/
def tryAddTo (source : Source) (settings : PartialSettings) : PartialSettings :=
  match source.addTo settings with
  | .ok merged => merged
  | .error _ => settings

end Source

/-! ## Configuration files -/

namespace ConfigFile

/-- The name of a configuration file where none is given. -/
def defaultName : String := ".cjs-exports.toml"

/-- Reads a configuration file, which must exist. -/
def read (host : Host) (path : Path) : Except Failure PartialSettings :=
  if !host.disk.hasEntry path then .error (.configNotFound path)
  else
    match host.disk.readText path with
    | .error cause => .error (.configRead path cause)
    | .ok text => PartialSettings.ofText text path

/-- A configuration file as a source. -/
def source (host : Host) (path : Path) : Source where
  name := s!"config file ({path.text})"
  priority := 20
  isAvailable := host.disk.isFile path
  load := if host.disk.isFile path then read host path else .error (.configNotFound path)

/-- Where configuration files are looked for, in this order. -/
def defaultPaths (host : Host) : List Path :=
  [⟨defaultName⟩] ++ (host.home?.map (·.join defaultName)).toList ++
    (host.configDirectory?.map fun directory =>
      (directory.join "cjs-exports").join "config.toml").toList

/-- The settings of the first configuration file that exists, if there is one. -/
def findDefault (host : Host) : Except Failure (Option PartialSettings) :=
  match (defaultPaths host).find? host.disk.hasEntry with
  | some path => (read host path).map some
  | none => .ok none

/-- Merges the first configuration file that exists into settings, unless it cannot be read. -/
def tryAddDefault (host : Host) (settings : PartialSettings) : PartialSettings :=
  match findDefault host with
  | .ok (some found) => settings.merge found
  | _ => settings

end ConfigFile

/-! ## The environment -/

namespace Environment

/-- What the names of all variables start with. -/
def defaultGroup : String := "CJS_EXPORTS"

/-- The variables that settings are read from, without what their names start with. -/
def keys : List String :=
  ["BUILD_DIR", "MODE", "FALLBACK", "FALLBACK_PACKAGES", "NODE", "MAX_HOPS", "THREADS",
    "OUTPUT_FORMAT"]

/-- The value of a variable of a group. -/
def value? (host : Host) (group key : String) : Option String :=
  host.value? s!"{group}_{key}"

/-- Reads a variable, without the white space around its value. -/
def read? {α : Type} (host : Host) (group key : String) (read : String → Except String α) :
    Except Failure (Option α) :=
  match value? host group key with
  | none => .ok none
  | some value =>
    match read (String.ofList (Text.trim value.toList)) with
    | .ok meaning => .ok (some meaning)
    | .error cause => .error (.config s!"invalid value '{value}' for {group}_{key}: {cause}")

/-- A mode. -/
def readMode (text : String) : Except String Mode :=
  match Mode.parse? text with
  | some mode => .ok mode
  | none => .error s!"Invalid evaluation mode: {text}"

/-- An output format. -/
def readFormat (text : String) : Except String OutputFormat :=
  match OutputFormat.parse? text with
  | some format => .ok format
  | none => .error s!"Invalid output format: {text}"

/-- A truth value. -/
def readBool : String → Except String Bool
  | "true" => .ok true
  | "false" => .ok false
  | _ => .error "provided string was not \x60true\x60 or \x60false\x60"

/-- A count. -/
def readCount (text : String) : Except String Nat :=
  (Text.readNatural text.toList).mapError Text.NumeralError.message

/-- A list with commas between its items, without empty items. -/
def readList (text : String) : List String :=
  (((Text.splitOn ',' text.toList).map Text.trim).filter (! ·.isEmpty)).map String.ofList

/-- The settings in the variables of a group.  One invalid variable makes all of them invalid. -/
def settings (host : Host) (group : String) : Except Failure PartialSettings := do
  return {
    buildDirectory := (value? host group "BUILD_DIR").map Path.mk
    mode := ← read? host group "MODE" readMode
    fallbackEnabled := ← read? host group "FALLBACK" readBool
    fallbackPackages := (value? host group "FALLBACK_PACKAGES").map readList
    nodeBinary := (value? host group "NODE").map Path.mk
    maxHops := ← read? host group "MAX_HOPS" readCount
    threads := ← read? host group "THREADS" readCount
    outputFormat := ← read? host group "OUTPUT_FORMAT" readFormat }

/-- The variables of a group as a source. -/
def source (host : Host) (group : String) : Source where
  name := s!"{group} environment variables"
  priority := 10
  isAvailable := keys.any fun key => (value? host group key).isSome
  load := settings host group

end Environment

/-! ## The command line -/

/-- Command-line arguments as a source. -/
def Arguments.source (arguments : Arguments) : Source where
  name := "command-line arguments"
  priority := 30
  isAvailable := true
  load := .ok arguments.settings

end NamedExports
