import NamedExports.Fallback
import NamedExports.Mode
import NamedExports.Path

/-!
# Settings

What a run is controlled by.  Settings come from several sources, each of which sets some of them,
as `PartialSettings`; merging them lets a later source win, setting by setting, and what no source
sets has a default.
-/

namespace NamedExports

/-- How a report is written. -/
inductive OutputFormat where
  | text
  | json
  deriving Repr, DecidableEq, Inhabited

namespace OutputFormat

/-- A format's name. -/
def word : OutputFormat → String
  | text => "text"
  | json => "json"

/-- The formats by their names. -/
def words : List (String × OutputFormat) := [("text", text), ("json", json)]

/-- Reads a format's name, in letters of either case. -/
def parse? (name : String) : Option OutputFormat :=
  match name.toLower with
  | "text" => some .text
  | "json" => some .json
  | _ => none

end OutputFormat

/-- All settings of a run. -/
structure Settings where
  /-- The directory that specifiers are resolved from. -/
  buildDirectory : Path
  mode : Mode
  /-- Whether modules may be loaded at all. -/
  fallbackEnabled : Bool
  /-- The packages that may be loaded. -/
  fallbackPackages : List String
  /-- The program that loads modules. -/
  nodeBinary : Path
  mainFields : List String
  conditionNames : List String
  extensions : List String
  /-- The number of scans that one request may take. -/
  maxHops : Nat
  /-- The number of workers of a batch. -/
  threads : Nat
  outputFormat : OutputFormat
  /-- The file that the report is written to, if it is not printed. -/
  outputFile : Option Path
  useColors : Bool
  /-- Whether only names are reported. -/
  quiet : Bool
  /-- Whether build directories are reported. -/
  verbose : Bool
  deriving Repr, DecidableEq

/-- Settings of which any may be missing. -/
structure PartialSettings where
  buildDirectory : Option Path := none
  mode : Option Mode := none
  fallbackEnabled : Option Bool := none
  fallbackPackages : Option (List String) := none
  nodeBinary : Option Path := none
  mainFields : Option (List String) := none
  conditionNames : Option (List String) := none
  extensions : Option (List String) := none
  maxHops : Option Nat := none
  threads : Option Nat := none
  outputFormat : Option OutputFormat := none
  outputFile : Option Path := none
  useColors : Option Bool := none
  quiet : Option Bool := none
  verbose : Option Bool := none
  deriving Repr, DecidableEq

namespace Settings

/-- The settings where nothing is set, given the number of processors. -/
def standard (processors : Nat) : Settings where
  buildDirectory := ⟨"."⟩
  mode := .production
  fallbackEnabled := true
  fallbackPackages := FallbackPolicy.defaultPackages
  nodeBinary := ⟨"node"⟩
  mainFields := ["browser", "module", "main"]
  conditionNames := ["browser", "require", "default"]
  extensions := ["js", "cjs", "json"]
  maxHops := 10000
  threads := processors
  outputFormat := .text
  outputFile := none
  useColors := true
  quiet := false
  verbose := false

/-- The policy that settings ask for. -/
def fallbackPolicy (settings : Settings) : FallbackPolicy :=
  ⟨settings.fallbackEnabled, settings.fallbackPackages⟩

end Settings

namespace PartialSettings

/-- Two partial settings, of which the second wins. -/
def merge (first second : PartialSettings) : PartialSettings where
  buildDirectory := second.buildDirectory.or first.buildDirectory
  mode := second.mode.or first.mode
  fallbackEnabled := second.fallbackEnabled.or first.fallbackEnabled
  fallbackPackages := second.fallbackPackages.or first.fallbackPackages
  nodeBinary := second.nodeBinary.or first.nodeBinary
  mainFields := second.mainFields.or first.mainFields
  conditionNames := second.conditionNames.or first.conditionNames
  extensions := second.extensions.or first.extensions
  maxHops := second.maxHops.or first.maxHops
  threads := second.threads.or first.threads
  outputFormat := second.outputFormat.or first.outputFormat
  outputFile := second.outputFile.or first.outputFile
  useColors := second.useColors.or first.useColors
  quiet := second.quiet.or first.quiet
  verbose := second.verbose.or first.verbose

/-- The settings that result where a default stands for what is missing. -/
def orElse (settings : PartialSettings) (default : Settings) : Settings where
  buildDirectory := settings.buildDirectory.getD default.buildDirectory
  mode := settings.mode.getD default.mode
  fallbackEnabled := settings.fallbackEnabled.getD default.fallbackEnabled
  fallbackPackages := settings.fallbackPackages.getD default.fallbackPackages
  nodeBinary := settings.nodeBinary.getD default.nodeBinary
  mainFields := settings.mainFields.getD default.mainFields
  conditionNames := settings.conditionNames.getD default.conditionNames
  extensions := settings.extensions.getD default.extensions
  maxHops := settings.maxHops.getD default.maxHops
  threads := settings.threads.getD default.threads
  outputFormat := settings.outputFormat.getD default.outputFormat
  outputFile := settings.outputFile.or default.outputFile
  useColors := settings.useColors.getD default.useColors
  quiet := settings.quiet.getD default.quiet
  verbose := settings.verbose.getD default.verbose

/-- The settings that result on a machine with so many processors. -/
def toSettings (settings : PartialSettings) (processors : Nat) : Settings :=
  settings.orElse (Settings.standard processors)

/-- Settings of which none is missing, but for the output file. -/
def ofSettings (settings : Settings) : PartialSettings where
  buildDirectory := settings.buildDirectory
  mode := settings.mode
  fallbackEnabled := settings.fallbackEnabled
  fallbackPackages := settings.fallbackPackages
  nodeBinary := settings.nodeBinary
  mainFields := settings.mainFields
  conditionNames := settings.conditionNames
  extensions := settings.extensions
  maxHops := settings.maxHops
  threads := settings.threads
  outputFormat := settings.outputFormat
  outputFile := settings.outputFile
  useColors := settings.useColors
  quiet := settings.quiet
  verbose := settings.verbose

end PartialSettings

end NamedExports
