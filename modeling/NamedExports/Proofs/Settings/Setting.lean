import NamedExports.Settings

/-!
# Settings one by one

The fifteen settings as an index, so that what holds of each of them is said once.  Merging decides
for each setting on its own, and so do the defaults: what one setting is never depends on another.
-/

namespace NamedExports

/-- The settings of a run. -/
inductive Setting where
  | buildDirectory
  | mode
  | fallbackEnabled
  | fallbackPackages
  | nodeBinary
  | mainFields
  | conditionNames
  | extensions
  | maxHops
  | threads
  | outputFormat
  | outputFile
  | useColors
  | quiet
  | verbose
  deriving Repr, DecidableEq

/-- All settings. -/
def Setting.all : List Setting :=
  [.buildDirectory, .mode, .fallbackEnabled, .fallbackPackages, .nodeBinary, .mainFields,
    .conditionNames, .extensions, .maxHops, .threads, .outputFormat, .outputFile, .useColors,
    .quiet, .verbose]

/-- What a setting is set to. -/
abbrev Setting.Value : Setting → Type
  | .buildDirectory | .nodeBinary | .outputFile => Path
  | .mode => Mode
  | .fallbackEnabled | .useColors | .quiet | .verbose => Bool
  | .fallbackPackages | .mainFields | .conditionNames | .extensions => List String
  | .maxHops | .threads => Nat
  | .outputFormat => OutputFormat

/-- The value of a setting, if it is set. -/
def PartialSettings.get (settings : PartialSettings) : (setting : Setting) → Option setting.Value
  | .buildDirectory => settings.buildDirectory
  | .mode => settings.mode
  | .fallbackEnabled => settings.fallbackEnabled
  | .fallbackPackages => settings.fallbackPackages
  | .nodeBinary => settings.nodeBinary
  | .mainFields => settings.mainFields
  | .conditionNames => settings.conditionNames
  | .extensions => settings.extensions
  | .maxHops => settings.maxHops
  | .threads => settings.threads
  | .outputFormat => settings.outputFormat
  | .outputFile => settings.outputFile
  | .useColors => settings.useColors
  | .quiet => settings.quiet
  | .verbose => settings.verbose

/-- The value of a setting.  Only an output file need not be there. -/
def Settings.get (settings : Settings) : (setting : Setting) → Option setting.Value
  | .buildDirectory => settings.buildDirectory
  | .mode => settings.mode
  | .fallbackEnabled => settings.fallbackEnabled
  | .fallbackPackages => settings.fallbackPackages
  | .nodeBinary => settings.nodeBinary
  | .mainFields => settings.mainFields
  | .conditionNames => settings.conditionNames
  | .extensions => settings.extensions
  | .maxHops => settings.maxHops
  | .threads => settings.threads
  | .outputFormat => settings.outputFormat
  | .outputFile => settings.outputFile
  | .useColors => settings.useColors
  | .quiet => settings.quiet
  | .verbose => settings.verbose

/-! ## Settings are what each of them is -/

/-- The settings that are so, one by one. -/
def PartialSettings.ofGet (value : (setting : Setting) → Option setting.Value) :
    PartialSettings where
  buildDirectory := value .buildDirectory
  mode := value .mode
  fallbackEnabled := value .fallbackEnabled
  fallbackPackages := value .fallbackPackages
  nodeBinary := value .nodeBinary
  mainFields := value .mainFields
  conditionNames := value .conditionNames
  extensions := value .extensions
  maxHops := value .maxHops
  threads := value .threads
  outputFormat := value .outputFormat
  outputFile := value .outputFile
  useColors := value .useColors
  quiet := value .quiet
  verbose := value .verbose

@[simp] theorem PartialSettings.ofGet_get (settings : PartialSettings) :
    ofGet settings.get = settings := rfl

/-- Partial settings that agree in each setting are the same. -/
theorem PartialSettings.eq_of_get {first second : PartialSettings}
    (h : ∀ setting, first.get setting = second.get setting) : first = second := by
  rw [← ofGet_get first, ← ofGet_get second, funext h]

/-! ## Merging and defaults -/

namespace PartialSettings

variable (first second : PartialSettings) (setting : Setting)

@[simp] theorem get_empty : ({} : PartialSettings).get setting = none := by
  cases setting <;> rfl

/-- In merged settings the second one wins, setting by setting. -/
@[simp] theorem get_merge :
    (first.merge second).get setting = (second.get setting).or (first.get setting) := by
  cases setting <;> rfl

/-- A default stands for what is missing, setting by setting. -/
@[simp] theorem get_orElse (default : Settings) :
    (first.orElse default).get setting = (first.get setting).or (default.get setting) := by
  have hdefault {α : Type} (value : Option α) (default : α) :
      some (value.getD default) = value.or (some default) := by
    cases value <;> rfl
  cases setting
  case outputFile => rfl
  all_goals exact hdefault _ _

/-- Nothing set before a source leaves the source. -/
theorem empty_merge : ({} : PartialSettings).merge first = first :=
  eq_of_get fun setting => by rw [get_merge, get_empty, Option.or_none]

end PartialSettings

end NamedExports
