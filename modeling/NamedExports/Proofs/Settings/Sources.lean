import NamedExports.Proofs.Settings.Setting
import NamedExports.Settings.Load

/-!
# What each source says of each setting

Tables of the sources, setting by setting: the flag or option of the command line, the variable of
the environment and the key of a document, with how its value is read.  A source that is read whole
says of each setting what its table says, so none is left out and none is taken for another.
-/

namespace NamedExports

/-- What follows the first of two steps that both succeed. -/
theorem Except.bind_eq_ok_iff {ε α β : Type} {first : Except ε α} {next : α → Except ε β}
    {result : β} : first >>= next = .ok result ↔ ∃ a, first = .ok a ∧ next a = .ok result := by
  cases first with
  | error cause => simp [bind, Except.bind]
  | ok a => simp [bind, Except.bind]

/-- What a command line sets a setting to.  A flag sets it only if it is given. -/
def Arguments.value? (arguments : Arguments) : (setting : Setting) → Option setting.Value
  | .buildDirectory => arguments.buildDirectory
  | .mode => arguments.mode
  | .fallbackEnabled => if arguments.noFallback then some false else none
  | .nodeBinary => arguments.node
  | .maxHops => arguments.maxHops
  | .threads => arguments.threads
  | .outputFormat => arguments.output
  | .outputFile => arguments.outputFile
  | .useColors => if arguments.noColors then some false else none
  | .quiet => if arguments.quiet then some true else none
  | .verbose => if 0 < arguments.verbosity then some true else none
  | .fallbackPackages | .mainFields | .conditionNames | .extensions => none

/-- A reader that disregards white space at the two ends of a text. -/
def trimmed {α : Type} (read : String → Except String α) (value : String) : Except String α :=
  read (String.ofList (Text.trim value.toList))

open Environment in
/-- The variable of a setting, without what its name starts with, and how its value is read. -/
def Setting.environmentKey? :
    (setting : Setting) → Option (String × (String → Except String setting.Value))
  | .buildDirectory => some ("BUILD_DIR", fun value => .ok ⟨value⟩)
  | .mode => some ("MODE", trimmed readMode)
  | .fallbackEnabled => some ("FALLBACK", trimmed readBool)
  | .fallbackPackages => some ("FALLBACK_PACKAGES", fun value => .ok (readList value))
  | .nodeBinary => some ("NODE", fun value => .ok ⟨value⟩)
  | .maxHops => some ("MAX_HOPS", trimmed readCount)
  | .threads => some ("THREADS", trimmed readCount)
  | .outputFormat => some ("OUTPUT_FORMAT", trimmed readFormat)
  | .mainFields | .conditionNames | .extensions | .outputFile | .useColors | .quiet
  | .verbose => none

/-- What a variable says, if it is set. -/
def readSet {α : Type} (read : String → Except String α) :
    Option String → Except String (Option α)
  | none => .ok none
  | some value => (read value).map some

/-- What the variable of a setting says. -/
def Setting.inEnvironment (host : Host) (group : String) (setting : Setting) :
    Except String (Option setting.Value) :=
  match setting.environmentKey? with
  | none => .ok none
  | some (key, read) => readSet read (Environment.value? host group key)

namespace Environment

variable {host : Host} {group : String}

/-- The variables of settings are those that a group has. -/
theorem mem_keys_iff {key : String} :
    key ∈ keys ↔ ∃ setting : Setting, key ∈ setting.environmentKey?.map Prod.fst := by
  constructor
  · intro h
    simp only [keys, List.mem_cons, List.not_mem_nil, or_false] at h
    rcases h with rfl | rfl | rfl | rfl | rfl | rfl | rfl | rfl
    · exact ⟨.buildDirectory, rfl⟩
    · exact ⟨.mode, rfl⟩
    · exact ⟨.fallbackEnabled, rfl⟩
    · exact ⟨.fallbackPackages, rfl⟩
    · exact ⟨.nodeBinary, rfl⟩
    · exact ⟨.maxHops, rfl⟩
    · exact ⟨.threads, rfl⟩
    · exact ⟨.outputFormat, rfl⟩
  · rintro ⟨setting, h⟩
    cases setting
    all_goals simp_all [Setting.environmentKey?, keys]

end Environment

/-! ## Documents -/

/-- The key of a setting in a document. -/
def Setting.key : Setting → String
  | .buildDirectory => "build_dir"
  | .mode => "mode"
  | .fallbackEnabled => "fallback_enabled"
  | .fallbackPackages => "fallback_packages"
  | .nodeBinary => "node_binary"
  | .mainFields => "main_fields"
  | .conditionNames => "condition_names"
  | .extensions => "extensions"
  | .maxHops => "max_hops"
  | .threads => "threads"
  | .outputFormat => "output_format"
  | .outputFile => "output_file"
  | .useColors => "use_colors"
  | .quiet => "quiet"
  | .verbose => "verbose"

open Toml in
/-- How the value of a setting is read in a document. -/
def Setting.ofToml : (setting : Setting) → Toml.Value → Except Toml.ReadError setting.Value
  | .buildDirectory | .nodeBinary | .outputFile => toPath
  | .mode => toWord Mode.words
  | .fallbackEnabled | .useColors | .quiet | .verbose => toBool
  | .fallbackPackages | .mainFields | .conditionNames | .extensions => toTexts
  | .maxHops | .threads => toNatural
  | .outputFormat => toWord OutputFormat.words

/-- What a document says of a setting. -/
def Setting.inDocument (members : Toml.Members) (setting : Setting) :
    Except Toml.ReadError (Option setting.Value) :=
  Toml.field? setting.ofToml setting.key members

namespace PartialSettings

/-- Settings are refused if something is wrong with them. -/
theorem check_eq_ok_iff {settings : PartialSettings} {path : Path} :
    settings.check path = .ok () ↔ settings.problem? = none := by
  rw [check]
  cases settings.problem? <;> simp

end PartialSettings

end NamedExports
