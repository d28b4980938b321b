import NamedExports.CommandLine.Command
import NamedExports.Proofs.Fallback
import NamedExports.Proofs.Settings.Merging
import NamedExports.Proofs.Settings.Precedence

/-!
# Valid settings

Settings are checked twice: those of a configuration file as they are read, setting by setting, and
those of a run when they are built, whatever they come from.  The first check is a condition on each
value alone, so it survives merging, and the defaults meet it too; hence it implies all of the
second check that is not about the disk.  The second check is what a run relies on: it starts only
with settings that are valid on its disk.
-/

namespace NamedExports

/-- A check finds nothing if its first condition does not hold and neither does any other. -/
theorem ite_problem_eq_none_iff {condition : Bool} {problem : String} {rest : Option String} :
    (if condition then some problem else rest) = none ↔ condition = false ∧ rest = none := by
  cases condition <;> simp

/-! ## Settings of a configuration file -/

/-- The values that a configuration file may set a setting to. -/
def Setting.Allows : (setting : Setting) → setting.Value → Prop
  | .buildDirectory, path | .outputFile, path => path.isEmpty = false
  | .fallbackPackages, packages => ∀ package ∈ packages, Text.trim package.toList ≠ []
  | .mainFields, entries | .extensions, entries => entries ≠ []
  | .maxHops, count | .threads, count => 1 ≤ count
  | _, _ => True

namespace PartialSettings

variable {first second given : PartialSettings}

/-- A text is blank if nothing of it is left after trimming. -/
theorem isBlank_eq_false_iff {text : String} :
    isBlank text = false ↔ Text.trim text.toList ≠ [] := by
  rw [isBlank, List.isEmpty_eq_false_iff]

/-- Nothing is wrong with settings if nothing is wrong with any value that is set. -/
theorem problem?_eq_none_iff :
    given.problem? = none ↔
      ∀ (setting : Setting) value, given.get setting = some value → setting.Allows value := by
  have hcount {count : Option Nat} :
      (count == some 0) = false ↔ ∀ n, count = some n → 1 ≤ n := by
    cases count <;> simp [Nat.one_le_iff_ne_zero]
  have hany {α : Type} {found : Option α} {bad : α → Bool} :
      found.any bad = false ↔ ∀ value, found = some value → bad value = false := by
    cases found <;> simp
  simp only [problem?, ite_problem_eq_none_iff, hcount, hany, List.any_eq_false, Bool.not_eq_true,
    isBlank_eq_false_iff, List.isEmpty_eq_false_iff, and_true]
  constructor
  · rintro ⟨hdirectory, hpackages, hfields, hextensions, hhops, hthreads, hfile⟩ setting
    cases setting
    case buildDirectory => exact hdirectory
    case fallbackPackages => exact hpackages
    case mainFields => exact hfields
    case extensions => exact hextensions
    case maxHops => exact hhops
    case threads => exact hthreads
    case outputFile => exact hfile
    all_goals exact fun _ _ => trivial
  · intro h
    exact ⟨h .buildDirectory, h .fallbackPackages, h .mainFields, h .extensions, h .maxHops,
      h .threads, h .outputFile⟩

/-- Merged settings have no value that neither of the two has. -/
theorem problem?_merge (hfirst : first.problem? = none) (hsecond : second.problem? = none) :
    (first.merge second).problem? = none := by
  rw [problem?_eq_none_iff] at hfirst hsecond ⊢
  intro setting value h
  rw [get_merge, Option.or_eq_some_iff] at h
  rcases h with h | ⟨-, h⟩
  · exact hsecond setting value h
  · exact hfirst setting value h

end PartialSettings

/-! ## Settings of a run -/

namespace Settings

/-- What settings must be on every disk. -/
structure IsSound (settings : Settings) : Prop where
  maxHops : 1 ≤ settings.maxHops
  threads : 1 ≤ settings.threads
  mainFields : settings.mainFields ≠ []
  extensions : settings.extensions ≠ []
  fallbackPackages : ∀ package ∈ settings.fallbackPackages, Text.trim package.toList ≠ []

/-- What settings must be to be used on a disk. -/
structure IsValid (settings : Settings) (disk : Disk) : Prop extends IsSound settings where
  buildDirectory : disk.isDirectory settings.buildDirectory = true
  outputFile : ∀ file parent, settings.outputFile = some file → file.parent? = some parent →
    parent.isEmpty = false → disk.isDirectory parent = true

variable {settings : Settings} {given : PartialSettings} {disk : Disk} {host : Host}
  {group : String} {arguments : Arguments} {processors : Nat}

/-- Settings have no problem of their own exactly if they are sound. -/
theorem problem?_eq_none_iff : settings.problem? = none ↔ settings.IsSound := by
  simp only [problem?, ite_problem_eq_none_iff, beq_eq_false_iff_ne, ← Nat.one_le_iff_ne_zero,
    List.isEmpty_eq_false_iff, List.any_eq_false, Bool.not_eq_true,
    PartialSettings.isBlank_eq_false_iff, and_true]
  constructor
  · rintro ⟨hhops, hthreads, hfields, hextensions, hpackages⟩
    exact ⟨hhops, hthreads, hfields, hextensions, hpackages⟩
  · rintro ⟨hhops, hthreads, hfields, hextensions, hpackages⟩
    exact ⟨hhops, hthreads, hfields, hextensions, hpackages⟩

/-- The output file is no problem exactly if the directory that it is to stand in exists. -/
theorem outputProblem?_eq_none_iff :
    settings.outputProblem? disk = none ↔
      ∀ file parent, settings.outputFile = some file → file.parent? = some parent →
        parent.isEmpty = false → disk.isDirectory parent = true := by
  rw [outputProblem?, Option.map_eq_none_iff, Option.filter_eq_none_iff]
  simp only [Option.bind_eq_some_iff]
  constructor
  · intro h file parent hfile hparent hnamed
    simpa [hnamed] using h parent ⟨file, hfile, hparent⟩
  · rintro h parent ⟨file, hfile, hparent⟩
    cases hnamed : parent.isEmpty with
    | true => simp
    | false => simp [h file parent hfile hparent hnamed]

/-- The check passes exactly for valid settings. -/
theorem check_eq_ok_iff : settings.check disk = .ok () ↔ settings.IsValid disk := by
  have hcheck : settings.check disk = .ok () ↔ settings.anyProblem? disk = none := by
    rw [check]
    cases settings.anyProblem? disk <;> simp
  rw [hcheck, anyProblem?]
  cases hdirectory : disk.isDirectory settings.buildDirectory with
  | false =>
    refine iff_of_false (by simp) fun hvalid => ?_
    rw [hvalid.buildDirectory] at hdirectory
    cases hdirectory
  | true =>
    simp only [Bool.not_true, Bool.false_eq_true, if_false, Option.or_eq_none_iff,
      problem?_eq_none_iff, outputProblem?_eq_none_iff]
    constructor
    · rintro ⟨hsound, hfile⟩
      exact ⟨hsound, hdirectory, hfile⟩
    · rintro ⟨hsound, -, hfile⟩
      exact ⟨hsound, hfile⟩

/-- Settings are built from whatever is merged exactly if what results is valid. -/
theorem build_eq_ok_iff :
    build host given = .ok settings ↔
      settings = given.toSettings host.processors ∧ settings.IsValid host.disk := by
  simp only [build, Except.bind_eq_ok_iff, Except.ok.injEq]
  constructor
  · rintro ⟨_, hcheck, rfl⟩
    exact ⟨rfl, check_eq_ok_iff.mp hcheck⟩
  · rintro ⟨rfl, hvalid⟩
    exact ⟨(), check_eq_ok_iff.mpr hvalid, rfl⟩

/-- Settings are loaded exactly if they can be built from the three sources. -/
theorem load_eq_ok_iff :
    load host group arguments = .ok settings ↔
      ∃ file, ofFile host arguments.config = .ok file ∧ build host (.mergeAll
        [file, (Environment.source host group).tryAddTo {}, arguments.settings]) =
          .ok settings := by
  simp only [load, Except.bind_eq_ok_iff, gather_eq_ok_iff]
  constructor
  · rintro ⟨_, ⟨file, hfile, rfl⟩, hbuild⟩
    exact ⟨file, hfile, hbuild⟩
  · rintro ⟨file, hfile, hbuild⟩
    exact ⟨_, ⟨file, hfile, rfl⟩, hbuild⟩

/-- Loaded settings are valid. -/
theorem isValid_of_load (h : load host group arguments = .ok settings) :
    settings.IsValid host.disk := by
  obtain ⟨file, -, hbuild⟩ := load_eq_ok_iff.mp h
  exact (build_eq_ok_iff.mp hbuild).2

/-- The defaults are values that a configuration file may set. -/
theorem allows_standard (hprocessors : 1 ≤ processors) (setting : Setting) (value : setting.Value)
    (h : (standard processors).get setting = some value) : setting.Allows value := by
  cases setting
  case outputFile => cases h
  all_goals obtain rfl := Option.some.inj h
  case buildDirectory => exact rfl
  case fallbackPackages =>
    have hdefault : ∀ package ∈ FallbackPolicy.defaultPackages, Text.trim package.toList ≠ [] := by
      decide
    exact hdefault
  case mainFields | extensions => exact List.cons_ne_nil _ _
  case maxHops => exact Nat.le_add_left 1 9999
  case threads => exact hprocessors
  all_goals trivial

/-- Values that a configuration file may set are sound, all together. -/
theorem IsSound.of_allows
    (h : ∀ (setting : Setting) value, settings.get setting = some value → setting.Allows value) :
    settings.IsSound where
  maxHops := h .maxHops _ rfl
  threads := h .threads _ rfl
  mainFields := h .mainFields _ rfl
  extensions := h .extensions _ rfl
  fallbackPackages := h .fallbackPackages _ rfl

/-- Settings without a problem are sound once the defaults stand for what is missing. -/
theorem isSound_toSettings (hprocessors : 1 ≤ processors) (hgiven : given.problem? = none) :
    (given.toSettings processors).IsSound := by
  refine .of_allows fun setting value h => ?_
  rw [PartialSettings.toSettings, PartialSettings.get_orElse, Option.or_eq_some_iff] at h
  rcases h with h | ⟨-, h⟩
  · exact PartialSettings.problem?_eq_none_iff.mp hgiven setting value h
  · exact allows_standard hprocessors setting value h

/-- Sound settings list no package without a name. -/
theorem IsSound.empty_not_mem (h : settings.IsSound) :
    "" ∉ (settings.resolver host).policy.packages :=
  fun hmem => h.fallbackPackages "" hmem rfl

/-- What passes the check of a configuration file still passes it when it is merged, and with the
defaults it passes all checks of a run's settings that are not about the disk.  Whatever sources are
merged, the settings are built exactly if they are valid on the disk.  So a run either ends with a
failure of its settings or resolves with at least one hop, at least one worker, and no package
without a name, which would cover every absolute path. -/
theorem checked_stays_valid :
    (∀ (first second : PartialSettings) (path path' path'' : Path),
        first.check path = .ok () → second.check path' = .ok () →
        (first.merge second).check path'' = .ok ()) ∧
      (∀ (given : PartialSettings) (path : Path) (processors : Nat), 1 ≤ processors →
        given.check path = .ok () → (given.toSettings processors).problem? = none) ∧
      (∀ (host : Host) (sources : List PartialSettings) (settings : Settings),
        build host (.mergeAll sources) = .ok settings ↔
          settings = (PartialSettings.mergeAll sources).toSettings host.processors ∧
            settings.IsValid host.disk) ∧
      (∀ (host : Host) (arguments : Arguments),
        (∃ failure, load host Environment.defaultGroup arguments = .error failure ∧
          Command.resolve host arguments = .error failure) ∨
        ∃ settings report, load host Environment.defaultGroup arguments = .ok settings ∧
          Command.resolve host arguments = (host.resolveBatch (settings.resolver host)
            (settings.requests arguments.specifiers) settings.threads >>= report) ∧
          1 ≤ (settings.resolver host).limit ∧ 1 ≤ settings.threads ∧
          "" ∉ (settings.resolver host).policy.packages) ∧
      ∀ (policy : FallbackPolicy) (specifier : String), policy.enabled = true →
        "" ∈ policy.packages → (Path.mk specifier).isAbsolute = true →
        policy.allows specifier = true := by
  refine ⟨?_, ?_, ?_, ?_, ?_⟩
  · intro first second path path' path'' hfirst hsecond
    rw [PartialSettings.check_eq_ok_iff] at hfirst hsecond ⊢
    exact PartialSettings.problem?_merge hfirst hsecond
  · intro given path processors hprocessors hgiven
    exact problem?_eq_none_iff.mpr
      (isSound_toSettings hprocessors (PartialSettings.check_eq_ok_iff.mp hgiven))
  · exact fun host sources settings => build_eq_ok_iff
  · intro host arguments
    cases hload : load host Environment.defaultGroup arguments with
    | error failure =>
      refine .inl ⟨failure, rfl, ?_⟩
      rw [Command.resolve, hload]
      rfl
    | ok settings =>
      have hvalid := isValid_of_load hload
      refine .inr ⟨settings, ?report, rfl, ?runs, hvalid.maxHops, hvalid.threads,
        hvalid.empty_not_mem⟩
      case runs =>
        rw [Command.resolve, hload]
        rfl
  · intro policy specifier henabled hmem habsolute
    obtain ⟨rest, hrest⟩ := List.isPrefixOf_iff_prefix.mp habsolute
    refine FallbackPolicy.allows_iff.mpr ⟨henabled, "", hmem, .inr ⟨String.ofList rest, ?_⟩⟩
    rw [← String.toList_inj, ← hrest]
    simp

/-- Two sources that a configuration file could hold are still one when they are merged.  A limit of
no hops is refused if it comes last and does no harm if it does not, and a package without a name
would cover a file of the system. -/
theorem checked_stays_valid_exampleHost :
    let hops : PartialSettings := { maxHops := some 3 }
    let noHops : PartialSettings := { maxHops := some 0 }
    let workers : PartialSettings := { threads := some 2, fallbackPackages := some ["he"] }
    (hops.merge workers).check ⟨"config.toml"⟩ = .ok () ∧
      (workers.toSettings exampleHost.processors).problem? = none ∧
      build exampleHost (.mergeAll [noHops, hops]) = .ok { standard 4 with maxHops := 3 } ∧
      (∀ settings, build exampleHost (.mergeAll [hops, noHops]) ≠ .ok settings) ∧
      (FallbackPolicy.ofPackages ["he", ""]).allows "/etc/passwd" = true := by
  intro hops noHops workers
  obtain ⟨hmerge, hdefaults, hbuild, -, hcovers⟩ := checked_stays_valid
  refine ⟨?_, ?_, ?_, fun settings h => ?_, ?_⟩
  · exact hmerge hops workers ⟨"first.toml"⟩ ⟨"second.toml"⟩ _ rfl (by decide +kernel)
  · exact hdefaults workers ⟨"second.toml"⟩ _ (by decide) (by decide +kernel)
  · refine (hbuild _ _ _).mpr ⟨by decide +kernel, check_eq_ok_iff.mp ?_⟩
    decide +kernel
  · obtain ⟨rfl, hvalid⟩ := (hbuild _ _ _).mp h
    exact absurd hvalid.maxHops (by decide)
  · exact hcovers _ _ rfl (by decide) (by decide)

end Settings

end NamedExports
