import NamedExports.Settings
import NamedExports.Text.Numeral

/-!
# Command-line arguments

What a command line asks for.  An argument that starts with two hyphens is the long name of an
option or a flag, one that starts with one hyphen a row of short names; all others are specifiers,
and so is everything behind `--`.  The value of an option stands behind it, attached or as the next
argument.

A value is examined when the next option, flag or specifier has been recognised, so an unknown name
behind a bad value is complained about first.
-/

namespace NamedExports

/-- Options that take a value. -/
inductive ValueOption where
  | buildDirectory
  | mode
  | output
  | outputFile
  | config
  | node
  | maxHops
  | threads
  deriving Repr, DecidableEq

/-- Options that take no value. -/
inductive Flag where
  | noFallback
  | noColors
  | quiet
  | verbose
  | logJson
  | init
  | help
  | version
  deriving Repr, DecidableEq

/-- What a command line asks for. -/
structure Arguments where
  specifiers : List String := []
  buildDirectory : Option Path := none
  mode : Option Mode := none
  output : Option OutputFormat := none
  outputFile : Option Path := none
  config : Option Path := none
  node : Option Path := none
  maxHops : Option Nat := none
  threads : Option Nat := none
  noFallback : Bool := false
  noColors : Bool := false
  quiet : Bool := false
  /-- How often more output was asked for. -/
  verbosity : Nat := 0
  logJson : Bool := false
  init : Bool := false
  deriving Repr, DecidableEq

/-- Why a command line leads to no run. -/
inductive UsageError where
  | missingSpecifier
  | unknownArgument
  /-- An option's value is missing, empty or none of the possible ones. -/
  | invalidValue
  /-- An option's value cannot be read. -/
  | unreadableValue
  | repeatedOption
  /-- A flag is given a value. -/
  | unexpectedValue
  | helpWanted
  | versionWanted
  deriving Repr, DecidableEq

/-- Whether a command line that leads to no run is in order all the same. -/
def UsageError.exitCode : UsageError → Nat
  | helpWanted | versionWanted => 0
  | _ => 2

/-- The wording of a usage error. -/
def UsageError.message : UsageError → String
  | missingSpecifier => "a specifier is required"
  | unknownArgument => "unknown argument"
  | invalidValue => "missing or invalid value of an option"
  | unreadableValue => "unreadable value of an option"
  | repeatedOption => "option given more than once"
  | unexpectedValue => "value given to a flag"
  | helpWanted => "help is wanted"
  | versionWanted => "the version is wanted"

/-- A name on the command line. -/
inductive OptionName where
  | value (option : ValueOption)
  | flag (flag : Flag)
  deriving Repr, DecidableEq

namespace OptionName

/-- The long names. -/
def long? : String → Option OptionName
  | "build-dir" => some (value .buildDirectory)
  | "mode" => some (value .mode)
  | "output" => some (value .output)
  | "output-file" => some (value .outputFile)
  | "config" => some (value .config)
  | "node" => some (value .node)
  | "max-hops" => some (value .maxHops)
  | "threads" => some (value .threads)
  | "no-fallback" => some (flag .noFallback)
  | "no-colors" => some (flag .noColors)
  | "quiet" => some (flag .quiet)
  | "verbose" => some (flag .verbose)
  | "log-json" => some (flag .logJson)
  | "init" => some (flag .init)
  | "help" => some (flag .help)
  | "version" => some (flag .version)
  | _ => none

/-- The short names. -/
def short? : Char → Option OptionName
  | 'd' => some (value .buildDirectory)
  | 'o' => some (value .output)
  | 'c' => some (value .config)
  | 'q' => some (flag .quiet)
  | 'v' => some (flag .verbose)
  | 'h' => some (flag .help)
  | 'V' => some (flag .version)
  | _ => none

end OptionName

namespace Arguments

/-! ## Values and flags -/

/-- Sets what must not be set already. -/
def once {α : Type} (old : Option α) (new : Except UsageError α) : Except UsageError (Option α) :=
  if old.isSome then .error .repeatedOption else new.map some

/-- A path, which must not be empty. -/
def readPath (text : String) : Except UsageError Path :=
  if text.isEmpty then .error .invalidValue else .ok ⟨text⟩

/-- One of the modes, by its full name. -/
def readMode : String → Except UsageError Mode
  | "production" => .ok .production
  | "development" => .ok .development
  | _ => .error .invalidValue

/-- One of the output formats. -/
def readFormat : String → Except UsageError OutputFormat
  | "text" => .ok .text
  | "json" => .ok .json
  | _ => .error .invalidValue

/-- A count. -/
def readCount (text : String) : Except UsageError Nat :=
  match Text.readNatural text.toList with
  | .ok n => .ok n
  | .error _ => .error .unreadableValue

/-- Sets an option. -/
def set (arguments : Arguments) (option : ValueOption) (text : String) :
    Except UsageError Arguments := do
  match option with
  | .buildDirectory =>
    .ok { arguments with buildDirectory := ← once arguments.buildDirectory (readPath text) }
  | .mode => .ok { arguments with mode := ← once arguments.mode (readMode text) }
  | .output => .ok { arguments with output := ← once arguments.output (readFormat text) }
  | .outputFile => .ok { arguments with outputFile := ← once arguments.outputFile (readPath text) }
  | .config => .ok { arguments with config := ← once arguments.config (readPath text) }
  | .node => .ok { arguments with node := ← once arguments.node (readPath text) }
  | .maxHops => .ok { arguments with maxHops := ← once arguments.maxHops (readCount text) }
  | .threads => .ok { arguments with threads := ← once arguments.threads (readCount text) }

/-- The most often that more output can be asked for. -/
def maxVerbosity : Nat := 255

/-- A flag that must not be set already. -/
def raise (old : Bool) : Except UsageError Bool :=
  if old then .error .repeatedOption else .ok true

/-- Sets a flag. -/
def setFlag (arguments : Arguments) : Flag → Except UsageError Arguments
  | .noFallback => do .ok { arguments with noFallback := ← raise arguments.noFallback }
  | .noColors => do .ok { arguments with noColors := ← raise arguments.noColors }
  | .quiet => do .ok { arguments with quiet := ← raise arguments.quiet }
  | .verbose => .ok { arguments with verbosity := min maxVerbosity (arguments.verbosity + 1) }
  | .logJson => do .ok { arguments with logJson := ← raise arguments.logJson }
  | .init => do .ok { arguments with init := ← raise arguments.init }
  | .help => .error .helpWanted
  | .version => .error .versionWanted

/-! ## Reading a command line -/

/-- An option that has been named, with its value once that is there too. -/
structure Pending where
  option : ValueOption
  value : Option String
  deriving Repr, DecidableEq

/-- How far a command line has been read. -/
structure Progress where
  arguments : Arguments := {}
  pending : Option Pending := none
  /-- Whether only specifiers follow. -/
  trailing : Bool := false
  deriving Repr, DecidableEq

namespace Progress

/-- Examines the value of a pending option. -/
def settle (progress : Progress) : Except UsageError Progress :=
  match progress.pending with
  | none => .ok progress
  | some ⟨_, none⟩ => .error .invalidValue
  | some ⟨option, some text⟩ => do
    .ok { progress with arguments := ← progress.arguments.set option text, pending := none }

/-- An option with an attached value. -/
def attach (progress : Progress) (option : ValueOption) (text : String) :
    Except UsageError Progress := do
  let progress ← progress.settle
  .ok { progress with arguments := ← progress.arguments.set option text }

/-- An option whose value is still to come. -/
def await (progress : Progress) (option : ValueOption) : Except UsageError Progress := do
  .ok { ← progress.settle with pending := some ⟨option, none⟩ }

/-- A flag. -/
def flag (progress : Progress) (flag : Flag) : Except UsageError Progress := do
  let progress ← progress.settle
  .ok { progress with arguments := ← progress.arguments.setFlag flag }

/-- A long name, with or without a value attached. -/
def long (progress : Progress) (text : List Char) : Except UsageError Progress :=
  let (name, attached) :=
    match Text.splitOnce '=' text with
    | some (name, value) => (name, some (String.ofList value))
    | none => (text, none)
  match OptionName.long? (String.ofList name), attached with
  | none, _ => .error .unknownArgument
  | some (.value option), some value => progress.attach option value
  | some (.value option), none => progress.await option
  | some (.flag _), some _ => .error .unexpectedValue
  | some (.flag flag), none => progress.flag flag

/-- A row of short names.  What follows the name of an option is its value. -/
def shorts (progress : Progress) : List Char → Except UsageError Progress
  | [] => .ok progress
  | c :: rest =>
    match OptionName.short? c, rest with
    | none, _ => .error .unknownArgument
    | some (.value option), [] => progress.await option
    | some (.value option), '=' :: value => progress.attach option (String.ofList value)
    | some (.value option), value => progress.attach option (String.ofList value)
    | some (.flag flag), rest => do shorts (← progress.flag flag) rest

/-- A specifier. -/
def specifier (progress : Progress) (text : String) : Except UsageError Progress := do
  let progress ← progress.settle
  let arguments := progress.arguments
  .ok { progress with arguments := { arguments with specifiers := arguments.specifiers ++ [text] } }

/-- An argument that is no name: the value of a pending option, or a specifier. -/
def word (progress : Progress) (text : String) : Except UsageError Progress :=
  match progress.pending with
  | some ⟨option, none⟩ => .ok { progress with pending := some ⟨option, some text⟩ }
  | _ => progress.specifier text

/-- The next argument. -/
def next (progress : Progress) (text : String) : Except UsageError Progress :=
  if progress.trailing then progress.specifier text
  else
    match text.toList with
    | ['-', '-'] => .ok { progress with trailing := true }
    | '-' :: '-' :: rest => progress.long rest
    | '-' :: c :: rest => progress.shorts (c :: rest)
    | _ => progress.word text

end Progress

/-- Reads the arguments behind the name of the program.  There must be a specifier, unless a
configuration file is to be made. -/
def read (words : List String) : Except UsageError Arguments := do
  let progress ← (← words.foldlM Progress.next {}).settle
  let arguments := progress.arguments
  if arguments.specifiers.isEmpty && !arguments.init then .error .missingSpecifier
  else .ok arguments

/-! ## Settings -/

/-- The settings that arguments ask for.  A flag that is not given sets nothing. -/
def settings (arguments : Arguments) : PartialSettings where
  buildDirectory := arguments.buildDirectory
  mode := arguments.mode
  fallbackEnabled := if arguments.noFallback then some false else none
  nodeBinary := arguments.node
  maxHops := arguments.maxHops
  threads := arguments.threads
  outputFormat := arguments.output
  outputFile := arguments.outputFile
  useColors := if arguments.noColors then some false else none
  quiet := if arguments.quiet then some true else none
  verbose := if 0 < arguments.verbosity then some true else none

end Arguments

/-- How much is logged. -/
inductive LogLevel where
  | warn
  | info
  | debug
  | trace
  deriving Repr, DecidableEq

namespace LogLevel

/-- A level's name. -/
def name : LogLevel → String
  | warn => "WARN"
  | info => "INFO"
  | debug => "DEBUG"
  | trace => "TRACE"

/-- The level that is asked for.  Quiet counts only where no more output is asked for. -/
def of (verbosity : Nat) (quiet : Bool) : LogLevel :=
  match verbosity with
  | 0 => if quiet then warn else info
  | 1 => debug
  | _ => trace

end LogLevel

end NamedExports
