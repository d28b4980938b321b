import NamedExports.Failure
import NamedExports.Settings
import NamedExports.Toml.Reader

/-!
# Configuration documents

Partial settings read from a TOML document.  Keys that name no setting are ignored; the value of
each other one must be of its setting's form, and some values are refused although they are.
-/

namespace NamedExports

namespace Toml

/-- A text. -/
def toText : Value → Except ReadError String
  | .string value => .ok value
  | _ => .error (.wrongForm "a string")

/-- A path. -/
def toPath (value : Value) : Except ReadError Path := (toText value).map Path.mk

/-- A truth value. -/
def toBool : Value → Except ReadError Bool
  | .bool value => .ok value
  | _ => .error (.wrongForm "true or false")

/-- A natural number of at most 64 bits. -/
def toNatural : Value → Except ReadError Nat
  | .integer (.ofNat n) =>
    if n < Nat.pow 2 64 then .ok n else .error (.wrongForm "a smaller number")
  | _ => .error (.wrongForm "a natural number")

/-- A list of texts. -/
def toTexts : Value → Except ReadError (List String)
  | .array _ items => items.mapM toText
  | _ => .error (.wrongForm "an array")

/-- One of a set of known words, which may also be written as the only key of a table, with nothing
in its value. -/
def toWord {α : Type} (words : List (String × α)) (value : Value) : Except ReadError α :=
  let word? : Option String :=
    match value with
    | .string word => some word
    | .table _ [(word, .table _ [])] => some word
    | .table _ [(word, .array _ [])] => some word
    | _ => none
  match word?.bind fun word => (words.find? (·.1 == word)).map (·.2) with
  | some meaning => .ok meaning
  | none => .error (.wrongForm "a known word")

/-- The value of a key, if it is there. -/
def field? {α : Type} (read : Value → Except ReadError α) (key : String) (members : Members) :
    Except ReadError (Option α) :=
  match Members.get? members key with
  | some value => (read value).map some
  | none => .ok none

end Toml

namespace PartialSettings

open Toml in
/-- The settings in a document. -/
def ofMembers (members : Toml.Members) : Except Toml.ReadError PartialSettings := do
  return {
    buildDirectory := ← field? toPath "build_dir" members
    mode := ← field? (toWord Mode.words) "mode" members
    fallbackEnabled := ← field? toBool "fallback_enabled" members
    fallbackPackages := ← field? toTexts "fallback_packages" members
    nodeBinary := ← field? toPath "node_binary" members
    mainFields := ← field? toTexts "main_fields" members
    conditionNames := ← field? toTexts "condition_names" members
    extensions := ← field? toTexts "extensions" members
    maxHops := ← field? toNatural "max_hops" members
    threads := ← field? toNatural "threads" members
    outputFormat := ← field? (toWord OutputFormat.words) "output_format" members
    outputFile := ← field? toPath "output_file" members
    useColors := ← field? toBool "use_colors" members
    quiet := ← field? toBool "quiet" members
    verbose := ← field? toBool "verbose" members }

/-- Whether a text is nothing but white space. -/
def isBlank (text : String) : Bool := (Text.trim text.toList).isEmpty

/-- What is wrong with the values of settings, the first problem only. -/
def problem? (settings : PartialSettings) : Option String :=
  if settings.buildDirectory.any Path.isEmpty then some "Invalid empty build_dir"
  else if settings.fallbackPackages.any (·.any isBlank) then
    some "Empty entry in fallback_packages"
  else if settings.mainFields.any List.isEmpty then some "Empty main_fields list"
  else if settings.extensions.any List.isEmpty then some "Empty extensions list"
  else if settings.maxHops == some 0 then some "Invalid max_hops 0, must be at least 1"
  else if settings.threads == some 0 then some "Invalid threads 0, must be at least 1"
  else if settings.outputFile.any Path.isEmpty then some "Invalid empty output_file"
  else none

/-- Refuses settings with a problem. -/
def check (settings : PartialSettings) (path : Path) : Except Failure Unit :=
  match settings.problem? with
  | some problem => .error (.config s!"{problem} in config file: {path.text}")
  | none => .ok ()

/-- The settings in the text of a configuration file. -/
def ofText (text : String) (path : Path) : Except Failure PartialSettings := do
  match (Toml.read text).bind ofMembers with
  | .error cause => .error (.configParse path cause.message)
  | .ok settings =>
    settings.check path
    .ok settings

end PartialSettings

end NamedExports
