import NamedExports.ExportList
import NamedExports.Json.Form
import NamedExports.ModuleValue
import NamedExports.Request
import NamedExports.Scan.Findings
import NamedExports.Settings

/-!
# JSON forms of what is passed on

Requests, module values, findings, export lists and partial settings as JSON records.
-/

namespace NamedExports

open Json (Field Form Value ReadError)

/-- A path. -/
def Json.toPath (value : Value) : Except ReadError Path := (toText value).map Path.mk

/-- A request.  Its mode is production where none is given. -/
def Request.form : Form Request where
  fields := [.required "build_dir", .required "import_specifier",
    .withDefault "mode" (.string Mode.production.text)]
  toValues request :=
    [.string request.buildDirectory.text, .string request.specifier, .string request.mode.text]
  ofValues
    | [directory, specifier, mode] => do
      .ok ⟨← Json.toPath directory, ← Json.toText specifier, ← Json.toWord Mode.words mode⟩
    | _ => .error (.wrongForm "a request")

/-- A module's value.  It has no keys where none are given. -/
def ModuleValue.form : Form ModuleValue where
  fields := [.required "kind", .withDefault "keys" (.array [])]
  toValues value := [.string value.kind.word, Json.ofTexts value.keys]
  ofValues
    | [kind, keys] => do .ok ⟨← Json.toWord ModuleValue.Kind.words kind, ← Json.toTexts keys⟩
    | _ => .error (.wrongForm "a module value")

/-- What a scan found. -/
def Findings.form : Form Findings where
  fields := [.required "exports", .required "reexports"]
  toValues findings := [Json.ofTexts findings.exports, Json.ofTexts findings.reexports]
  ofValues
    | [exports, reexports] => do .ok ⟨← Json.toTexts exports, ← Json.toTexts reexports⟩
    | _ => .error (.wrongForm "findings")

/-- An export list. -/
def ExportList.form : Form ExportList where
  fields := [.required "exports"]
  toValues list := [Json.ofTexts list.exports]
  ofValues
    | [exports] => do .ok ⟨← Json.toTexts exports⟩
    | _ => .error (.wrongForm "an export list")

open Json in
/-- Partial settings.  What is missing is written as `null`. -/
def PartialSettings.form : Form PartialSettings where
  fields := [.optional "build_dir", .optional "mode", .optional "fallback_enabled",
    .optional "fallback_packages", .optional "node_binary", .optional "main_fields",
    .optional "condition_names", .optional "extensions", .optional "max_hops",
    .optional "threads", .optional "output_format", .optional "output_file",
    .optional "use_colors", .optional "quiet", .optional "verbose"]
  toValues settings :=
    [ofOption (.string ·.text) settings.buildDirectory,
      ofOption (.string ·.text) settings.mode,
      ofOption .bool settings.fallbackEnabled,
      ofOption ofTexts settings.fallbackPackages,
      ofOption (.string ·.text) settings.nodeBinary,
      ofOption ofTexts settings.mainFields,
      ofOption ofTexts settings.conditionNames,
      ofOption ofTexts settings.extensions,
      ofOption ofNatural settings.maxHops,
      ofOption ofNatural settings.threads,
      ofOption (.string ·.word) settings.outputFormat,
      ofOption (.string ·.text) settings.outputFile,
      ofOption .bool settings.useColors,
      ofOption .bool settings.quiet,
      ofOption .bool settings.verbose]
  ofValues
    | [buildDirectory, mode, fallbackEnabled, fallbackPackages, nodeBinary, mainFields,
        conditionNames, extensions, maxHops, threads, outputFormat, outputFile, useColors, quiet,
        verbose] => do
      .ok {
        buildDirectory := ← toOption toPath buildDirectory
        mode := ← toOption (toWord Mode.words) mode
        fallbackEnabled := ← toOption toBool fallbackEnabled
        fallbackPackages := ← toOption toTexts fallbackPackages
        nodeBinary := ← toOption toPath nodeBinary
        mainFields := ← toOption toTexts mainFields
        conditionNames := ← toOption toTexts conditionNames
        extensions := ← toOption toTexts extensions
        maxHops := ← toOption toNatural maxHops
        threads := ← toOption toNatural threads
        outputFormat := ← toOption (toWord OutputFormat.words) outputFormat
        outputFile := ← toOption toPath outputFile
        useColors := ← toOption toBool useColors
        quiet := ← toOption toBool quiet
        verbose := ← toOption toBool verbose }
    | _ => .error (.wrongForm "partial settings")

end NamedExports
