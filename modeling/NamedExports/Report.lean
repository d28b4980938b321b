import NamedExports.Batch
import NamedExports.Forms
import NamedExports.Json.Printer

/-!
# Reports

What is printed of a batch: one block of text per entry and a line with totals, or the names alone,
or JSON.
-/

namespace NamedExports

/-- How text is coloured, as the parameters of an escape sequence. -/
structure Style where
  parameters : String
  deriving Repr, DecidableEq

namespace Style

/-- Bold blue. -/
def blueBold : Style := ⟨"1;34"⟩

/-- Dimmed. -/
def dimmed : Style := ⟨"2"⟩

/-- Green. -/
def green : Style := ⟨"32"⟩

/-- Bold green. -/
def greenBold : Style := ⟨"1;32"⟩

/-- Yellow. -/
def yellow : Style := ⟨"33"⟩

/-- Bold yellow. -/
def yellowBold : Style := ⟨"1;33"⟩

/-- Bold red. -/
def redBold : Style := ⟨"1;31"⟩

/-- The character that starts an escape sequence. -/
def escape : Char := '\x1b'

/-- The sequence that sets a style. -/
def start (style : Style) : List Char := escape :: '[' :: style.parameters.toList ++ ['m']

/-- The sequence that ends all styles. -/
def stop : List Char := [escape, '[', '0', 'm']

/-- A text in a style, if styles are used. -/
def paint (style : Style) (colors : Bool) (text : String) : String :=
  if colors then String.ofList (style.start ++ text.toList ++ stop) else text

end Style

namespace Report

/-- What a text report shows. -/
structure TextOptions where
  colors : Bool
  /-- Whether build directories are shown. -/
  verbose : Bool
  /-- Whether only names are shown. -/
  quiet : Bool
  deriving Repr, DecidableEq

/-- Lines as text, each with its end. -/
def unlines (lines : List String) : String := String.join (lines.map (· ++ "\n"))

/-- The first line of an entry: its specifier and its mode. -/
def headline (colors : Bool) (request : Request) : String :=
  Style.blueBold.paint colors request.specifier ++ " " ++
    Style.dimmed.paint colors s!"({request.mode.text})"

/-- The number of exports in words. -/
def countText (count : Nat) : String :=
  let ending := if count == 1 then "" else "s"
  s!"  {count} export{ending}"

/-- The lines that tell how an entry ended. -/
def outcomeLines (colors : Bool) : BatchOutcome → List String
  | .failed message => ["  " ++ Style.redBold.paint colors "Error:" ++ " " ++ message]
  | .resolved list =>
    if list.isEmpty then [Style.yellow.paint colors "  No named exports"]
    else
      Style.green.paint colors (countText list.size) :: list.exports.map ("    " ++ ·)

/-- The lines of an entry, an empty one behind them. -/
def entryLines (options : TextOptions) (entry : BatchEntry) : List String :=
  headline options.colors entry.request ::
    (if options.verbose then
      [s!"  Build directory: {entry.request.buildDirectory.text}"] else []) ++
    outcomeLines options.colors entry.outcome ++ [""]

/-- The line with totals. -/
def totals (colors : Bool) (entries : List BatchEntry) : String :=
  let failed := entries.countP BatchEntry.isFailure
  let style := if failed == 0 then Style.greenBold else Style.yellowBold
  style.paint colors s!"Resolved {entries.length - failed} of {entries.length} specifiers"

/-- The names that an entry resolved to. -/
def namesOf (entry : BatchEntry) : List String :=
  match entry.outcome with
  | .resolved list => list.exports
  | .failed _ => []

/-- A text report.  There are totals only for more than one entry. -/
def text (options : TextOptions) (entries : List BatchEntry) : String :=
  if options.quiet then unlines (entries.flatMap namesOf)
  else
    unlines (entries.flatMap (entryLines options) ++
      if 1 < entries.length then [totals options.colors entries] else [])

/-! ## JSON -/

open Json (Value)

/-- How an entry ended, as a member. -/
def outcomeMember : BatchOutcome → String × Value
  | .resolved list => ("resolved", ExportList.form.value list)
  | .failed message => ("failed", .string message)

/-- An entry as JSON. -/
def entryValue (entry : BatchEntry) : Value :=
  .object [("request", Request.form.value entry.request), outcomeMember entry.outcome]

/-- A batch as JSON. -/
def value (entries : List BatchEntry) : Value := .array (entries.map entryValue)

/-- A JSON report. -/
def json (layout : Json.Layout) (entries : List BatchEntry) : String :=
  Json.print layout (value entries) ++ "\n"

/-- The report that settings ask for. -/
def render (format : OutputFormat) (options : TextOptions) (entries : List BatchEntry) : String :=
  match format with
  | .text => text options entries
  | .json => json .indented entries

end Report

end NamedExports
