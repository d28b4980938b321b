import NamedExports.Forms
import NamedExports.Text.Cut
import NamedExports.Text.Utf8

/-!
# Answers of loaders

A loader prints the kind and the keys of a module's value as a JSON record, on a line that starts
with a marker.  The module may print anything else before and after that; of several such lines the
last one counts.
-/

namespace NamedExports.Loading

/-- What the line with the answer starts with. -/
def marker : String := "@@cjs-exports-result@@"

/-- Why what a loader printed is no answer. -/
inductive AnswerError where
  | missing
  | malformed (cause : Json.ReadError)
  deriving Repr, DecidableEq

/-- The wording of an answer error. -/
def AnswerError.message : AnswerError → String
  | missing => "loader printed no result"
  | malformed cause => s!"unexpected loader output: {cause.message}"

/-- The answer on a line, behind its marker. -/
def payload? (line : List Char) : Option (List Char) := Text.stripStart marker.toList line

/-- The answer that a loader printed. -/
def readAnswer (stdout : List UInt8) : Except AnswerError ModuleValue :=
  match (Text.lines (Text.Utf8.decodeLossy stdout)).reverse.findSome? payload? with
  | none => .error .missing
  | some payload =>
    match ModuleValue.form.read payload with
    | .ok value => .ok value
    | .error cause => .error (.malformed cause)

end NamedExports.Loading
