import NamedExports.Loading.Answer
import NamedExports.Loading.Process
import NamedExports.Mode

/-!
# Loading modules

A module is loaded by a program of its own, so that nothing it does can touch the run that asked for
it.  The program is given a script that requires the module and prints the kind and the keys of its
value.
-/

namespace NamedExports.Loading

/-- The script that loads a module and prints what it is. -/
def script : String :=
  String.ofList ('\n' :: Text.joinWith '\n' (
    ["const [entry, marker] = process.argv.slice(1);",
      "const value = require(entry);",
      "let kind = typeof value;",
      "if (value === null) kind = 'null';",
      "else if (Array.isArray(value)) kind = 'array';",
      "else if (kind !== 'object' && kind !== 'function') kind = 'primitive';",
      "const keys = kind === 'object' || kind === 'function' ? Object.keys(value) : [];",
      "process.stdout.write('\\n' + marker + JSON.stringify(\x7b kind, keys \x7d) + '\\n');",
      ""].map String.toList))

/-- How the loader of a module is started. -/
def invocation (program entry : Path) (mode : Mode) : Invocation where
  program := program
  arguments := ["-e", script, entry.text, marker]
  directory := entry.parent?.getD entry
  environment := [("NODE_ENV", mode.text)]

/-- What a loader that failed says of it: the first line that speaks of an error, or else all it
printed. -/
def complaint (stderr : List UInt8) : String :=
  let text := Text.Utf8.decodeLossy stderr
  let line := (Text.lines text).find? (Text.hasWord "Error".toList)
  String.ofList (line.getD (Text.trim text))

/-- The value of a module that is loaded by a program. -/
def load (runner : Runner) (program entry : Path) (mode : Mode) : Except Failure ModuleValue :=
  match runner (invocation program entry mode) with
  | .error cause =>
    .error (.runtimeLoad entry s!"failed to execute {program.text}: {cause.message}")
  | .ok finished =>
    if finished.status.isSuccess then
      match readAnswer finished.stdout with
      | .ok value => .ok value
      | .error cause => .error (.runtimeLoad entry cause.message)
    else
      .error (.runtimeLoad entry s!"{complaint finished.stderr} ({finished.status.text})")

end NamedExports.Loading
