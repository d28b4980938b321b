import NamedExports.Shell.Run

/-!
# Running programs

How programs are found and started.  The only programs that can be started are scripts that name a
shell on their first line.
-/

namespace NamedExports.Shell

/-- The shells that scripts may name on their first line. -/
def interpreters : List String :=
  ["/bin/sh", "/usr/bin/sh", "/bin/dash", "/usr/bin/dash", "/bin/bash", "/usr/bin/bash",
    "/usr/bin/env sh", "/usr/bin/env bash", "/bin/env sh"]

/-- What the first line of a script names. -/
def interpreter? (script : Octets) : Option Octets :=
  (Text.stripStart ['#', '!'] script).map fun rest => Text.trim (rest.takeWhile (· != '\n'))

/-- The options that the first line of a script gives to a shell, if it names one. -/
def shellOptions? (line : Octets) : Option (List Octets) :=
  interpreters.findSome? fun name =>
    if line == name.toList then some []
    else (Text.stripStart (name.toList ++ [' ']) line).map fun options => [Text.trim options]

/-- The places where a program is looked for: its own path, or those that the environment names. -/
def candidates (environment : List (String × String)) (program : Path) : List Path :=
  if program.text.toList.contains '/' then [program]
  else
    match environment.find? (·.1 == "PATH") with
    | some (_, folders) =>
      (Text.splitOn ':' folders.toList).map fun folder =>
        (Path.mk (String.ofList folder)).join program.text
    | none => []

/-- The content of a file that may be run. -/
def executable (disk : Disk) (path : Path) : Except IoError (List UInt8) := do
  match disk.lookup? (← disk.locate path) with
  | some (.file content true) => .ok content
  | _ => .error .permissionDenied

/-- The first program that may be run, with its content. -/
def firstExecutable (disk : Disk) : List Path → Except IoError (Path × List UInt8)
  | [] => .error .notFound
  | [path] => (executable disk path).map fun content => (path, content)
  | path :: rest =>
    match executable disk path with
    | .ok content => .ok (path, content)
    | .error _ => firstExecutable disk rest

/-- Whether a text cannot be passed to a process. -/
def hasNul (text : String) : Bool := text.toList.contains '\x00'

/-- Runs shell scripts that stand on a disk. -/
def runner (disk : Disk) (environment : List (String × String)) : Runner := fun invocation => do
  if hasNul invocation.program.text || invocation.arguments.any hasNul ||
      hasNul invocation.directory.text then
    .error (.other "nul byte found in provided data")
  else
    let directory ← disk.locate invocation.directory
    if !disk.hasDirectory directory then .error .notADirectory
    else
      let disk := { disk with workingDirectory := directory }
      if invocation.program.isEmpty then .error .notFound
      else
        let (path, content) ← firstExecutable disk (candidates environment invocation.program)
        let script := ofBytes content
        match interpreter? script with
        | none => .error .notExecutable
        | some line =>
          match shellOptions? line with
          | none => .error .notFound
          | some options =>
            let here := (Disk.pathOf directory).text
            let values := invocation.environment ++ ("PWD", here) :: environment
            let state : State := {
              disk
              name := ofText path.text
              parameters := invocation.arguments.map ofText
              bindings := values.map fun (name, value) => (ofText name, ofText value) }
            .ok (runScript (options.foldl (fun state option => Builtin.set state [option]) state)
              script)

end NamedExports.Shell
