import NamedExports.CommandLine.Command
import NamedExports.Shell.Runner

/-!
# The program

Runs a command line on the machine at hand.  A run works on a survey of the disk, which is taken
before: of the directories that a run starts from, and of the packages in and above them.  What the
run has changed is written back when it has ended.
-/

namespace NamedExports.Program

/-! ## Surveying the disk -/

/-- The number of levels that a survey descends. -/
def maxLevels : Nat := 64

/-- The bytes that a program starts with if it is a script. -/
def scriptMark : List UInt8 := [35, 33]

/-- What stands at a path and below it.  What cannot be read is left out. -/
def survey : Nat → IO.FS.DirEntry → Location → IO (List (Location × Entry))
  | 0, _, _ => return []
  | levels + 1, found, location => do
    try
      match (← found.path.symlinkMetadata).type with
      | .dir =>
        let inside ← (← found.path.readDir).toList.mapM fun child =>
          survey levels child (location ++ [child.fileName.toList])
        return (location, .directory) :: inside.flatten
      | .file =>
        let content := (← IO.FS.readBinFile found.path).toList
        return [(location, .file content (scriptMark.isPrefixOf content))]
      | .symlink =>
        return [(location, .link ⟨toString (← IO.FS.realPath found.path)⟩)]
      | .other => return []
    catch _ => return []

/-- The location of a path on this machine, links and dots resolved. -/
def locationOf (path : Path) : IO Location := do
  let real : Path := ⟨toString (← IO.FS.realPath path.text)⟩
  return real.segments.filter (! ·.isEmpty)

/-- The directories above a location. -/
def above (location : Location) : List Location :=
  (List.range location.length).map location.take

/-- Adds what stands at a path, and the directories above it, to a disk. -/
def add (disk : Disk) (path : Path) : IO Disk := do
  try
    let location ← locationOf path
    let found ← survey maxLevels ⟨(Disk.pathOf location).text, ""⟩ location
    let entries := (above location).map (·, Entry.directory) ++ found
    return entries.foldl (fun disk entry => disk.put entry.1 entry.2) disk
  catch _ => return disk

/-- The folders of packages in a directory and in those above it. -/
def packageFolders (path : Path) : IO (List Path) := do
  try
    return Package.packageFolders (Disk.pathOf (← locationOf path))
  catch _ => return []

/-! ## The machine -/

/-- The variables of the environment that a run looks at. -/
def variableNames : List String :=
  ["HOME", "PATH", "XDG_CONFIG_HOME"] ++
    Environment.keys.map fun key => s!"{Environment.defaultGroup}_{key}"

/-- The environment. -/
def environment : IO (List (String × String)) :=
  variableNames.filterMapM fun name => do
    return (← IO.getEnv name).map fun value => (name, value)

/-- The number of processors, as far as the machine tells. -/
def processors : IO Nat := do
  try
    let table ← IO.FS.readFile "/proc/cpuinfo"
    let count := (Text.lines table.toList).countP ("processor".toList.isPrefixOf ·)
    return max 1 count
  catch _ => return 1

/-- A host with a disk. -/
def hostWith (disk : Disk) : IO Host := do
  let environment ← environment
  return {
    disk, environment
    processors := ← processors
    runner := Shell.runner disk environment
    workerError := fun _ => none
    outputError := none }

/-! ## Running -/

/-- The files that settings may be in. -/
def configFiles (host : Host) (arguments : Arguments) : List Path :=
  arguments.config.toList ++ ConfigFile.defaultPaths host

/-- The places that a run with given settings starts from. -/
def startingPoints (settings : Settings) (arguments : Arguments) : List Path :=
  let build := settings.buildDirectory
  let targets := (arguments.specifiers.filter Specifier.isPath).filterMap fun specifier =>
    (build.join specifier).parent?
  let output := (settings.outputFile.bind Path.parent?).toList
  build :: settings.nodeBinary :: targets ++ output

/-- The host of a run with given arguments. -/
def hostOf (arguments : Arguments) : IO Host := do
  let here ← locationOf ⟨"."⟩
  let top : Disk := ⟨(above here ++ [here]).map (·, Entry.directory), here⟩
  let bare ← hostWith top
  let host ← hostWith (← (configFiles bare arguments).foldlM add top)
  match Settings.gather host Environment.defaultGroup arguments with
  | .error _ => return host
  | .ok settings =>
    let points := startingPoints (settings.toSettings host.processors) arguments
    let folders := (← points.mapM packageFolders).flatten
    hostWith (← (points ++ folders).foldlM add host.disk)

/-- Writes an entry, if a run has changed it. -/
def save (before : Disk) (changed : Location × Entry) : IO Unit := do
  let path := (Disk.pathOf changed.1).text
  if before.lookup? changed.1 != some changed.2 then
    match changed.2 with
    | .directory => IO.FS.createDirAll path
    | .file content _ => IO.FS.writeBinFile path ⟨content.toArray⟩
    | .link _ => return

end NamedExports.Program

open NamedExports in
/-- Runs the program. -/
def main (words : List String) : IO UInt32 := do
  let arguments := (Arguments.read words).toOption.getD {}
  let host ← Program.hostOf arguments
  let result := Command.main host words
  IO.print result.stdout
  IO.eprint result.stderr
  result.disk.entries.reverse.forM (Program.save host.disk)
  return result.exitCode.toUInt32
