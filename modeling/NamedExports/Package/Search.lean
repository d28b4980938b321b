import NamedExports.Disk
import NamedExports.Json.Reader
import NamedExports.Package.Exports
import NamedExports.Package.Specifier

/-!
# Searching modules

From a specifier to the file it names, on a disk.  A path names a file, with or without one of the
known extensions, or a directory with an entry.  The name of a package is looked up in
`node_modules` of the base directory and of every directory above it; the first package found
decides, through its `exports` or through its entry fields.
-/

namespace NamedExports.Package

open Json (Value)

/-- What a search prefers. -/
structure SearchOptions where
  /-- Manifest fields that name an entry, in order of precedence. -/
  mainFields : List String := ["browser", "module", "main"]
  /-- Conditions that hold in `exports`, in order of precedence. -/
  conditions : List String := ["browser", "require", "default"]
  /-- Extensions that a specifier may leave out, in order of precedence. -/
  extensions : List String := ["js", "cjs", "json"]
  deriving Repr, DecidableEq

namespace SearchOptions

variable (options : SearchOptions) (disk : Disk)

/-- A file at a path as it is written, or with an extension behind it. -/
def file? (path : Path) : Option Path :=
  (path :: options.extensions.map path.withSuffix).find? disk.isFile

/-- The index file of a directory. -/
def index? (directory : Path) : Option Path :=
  (options.extensions.map fun extension => directory.join ("index." ++ extension)).find? disk.isFile

/-- The file that an entry field names: a file, or the index of a directory. -/
def entryFile? (directory : Path) (entry : String) : Option Path :=
  let path := directory.join entry
  (file? options disk path).or
    (if disk.isDirectory path then index? options disk path else none)

/-- The entry of a directory: what the first entry field names that names a file, or else the
index. -/
def directoryFile? (directory : Path) (manifest : Option Value) : Option Path :=
  let entries := options.mainFields.filterMap fun field =>
    (manifest.bind (Value.member? field)).bind Value.text?
  ((entries.filter (! ·.isEmpty)).findSome? (entryFile? options disk directory)).or
    (index? options disk directory)

end SearchOptions

/-- The name of a manifest. -/
def manifestName : String := "package.json"

/-- Reads a manifest. -/
def readManifest (disk : Disk) (path : Path) : Except Failure Value :=
  match disk.readText path with
  | .error cause => .error (.fileRead path cause)
  | .ok text =>
    match Json.read text with
    | .error cause => .error (.malformedJson path cause.message)
    | .ok value => .ok value

/-- The manifest of a directory, if there is one. -/
def manifest? (disk : Disk) (directory : Path) : Except Failure (Option Value) :=
  let path := directory.join manifestName
  if disk.isFile path then (readManifest disk path).map some else .ok none

/-- The directories in which packages are looked up from a base directory, the nearest first.  A
directory that is itself called `node_modules` has no such directory of its own. -/
def packageFolders (base : Path) : List Path :=
  (base.ancestors.filter fun directory =>
    directory.fileName? != some "node_modules".toList).map (·.join "node_modules")

namespace SearchOptions

variable (options : SearchOptions) (disk : Disk)

/-- The file at a path, or the entry of the directory at it. -/
def fileOrEntry? (path : Path) : Except Failure (Option Path) :=
  match file? options disk path with
  | some file => .ok (some file)
  | none =>
    if disk.isDirectory path then
      (manifest? disk path).map (directoryFile? options disk path)
    else .ok none

/-- What a package's exports lead to. -/
def exported? (directory : Path) (subpath : Option String) (manifest : Option Value) :
    Option Path :=
  (manifest.bind (Value.member? "exports")).bind
    (ofExports? ⟨disk.isFile, options.conditions, directory⟩ subpath)

/-- The file that a subpath of a package names, or the package itself. -/
def inPackage? (directory : Path) (subpath : Option String) : Except Failure (Option Path) := do
  let manifest ← manifest? disk directory
  match exported? options disk directory subpath manifest with
  | some file => .ok (some file)
  | none =>
    match subpath with
    | some path => fileOrEntry? options disk (directory.join path)
    | none => .ok (directoryFile? options disk directory manifest)

/-- The file that the specifier of a package names. -/
def package? (base : Path) (specifier : String) : Except Failure (Option Path) :=
  let wanted := Specifier.split specifier
  match ((packageFolders base).map (·.join wanted.name)).find? disk.isDirectory with
  | some directory => inPackage? options disk directory wanted.subpath
  | none => .ok none

/-- The file that a specifier names, as it was found. -/
def find? (base : Path) (specifier : String) : Except Failure (Option Path) :=
  if specifier.isEmpty then .ok none
  else if Specifier.isPath specifier then fileOrEntry? options disk (base.join specifier)
  else package? options disk base specifier

/-- The canonical path of the file that a specifier names. -/
def resolve (base : Path) (specifier : String) : Except Failure Path := do
  match ← find? options disk base specifier with
  | none => .error (.moduleNotFound specifier base)
  | some path =>
    match disk.canonical path with
    | .ok canonical => .ok canonical
    | .error cause => .error (.fileRead path cause)

end SearchOptions

end NamedExports.Package
