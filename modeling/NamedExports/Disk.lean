import NamedExports.Failure
import NamedExports.Text.Utf8

/-!
# The disk

A file tree with symbolic links, as a value, and the working directory that relative paths start at.
A location names an entry by the names from the root down to it, free of links and dots; the root
itself is always a directory.

A path is walked segment by segment from where it starts.  Every segment must be looked up in a
directory, even a blank one; a link's target takes the link's place in the path, at most forty times
in one walk.
-/

namespace NamedExports

/-- The names from the root of the file system down to an entry. -/
abbrev Location := List (List Char)

/-- What stands at a location. -/
inductive Entry where
  | file (content : List UInt8) (executable : Bool)
  | directory
  | link (target : Path)
  deriving Repr, DecidableEq

/-- A file tree and a working directory in it. -/
structure Disk where
  entries : List (Location × Entry)
  workingDirectory : Location

namespace Disk

/-- The entry at a location. -/
def lookup? (disk : Disk) (location : Location) : Option Entry :=
  if location.isEmpty then some .directory
  else (disk.entries.find? fun entry => entry.1 == location).map (·.2)

/-- Whether a directory stands at a location. -/
def hasDirectory (disk : Disk) (location : Location) : Bool :=
  disk.lookup? location == some .directory

/-! ## Walking a path -/

/-- Where a walk ends. -/
inductive Place where
  /-- At an entry that is no link. -/
  | found (location : Location)
  /-- At a name that its directory lacks, with the segments behind it. -/
  | missing (directory : Location) (name : List Char) (rest : List (List Char))
  deriving Repr, DecidableEq

/-- The greatest length of a name, in bytes. -/
def maxName : Nat := 255

/-- The greatest length of a path, in bytes. -/
def maxPath : Nat := 4095

/-- The number of links that one walk may follow. -/
def maxLinks : Nat := 40

/-- Walks segments from a location.  At a link the walk goes on as `onLink` says. -/
def walkWith (onLink : Location → List (List Char) → Except IoError Place) (disk : Disk)
    (here : Location) : List (List Char) → Except IoError Place
  | [] => .ok (.found here)
  | segment :: rest =>
    if !disk.hasDirectory here then .error .notADirectory
    else if segment.isEmpty || segment == ['.'] then walkWith onLink disk here rest
    else if segment == ['.', '.'] then walkWith onLink disk here.dropLast rest
    else if (Text.Utf8.encode segment).length > maxName then .error .nameTooLong
    else
      match disk.lookup? (here ++ [segment]) with
      | none => .ok (.missing here segment rest)
      | some (.link target) =>
        onLink (if target.isAbsolute then [] else here) (target.segments ++ rest)
      | some _ => walkWith onLink disk (here ++ [segment]) rest

/-- Walks segments from a location, following no more links than allowed. -/
def walk (disk : Disk) : Nat → Location → List (List Char) → Except IoError Place
  | 0 => walkWith (fun _ _ => .error .tooManyLinks) disk
  | links + 1 => walkWith (walk disk links) disk

/-- A path that is short enough to be followed. -/
def Fits (path : Path) : Prop := path.text.utf8ByteSize ≤ maxPath

instance (path : Path) : Decidable (Fits path) :=
  inferInstanceAs (Decidable (path.text.utf8ByteSize ≤ maxPath))

/-- Refuses what cannot be a path. -/
def checkPath (path : Path) : Except IoError Unit :=
  if path.text.toList.contains '\x00' then .error .nulInName
  else if path.isEmpty then .error .notFound
  else if Fits path then .ok ()
  else .error .nameTooLong

/-- Where a path's walk starts. -/
def start (disk : Disk) (path : Path) : Location :=
  if path.isAbsolute then [] else disk.workingDirectory

/-- Where a path leads. -/
def place (disk : Disk) (path : Path) : Except IoError Place := do
  checkPath path
  disk.walk maxLinks (disk.start path) path.segments

/-- The location of the entry that a path leads to. -/
def locate (disk : Disk) (path : Path) : Except IoError Location := do
  match ← disk.place path with
  | .found location => .ok location
  | .missing .. => .error .notFound

/-! ## Looking -/

/-- The entry that a path leads to. -/
def entry? (disk : Disk) (path : Path) : Option Entry :=
  (disk.locate path).toOption.bind disk.lookup?

/-- Whether a path leads to anything. -/
def hasEntry (disk : Disk) (path : Path) : Bool := (disk.entry? path).isSome

/-- Whether a path leads to a file. -/
def isFile (disk : Disk) (path : Path) : Bool :=
  match disk.entry? path with
  | some (.file ..) => true
  | _ => false

/-- Whether a path leads to a directory. -/
def isDirectory (disk : Disk) (path : Path) : Bool := disk.entry? path == some .directory

/-- The absolute path of a location. -/
def pathOf (location : Location) : Path := Path.ofSegments true location

/-- The absolute path, free of links and dots, of what a path leads to.  It has to be short enough to
be followed itself. -/
def canonical (disk : Disk) (path : Path) : Except IoError Path := do
  let canonical := pathOf (← disk.locate path)
  if Fits canonical then .ok canonical else .error .nameTooLong

/-- The content of the file that a path leads to. -/
def readBytes (disk : Disk) (path : Path) : Except IoError (List UInt8) := do
  match disk.lookup? (← disk.locate path) with
  | some (.file content _) => .ok content
  | some .directory => .error .isADirectory
  | _ => .error .notFound

/-- The content of a file as text, whatever its bytes. -/
def readLossy (disk : Disk) (path : Path) : Except IoError String :=
  (disk.readBytes path).map fun bytes => String.ofList (Text.Utf8.decodeLossy bytes)

/-- The content of a file that must be valid UTF-8. -/
def readText (disk : Disk) (path : Path) : Except IoError String := do
  match Text.Utf8.decode? (← disk.readBytes path) with
  | some chars => .ok (String.ofList chars)
  | none => .error .invalidUtf8

/-! ## Changing -/

/-- The disk with an entry at a location. -/
def put (disk : Disk) (location : Location) (entry : Entry) : Disk :=
  { disk with entries := (location, entry) :: disk.entries.filter fun e => !(e.1 == location) }

/-- Whether a path ends in a slash. -/
def endsInSlash (path : Path) : Bool := ['/'].isSuffixOf path.text.toList

/-- The segments of a path up to its last one that is not empty. -/
def namedSegments (path : Path) : List (List Char) :=
  (path.segments.reverse.dropWhile List.isEmpty).reverse

/-- The directory that holds the last segment of a path, which need not exist, and that segment.
It is `none` for the root. -/
def holder (disk : Disk) (path : Path) : Except IoError (Location × Option (List Char)) := do
  checkPath path
  let names := namedSegments path
  match ← disk.walk maxLinks (disk.start path) names.dropLast with
  | .found directory =>
    if disk.hasDirectory directory then .ok (directory, names.getLast?)
    else .error .notADirectory
  | .missing .. => .error .notFound

/-- Writes a file, which is made if there is none. -/
def write (disk : Disk) (path : Path) (content : List UInt8) : Except IoError Disk := do
  if endsInSlash path then
    let _ ← disk.holder path
    .error .isADirectory
  else
    match ← disk.place path with
    | .found location =>
      match disk.lookup? location with
      | some (.file _ executable) => .ok (disk.put location (.file content executable))
      | _ => .error .isADirectory
    | .missing directory name rest =>
      if rest.isEmpty then .ok (disk.put (directory ++ [name]) (.file content false))
      else if rest.all List.isEmpty then .error .isADirectory
      else .error .notFound

/-- Writes a text to a file. -/
def writeText (disk : Disk) (path : Path) (text : String) : Except IoError Disk :=
  disk.write path (Text.Utf8.encode text.toList)

/-- Makes an entry at a path where there is none, not even a link. -/
def make (disk : Disk) (path : Path) (entry : Entry) : Except IoError Disk := do
  match ← disk.holder path with
  | (_, none) => .error .alreadyExists
  | (directory, some name) =>
    if name == ['.'] || name == ['.', '.'] then .error .alreadyExists
    else if (Text.Utf8.encode name).length > maxName then .error .nameTooLong
    else
      match disk.lookup? (directory ++ [name]) with
      | some _ => .error .alreadyExists
      | none => .ok (disk.put (directory ++ [name]) entry)

/-- Makes a directory, unless there is one already. -/
def makeDirectory (disk : Disk) (path : Path) : Except IoError Disk :=
  match disk.make path .directory with
  | .ok disk => .ok disk
  | .error cause => if disk.isDirectory path then .ok disk else .error cause

/-- Makes the first of a list of directories, each of which lies in the next.  The others are made
only if it cannot be made without them. -/
def makeDirectories (disk : Disk) : List Path → Except IoError Disk
  | [] => .ok disk
  | path :: parents =>
    if path.isEmpty then .ok disk
    else
      match disk.makeDirectory path with
      | .error .notFound => do (← makeDirectories disk parents).makeDirectory path
      | outcome => outcome

/-- Makes a directory and those above it. -/
def makeDirectoryTree (disk : Disk) (path : Path) : Except IoError Disk :=
  disk.makeDirectories path.ancestors

end Disk

end NamedExports
