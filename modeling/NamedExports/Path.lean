import NamedExports.Text.Cut

/-!
# Paths

File paths as they are written.  A path is kept as text and printed as it was given; what it means
is read from its segments, the parts between slashes.  A segment is blank if it names nothing: an
empty one, and `.` anywhere but at the start of a relative path.  All that is said of a path's end
(its name, its parent) disregards blank segments there.
-/

namespace NamedExports

/-- A file path, absolute or relative. -/
structure Path where
  text : String
  deriving Repr, DecidableEq, Inhabited

namespace Path

instance : Coe String Path := ⟨Path.mk⟩

/-- Whether a path starts at the root of the file system. -/
def isAbsolute (path : Path) : Bool := ['/'].isPrefixOf path.text.toList

/-- Whether a path has no text at all. -/
def isEmpty (path : Path) : Bool := path.text.isEmpty

/-- The parts between slashes, behind the slash that an absolute path starts with. -/
def segments (path : Path) : List (List Char) :=
  match path.text.toList with
  | '/' :: rest => Text.splitOn '/' rest
  | chars => Text.splitOn '/' chars

/-- The path with the given segments. -/
def ofSegments (absolute : Bool) (segments : List (List Char)) : Path :=
  let body := Text.joinWith '/' segments
  ⟨String.ofList (if absolute then '/' :: body else body)⟩

/-- A path behind another one.  An absolute path replaces it; otherwise one slash parts the two. -/
def join (base : Path) (rest : String) : Path :=
  let front := base.text.toList
  let back := rest.toList
  if ['/'].isPrefixOf back then ⟨rest⟩
  else if front.isEmpty || ['/'].isSuffixOf front then ⟨String.ofList (front ++ back)⟩
  else ⟨String.ofList (front ++ '/' :: back)⟩

/-- A path with a dot and an extension after all of its text. -/
def withSuffix (path : Path) (extension : String) : Path :=
  ⟨path.text ++ "." ++ extension⟩

/-! ## Ends of paths -/

/-- Whether a segment names nothing, given the segments before it. -/
def isBlank (absolute : Bool) (before : List (List Char)) (segment : List Char) : Bool :=
  segment.isEmpty || (segment == ['.'] && (absolute || !before.isEmpty))

/-- The paths that end in each of the segments that name something, the longest first, and at last
the empty one.  Segments are given, and answered, last one first. -/
def endings (absolute : Bool) : List (List Char) → List (List (List Char))
  | [] => [[]]
  | segment :: before =>
    if isBlank absolute before segment then endings absolute before
    else (segment :: before) :: endings absolute before

/-- The endings of a path itself. -/
def ends (path : Path) : List (List (List Char)) :=
  endings path.isAbsolute path.segments.reverse

/-- The path, its parent, the parent's parent and so on, up to the root or the empty path. -/
def ancestors (path : Path) : List Path :=
  path :: path.ends.tail.map fun reversed => ofSegments path.isAbsolute reversed.reverse

/-- The path without its last name.  The root and the empty path have none. -/
def parent? (path : Path) : Option Path := path.ancestors.tail.head?

/-- The last name of a path that does not end in `.` or `..`. -/
def fileName? (path : Path) : Option (List Char) :=
  match path.ends.head? with
  | some (name :: _) => if name == ['.'] || name == ['.', '.'] then none else some name
  | _ => none

/-- What follows the last dot of a path's name, unless that dot is the name's first character. -/
def extension? (path : Path) : Option String :=
  path.fileName?.bind fun name =>
    (Text.splitOnce '.' name.reverse).bind fun (ending, start) =>
      if start.isEmpty then none else some (String.ofList ending.reverse)

/-! ## Kinds of modules -/

/-- Whether a path is that of a JSON file. -/
def isJson (path : Path) : Bool := (".json".toList).isSuffixOf path.text.toList

/-- The extensions of the modules that are scanned. -/
def scannedExtensions : List String := ["js", "cjs"]

/-- Whether a path is that of a module that is scanned. -/
def isScanned (path : Path) : Bool :=
  path.extension?.any scannedExtensions.contains

end Path

end NamedExports
