import NamedExports.Json.Value
import NamedExports.Path

/-!
# The exports of a package

The `exports` entry of a manifest.  A target is a path inside the package, a list of targets of
which the first that exists counts, or an object of targets under conditions, of which the
configured conditions are tried in their order.  An object with a key that starts with a dot maps
subpaths to targets; in such a key `*` stands for any text, which then replaces every `*` in the
target.
-/

namespace NamedExports.Package

open Json (Value)

/-- What a target is resolved with. -/
structure Lookup where
  /-- Whether a path leads to a file. -/
  isFile : Path → Bool
  /-- The conditions that hold, in order of precedence. -/
  conditions : List String
  /-- The directory of the package. -/
  directory : Path

namespace Lookup

/-- The file that the text of a target names. -/
def fileOf (lookup : Lookup) (wildcard : Option (List Char)) (target : String) : Option Path :=
  let text :=
    match wildcard with
    | some replacement => String.ofList (Text.replaceAll '*' target.toList replacement)
    | none => target
  let path := lookup.directory.join text
  if lookup.isFile path then some path else none

mutual

/-- The file that a target leads to. -/
def target? (lookup : Lookup) (wildcard : Option (List Char)) : Value → Option Path
  | .string text => lookup.fileOf wildcard text
  | .array items => firstTarget? lookup wildcard items
  | .object members =>
    let files := memberTargets lookup wildcard members
    lookup.conditions.findSome? fun condition => (Value.lastMember? condition files).join
  | _ => none

/-- The file that the first of several targets leads to which leads to one. -/
def firstTarget? (lookup : Lookup) (wildcard : Option (List Char)) : List Value → Option Path
  | [] => none
  | value :: rest => (target? lookup wildcard value).or (firstTarget? lookup wildcard rest)

/-- What the targets under each condition lead to. -/
def memberTargets (lookup : Lookup) (wildcard : Option (List Char)) :
    List (String × Value) → List (String × Option Path)
  | [] => []
  | (condition, value) :: rest =>
    (condition, target? lookup wildcard value) :: memberTargets lookup wildcard rest

end

end Lookup

/-! ## Subpaths -/

/-- What the `*` of a pattern stands for in a key. -/
def matchPattern? (key pattern : List Char) : Option (List Char) :=
  (Text.splitOnce '*' pattern).bind fun (start, ending) =>
    (Text.stripStart start key).bind (Text.stripEnd ending)

/-- How specific a pattern is: the length before its `*`, then the whole length. -/
def rank (pattern : String) : Nat × Nat :=
  let chars := pattern.toList
  ((chars.takeWhile (· != '*')).length, chars.length)

/-- Whether a pattern is at most as specific as another one. -/
def atMost (a b : String) : Bool :=
  let (start, length) := rank a
  let (start', length') := rank b
  start < start' || (start == start' && length ≤ length')

/-- The most specific pattern that matches a key, with what its `*` stands for. -/
def bestPattern? (key : List Char) : List String → Option (String × List Char)
  | [] => none
  | pattern :: rest =>
    match matchPattern? key pattern.toList, bestPattern? key rest with
    | none, best => best
    | some wildcard, none => some (pattern, wildcard)
    | some wildcard, some (best, text) =>
      if atMost pattern best then some (best, text) else some (pattern, wildcard)

/-- The key under which a package lists a subpath. -/
def exportKey (subpath : Option String) : String :=
  match subpath with
  | some path => "./" ++ path
  | none => "."

/-- Whether an object maps subpaths, rather than conditions. -/
def mapsSubpaths (members : List (String × Value)) : Bool :=
  members.any fun member => ['.'].isPrefixOf member.1.toList

/-- The file that the map of subpaths leads to.  An exact key counts before any pattern. -/
def ofSubpath? (lookup : Lookup) (members : List (String × Value)) (key : String) : Option Path :=
  match Value.lastMember? key members with
  | some target => lookup.target? none target
  | none =>
    (bestPattern? key.toList (Value.object members).keys).bind fun (pattern, wildcard) =>
      (Value.lastMember? pattern members).bind (lookup.target? (some wildcard))

/-- The file that the exports of a package lead to. -/
def ofExports? (lookup : Lookup) (subpath : Option String) (exports : Value) : Option Path :=
  match exports with
  | .object members =>
    if mapsSubpaths members then ofSubpath? lookup members (exportKey subpath)
    else if subpath.isNone then lookup.target? none exports
    else none
  | .string _ | .array _ => if subpath.isNone then lookup.target? none exports else none
  | _ => none

end NamedExports.Package
