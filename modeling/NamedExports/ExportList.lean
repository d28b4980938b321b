import NamedExports.Name

/-!
# Export lists

The answer of a resolution: names that can be exported, each once, in the order in which they were
first found.
-/

namespace NamedExports

/-- The names a package exports. -/
structure ExportList where
  exports : List String
  deriving Repr, DecidableEq

namespace ExportList

/-- The members of a list that are not in `seen`, each once, at its first place. -/
def firstOccurrences (seen : List String) : List String → List String
  | [] => []
  | name :: rest =>
    if seen.contains name then firstOccurrences seen rest
    else name :: firstOccurrences (name :: seen) rest

/-- The list of the candidates that can be exported, without repetitions. -/
def ofCandidates (candidates : List String) : ExportList :=
  ⟨firstOccurrences [] (candidates.filter Name.isExportable)⟩

/-- Whether a name is exported. -/
def contains (list : ExportList) (name : String) : Bool := list.exports.contains name

/-- The number of names. -/
def size (list : ExportList) : Nat := list.exports.length

/-- Whether no name is exported. -/
def isEmpty (list : ExportList) : Bool := list.exports.isEmpty

/-- The names in ascending order. -/
def sorted (list : ExportList) : List String := list.exports.mergeSort (fun a b => a ≤ b)

end ExportList

end NamedExports
