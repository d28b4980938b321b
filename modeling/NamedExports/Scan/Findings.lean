/-!
# What a scan finds

The names one module exports and the modules it exports wholesale, each in the order found and with
repetitions.  Findings are joined with `++`.

A re-export target is a specifier, followed by `()` when the required module is called and it is the
call's result that is exported.
-/

namespace NamedExports

/-- What a re-export target ends with when the required module is called. -/
def callMarker : String := "()"

/-- A module that is exported wholesale, and whether it is called first. -/
structure Reexport where
  specifier : String
  called : Bool
  deriving Repr, DecidableEq

namespace Reexport

/-- Writes a target. -/
def encode (r : Reexport) : String :=
  if r.called then r.specifier ++ callMarker else r.specifier

/-- Reads a target: a marker at the very end means a call, and one anywhere else nothing. -/
def decode (target : String) : Reexport :=
  let chars := target.toList
  let marker := callMarker.toList
  if marker.isSuffixOf chars then
    ⟨String.ofList (chars.take (chars.length - marker.length)), true⟩
  else ⟨target, false⟩

end Reexport

/-- The names and re-export targets found so far. -/
structure Findings where
  exports : List String
  reexports : List String
  deriving Repr, DecidableEq

namespace Findings

/-- Nothing. -/
def none : Findings := ⟨[], []⟩

/-- Names. -/
def names (exports : List String) : Findings := ⟨exports, []⟩

/-- One re-export. -/
def reexport (specifier : String) (called : Bool) : Findings :=
  ⟨[], [(Reexport.mk specifier called).encode]⟩

/-- One after the other. -/
def append (a b : Findings) : Findings := ⟨a.exports ++ b.exports, a.reexports ++ b.reexports⟩

instance : Append Findings := ⟨append⟩

instance : EmptyCollection Findings := ⟨none⟩

/-- All of a list of findings, in order. -/
def join (all : List Findings) : Findings := all.foldr append none

end Findings

end NamedExports
