import NamedExports.Path

/-!
# Specifiers

What a module is imported by: a path, or the name of a package with a subpath inside it.  A package
name is one segment long, or two if it starts with `@`.
-/

namespace NamedExports

/-- A package and what is wanted of it. -/
structure PackageSpecifier where
  name : String
  /-- The path inside the package, which is never empty. -/
  subpath : Option String
  deriving Repr, DecidableEq

namespace Specifier

/-- Whether a specifier is a path and not the name of a package. -/
def isPath (specifier : String) : Bool :=
  let chars := specifier.toList
  specifier == "." || specifier == ".." || ("./".toList).isPrefixOf chars ||
    ("../".toList).isPrefixOf chars || (Path.mk specifier).isAbsolute

/-- A subpath, unless it is empty. -/
def subpath? (chars : List Char) : Option String :=
  if chars.isEmpty then none else some (String.ofList chars)

/-- The package that a specifier names, and the subpath in it. -/
def split (specifier : String) : PackageSpecifier :=
  let chars := specifier.toList
  match Text.splitOnce '/' chars with
  | none => ⟨specifier, none⟩
  | some (first, rest) =>
    if ['@'].isPrefixOf chars then
      match Text.splitOnce '/' rest with
      | none => ⟨specifier, none⟩
      | some (second, rest) => ⟨String.ofList (first ++ '/' :: second), subpath? rest⟩
    else ⟨String.ofList first, subpath? rest⟩

end Specifier

end NamedExports
