import NamedExports.Text.Cut

/-!
# Fallback policy

Which packages may be loaded when scanning them found nothing.  Loading runs a package's code, so it
is allowed only for packages that are listed by name.
-/

namespace NamedExports

/-- Which packages may be loaded. -/
structure FallbackPolicy where
  enabled : Bool
  packages : List String
  deriving Repr, DecidableEq

namespace FallbackPolicy

/-- Packages that export what only shows once they are loaded. -/
def defaultPackages : List String := ["typescript", "he"]

/-- The policy that allows the given packages. -/
def ofPackages (packages : List String) : FallbackPolicy := ⟨true, packages⟩

/-- The policy that allows no package. -/
def disabled : FallbackPolicy := ⟨false, []⟩

/-- The policy where nothing else is set. -/
def standard : FallbackPolicy := .ofPackages defaultPackages

/-- Whether a specifier names a package or something inside it. -/
def names (package specifier : String) : Bool :=
  specifier == package ||
    (match Text.stripStart package.toList specifier.toList with
      | some ('/' :: _) => true
      | _ => false)

/-- Whether the module that a specifier names may be loaded. -/
def allows (policy : FallbackPolicy) (specifier : String) : Bool :=
  policy.enabled && policy.packages.any (names · specifier)

/-- Whether a module is loaded, given how many names scanning found. -/
def shouldLoad (policy : FallbackPolicy) (specifier : String) (found : Nat) : Bool :=
  found == 0 && policy.allows specifier

end FallbackPolicy

end NamedExports
