import NamedExports.Fallback
import NamedExports.Proofs.Package.Specifier

/-!
# Which specifiers the fallback covers

A package covers its own name and whatever follows that name and a slash.  These are the specifiers
that are resolved in the package of that name, `allows_iff_mem`, so what may be loaded and what is
found never belong to different packages.
-/

namespace NamedExports.FallbackPolicy

variable {policy : FallbackPolicy} {package specifier : String}

/-- A package covers the specifiers that start with it. -/
theorem names_iff_startsWith :
    names package specifier = true ↔ Specifier.StartsWith specifier package.toList := by
  rw [names, Bool.or_eq_true, beq_iff_eq, Specifier.StartsWith, String.toList_inj]
  refine or_congr_right ⟨fun h => ?_, ?_⟩
  · split at h
    · rename_i rest hstrip
      exact ⟨rest, Text.stripStart_eq_some_iff.mp hstrip⟩
    · cases h
  · rintro ⟨rest, hrest⟩
    simp only [Text.stripStart_eq_some_iff.mpr hrest]

/-- A specifier names a package by its name, or by its name, a slash and more. -/
theorem names_iff :
    names package specifier = true ↔
      specifier = package ∨ ∃ rest, specifier = package ++ "/" ++ rest := by
  rw [names_iff_startsWith, Specifier.startsWith_iff]

/-- A policy covers what its packages cover, if it is enabled. -/
theorem allows_iff :
    policy.allows specifier = true ↔ policy.enabled = true ∧ ∃ package ∈ policy.packages,
      specifier = package ∨ ∃ rest, specifier = package ++ "/" ++ rest := by
  simp only [allows, Bool.and_eq_true, List.any_eq_true, names_iff]

/-- A policy covers the specifiers whose first segments are those of a package. -/
theorem allows_iff_splitOn_prefix :
    policy.allows specifier = true ↔ policy.enabled = true ∧ ∃ package ∈ policy.packages,
      Text.splitOn '/' package.toList <+: Text.splitOn '/' specifier.toList := by
  simp only [allows, Bool.and_eq_true, List.any_eq_true, names_iff_startsWith,
    Specifier.StartsWith, Text.splitOn_prefix_iff]

/-- A policy for packages covers the specifiers that are resolved in one of them. -/
theorem allows_iff_mem (h : ∀ package ∈ policy.packages, Specifier.IsName package) :
    policy.allows specifier = true ↔
      policy.enabled = true ∧ (Specifier.split specifier).name ∈ policy.packages := by
  simp only [allows, Bool.and_eq_true, List.any_eq_true, names_iff_startsWith]
  refine and_congr_right fun _ => ⟨?_, fun hmem => ?_⟩
  · rintro ⟨package, hmem, hstarts⟩
    rwa [(Specifier.split_name_eq_iff (h package hmem)).mpr hstarts]
  · exact ⟨_, hmem, Specifier.startsWith_split_name specifier⟩

/-- The policy for one package covers a specifier exactly if the specifier is resolved in that
package.  Any policy covers a specifier exactly if it is enabled and the segments of one of its
packages are the first segments of the specifier.  A specifier is the name that it is resolved by,
or that name and a slash, or that name, a slash and the subpath that is looked for. -/
theorem allows_iff_split_name (policy : FallbackPolicy) (specifier : String) :
    (∀ name, Specifier.IsName name →
        ((ofPackages [name]).allows specifier = true ↔ (Specifier.split specifier).name = name)) ∧
      (policy.allows specifier = true ↔ policy.enabled = true ∧ ∃ package ∈ policy.packages,
        Text.splitOn '/' package.toList <+: Text.splitOn '/' specifier.toList) ∧
      ((Specifier.split specifier).subpath = none ∧
          (specifier = (Specifier.split specifier).name ∨
            specifier = (Specifier.split specifier).name ++ "/") ∨
        ∃ text, (Specifier.split specifier).subpath = some text ∧ text ≠ "" ∧
          specifier = (Specifier.split specifier).name ++ "/" ++ text) := by
  refine ⟨fun name hname => ?_, allows_iff_splitOn_prefix, Specifier.split_loses_nothing specifier⟩
  have hnames : ∀ package ∈ (ofPackages [name]).packages, Specifier.IsName package := by
    simpa [ofPackages] using hname
  rw [allows_iff_mem hnames]
  simp [ofPackages]

/-- A subpath with a doubled slash belongs to its package, and a package in a scope covers no other
one whose name goes on behind it. -/
theorem allows_iff_split_name_scoped :
    Specifier.IsName "@x/he" ∧ (ofPackages ["@x/he"]).allows "@x/he//lib" = true ∧
      ¬ (ofPackages ["@x/he"]).allows "@x/hello" = true := by
  have hname : Specifier.IsName "@x/he" :=
    @Specifier.IsName.inScope _ ['x'] ['h', 'e'] rfl (by decide) (by decide)
  refine ⟨hname, ?_, fun h => ?_⟩
  · exact ((allows_iff_split_name .standard "@x/he//lib").1 "@x/he" hname).mpr (by decide)
  · have hsplit := ((allows_iff_split_name .standard "@x/hello").1 "@x/he" hname).mp h
    exact absurd hsplit (by decide)

end NamedExports.FallbackPolicy
