import NamedExports.Proofs.Disk.Tree
import NamedExports.Proofs.Package.Looks

/-!
# Results as specifiers

What a search comes to is the path of a file itself, past no link, and as a specifier that path names
this file and nothing else, wherever the search starts and whatever it prefers: `resolve_result`.
-/

namespace NamedExports.Package.SearchOptions

open Disk (Fits IsName)

variable {options : SearchOptions} {disk : Disk} {base path result : Path} {specifier : String}

/-- The absolute path of a file is found as it is written. -/
theorem find?_of_isFile (options : SearchOptions) (base : Path) (habsolute : path.isAbsolute = true)
    (hfile : disk.isFile path = true) : options.find? disk base path.text = .ok (some path) := by
  have hempty : ¬ path.text.isEmpty = true := by
    rw [Bool.not_eq_true]
    exact Path.isEmpty_of_isAbsolute habsolute
  have hpath : Specifier.isPath path.text = true := by
    rw [Specifier.isPath]
    exact (Bool.or_eq_true _ _).mpr (Or.inr habsolute)
  have hfound : options.file? disk path = some path := by
    rw [file?, List.find?_cons_of_pos hfile]
  have hjoin : base.join path.text = path := Path.join_of_isAbsolute habsolute
  simp only [find?, if_neg hempty, if_pos hpath, hjoin, fileOrEntry?, hfound]

/-- A result is the path of the location of a file, and short enough to be followed. -/
theorem exists_file_of_resolve (h : options.resolve disk base specifier = .ok result) :
    ∃ location content executable, result = Disk.pathOf location ∧ Fits result ∧
      disk.lookup? location = some (.file content executable) := by
  obtain ⟨path, hfind, hcanonical⟩ := exists_find?_of_resolve h
  obtain ⟨location, content, executable, hlocate, hentry⟩ :=
    Disk.isFile_iff.mp (mem_candidates_of_find? hfind).2
  obtain ⟨there, hthere, hfits, hresult⟩ := Disk.canonical_eq_ok_iff.mp hcanonical
  obtain rfl := Except.ok.inj (hlocate.symm.trans hthere)
  exact ⟨location, content, executable, hresult, hfits, hentry⟩

/-- In a file tree, links or not, a result is the absolute path of a file by names alone, with no
link on the way.  As a specifier it is its own result, from every base and for every search. -/
theorem resolve_result (tree : disk.IsTree)
    (h : options.resolve disk base specifier = .ok result) :
    result.isAbsolute = true ∧
      (∃ location content executable, result = Disk.pathOf location ∧
        (∀ name ∈ location, IsName name) ∧
        disk.lookup? location = some (.file content executable) ∧
        ∀ front, front <+: location → ∀ target, disk.lookup? front ≠ some (.link target)) ∧
      disk.isFile result = true ∧
      ∀ (other : SearchOptions) (anywhere : Path),
        other.resolve disk anywhere result.text = .ok result := by
  obtain ⟨location, content, executable, rfl, hfits, hentry⟩ := exists_file_of_resolve h
  have habsolute : (Disk.pathOf location).isAbsolute = true := Path.isAbsolute_ofSegments location
  have hlink (target : Path) : Entry.file content executable ≠ .link target := by
    simp
  have hlocate := tree.locate_pathOf hentry hlink hfits
  have hfile : disk.isFile (Disk.pathOf location) = true :=
    Disk.isFile_iff.mpr ⟨location, content, executable, hlocate, hentry⟩
  refine ⟨habsolute, ⟨location, content, executable, rfl,
    fun name hname => (tree.isName_of_lookup? hentry name hname).1, hentry,
    fun front hfront => tree.not_link_of_prefix hentry hlink hfront⟩, hfile,
    fun other anywhere => ?_⟩
  rw [resolve_eq_ok_iff_of_find? (find?_of_isFile other anywhere habsolute hfile),
    Disk.canonical_of_locate hlocate, if_pos hfits]

/-- A directory behind a link, with a file that is called like others but for their extensions. -/
def linkedDisk : Disk where
  entries := [(["app".toList], .directory), (["app".toList, "lib".toList], .link "real"),
    (["app".toList, "real".toList], .directory),
    (["app".toList, "real".toList, "x".toList], .file [] false),
    (["app".toList, "real".toList, "x.js".toList], .file [] false),
    (["app".toList, "real".toList, "index.js".toList], .file [] false)]
  workingDirectory := ["app".toList]

/-- A file that was found through a link is found again where it really lies. -/
theorem resolve_linked :
    linkedDisk.IsTree ∧
      ({} : SearchOptions).resolve linkedDisk "." "./lib/x" = .ok "/app/real/x" ∧
      linkedDisk.isFile "/app/real/x" = true ∧
      ({ extensions := ["js"] } : SearchOptions).resolve linkedDisk "/nowhere" "/app/real/x" =
        .ok "/app/real/x" := by
  have tree : linkedDisk.IsTree :=
    ⟨by decide +kernel, by decide +kernel, by decide +kernel⟩
  have hresolve : ({} : SearchOptions).resolve linkedDisk "." "./lib/x" = .ok "/app/real/x" := by
    decide +kernel
  obtain ⟨-, -, hfile, hagain⟩ := resolve_result tree hresolve
  exact ⟨tree, hresolve, hfile, hagain { extensions := ["js"] } "/nowhere"⟩

end NamedExports.Package.SearchOptions
