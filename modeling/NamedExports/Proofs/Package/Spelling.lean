import Mathlib.Data.List.Forall2
import NamedExports.Proofs.Disk.Canonical
import NamedExports.Proofs.Package.Looks
import NamedExports.Proofs.Package.Specifier

/-!
# Spellings of a base directory

A search from two paths to one directory looks at the same places and comes to the same result, as
long as it finds a package in the same directory: `resolve_of_spelling`.  For a path that is always
so, and for the name of a package if the base is absolute and never goes up.
-/

namespace NamedExports

/-- Two failures of one kind and cause, whose paths may be written differently. -/
inductive Failure.Alike : Failure → Failure → Prop where
  | malformedJson (p q : Path) (detail : String) :
    Alike (.malformedJson p detail) (.malformedJson q detail)
  | moduleNotFound (specifier : String) (p q : Path) :
    Alike (.moduleNotFound specifier p) (.moduleNotFound specifier q)
  | fileRead (p q : Path) (cause : IoError) : Alike (.fileRead p cause) (.fileRead q cause)

/-- Two answers with related values, or with failures of one kind and cause. -/
inductive AnswersAlike {α : Type} (R : α → α → Prop) : Except Failure α → Except Failure α → Prop
  where
  | ok {a b : α} (h : R a b) : AnswersAlike R (.ok a) (.ok b)
  | error {f g : Failure} (h : f.Alike g) : AnswersAlike R (.error f) (.error g)

namespace Package

open Json (Value)
open Disk (Fits)

variable {disk : Disk} {p q : Path}

/-! ## Looks at the same places -/

/-- Two spellings of one place have the same manifest, or fail alike. -/
theorem readManifest_alike (h : disk.SamePlace p q) :
    AnswersAlike Eq (readManifest disk p) (readManifest disk q) := by
  rw [readManifest, readManifest, h.readText]
  cases disk.readText q with
  | error cause => exact .error (.fileRead p q cause)
  | ok text =>
    dsimp only
    cases Json.read text with
    | error cause => exact .error (.malformedJson p q cause.message)
    | ok value => exact .ok rfl

/-- Two directories have one manifest if it lies at one place. -/
theorem manifestOf_congr (h : disk.SamePlace (p.join manifestName) (q.join manifestName)) :
    manifestOf disk p = manifestOf disk q := by
  have halike := readManifest_alike h
  rw [manifestOf, manifestOf, manifest?, manifest?, h.isFile]
  generalize readManifest disk (p.join manifestName) = first at halike ⊢
  generalize readManifest disk (q.join manifestName) = second at halike ⊢
  cases halike with
  | ok hvalue => rw [hvalue]
  | error hfailure => split <;> rfl

namespace Look

/-- Two looks for the same thing at one place. -/
inductive Alike (disk : Disk) : Look → Look → Prop where
  | file {p q : Path} (h : disk.SamePlace p q) : Alike disk (.file p) (.file q)
  | manifest {p q : Path} (h : disk.SamePlace p q) : Alike disk (.manifest p) (.manifest q)

/-- Looks at the same places come to the same. -/
theorem outcome_alike {looks others : List Look} (h : List.Forall₂ (Alike disk) looks others) :
    AnswersAlike (Option.Rel disk.SamePlace) (outcome disk looks) (outcome disk others) := by
  induction h with
  | nil => exact .ok .none
  | cons hfirst hrest ih =>
    cases hfirst with
    | file hplace =>
      rw [outcome_file_cons, outcome_file_cons, hplace.isFile]
      split
      · exact .ok (.some hplace)
      · exact ih
    | @manifest p q hplace =>
      have halike := readManifest_alike hplace
      rw [outcome_manifest_cons, outcome_manifest_cons, hplace.isFile]
      generalize readManifest disk p = first at halike ⊢
      generalize readManifest disk q = second at halike ⊢
      split
      · cases halike with
        | ok hvalue => exact ih
        | error hfailure => exact .error hfailure
      · exact ih

/-- Looks at the same places are alike. -/
theorem forall₂_map_file {paths others : List Path}
    (h : List.Forall₂ disk.SamePlace paths others) :
    List.Forall₂ (Alike disk) (paths.map file) (others.map file) := by
  rw [List.forall₂_map_left_iff, List.forall₂_map_right_iff]
  exact h.imp fun _ _ => .file

end Look

/-- Of paths to the same places the first directories lie at one place. -/
theorem find?_isDirectory_alike {paths others : List Path}
    (h : List.Forall₂ disk.SamePlace paths others) :
    (paths.find? disk.isDirectory).map disk.locate =
      (others.find? disk.isDirectory).map disk.locate := by
  induction h with
  | nil => rfl
  | cons hfirst hrest ih =>
    rw [List.find?_cons, List.find?_cons, hfirst.isDirectory]
    split
    · rw [Option.map_some, Option.map_some, hfirst.locate]
    · exact ih

namespace SearchOptions

variable (options : SearchOptions)

section

variable (h : disk.HasNoLinks) (hsame : disk.SameDirectory p q)

include h hsame

/-- The same texts joined to two spellings of one directory are spellings of the same places. -/
theorem forall₂_join {texts : List String} (hp : ∀ path ∈ texts.map p.join, Fits path)
    (hq : ∀ path ∈ texts.map q.join, Fits path) :
    List.Forall₂ disk.SamePlace (texts.map p.join) (texts.map q.join) := by
  rw [List.forall₂_map_left_iff, List.forall₂_map_right_iff, List.forall₂_same]
  intro text hmem
  exact hsame.join h (hp _ (List.mem_map_of_mem hmem)) (hq _ (List.mem_map_of_mem hmem))

/-- The files that a path may stand for are the same places. -/
theorem forall₂_filePaths {text : String}
    (hp : ∀ path ∈ options.filePaths (p.join text), Fits path)
    (hq : ∀ path ∈ options.filePaths (q.join text), Fits path) :
    List.Forall₂ disk.SamePlace (options.filePaths (p.join text))
      (options.filePaths (q.join text)) := by
  cases htext : (Path.mk text).isAbsolute with
  | true =>
    rw [Path.join_of_isAbsolute htext, Path.join_of_isAbsolute htext]
    exact List.forall₂_same.mpr fun _ _ => rfl
  | false =>
    have hpaths (base : Path) : options.filePaths (base.join text) =
        (text :: options.extensions.map fun extension => text ++ "." ++ extension).map
          base.join := by
      rw [filePaths, List.map_cons, List.map_map]
      exact congrArg _ (List.map_congr_left fun extension _ =>
        Path.withSuffix_join htext extension)
    rw [hpaths] at hp hq ⊢
    rw [hpaths]
    exact forall₂_join h hsame hp hq

/-- The index files of a directory are the same places. -/
theorem forall₂_indexPaths (hp : ∀ path ∈ options.indexPaths p, Fits path)
    (hq : ∀ path ∈ options.indexPaths q, Fits path) :
    List.Forall₂ disk.SamePlace (options.indexPaths p) (options.indexPaths q) := by
  have hpaths (directory : Path) : options.indexPaths directory =
      (options.extensions.map ("index." ++ ·)).map directory.join := by
    rw [indexPaths, List.map_map]
    rfl
  rw [hpaths] at hp hq ⊢
  rw [hpaths]
  exact forall₂_join h hsame hp hq

/-- The files that an entry may stand for are the same places. -/
theorem forall₂_entryPaths {text : String}
    (hp : ∀ path ∈ options.entryPaths disk (p.join text), Fits path)
    (hq : ∀ path ∈ options.entryPaths disk (q.join text), Fits path) :
    List.Forall₂ disk.SamePlace (options.entryPaths disk (p.join text))
      (options.entryPaths disk (q.join text)) := by
  rw [entryPaths, List.forall_mem_append] at hp hq
  have hfiles := forall₂_filePaths options h hsame hp.1 hq.1
  have hplace : disk.SamePlace (p.join text) (q.join text) :=
    hsame.join h (hp.1 _ List.mem_cons_self) (hq.1 _ List.mem_cons_self)
  refine List.rel_append hfiles ?_
  rw [hplace.isDirectory] at hp ⊢
  split
  · rename_i hdirectory
    rw [if_pos hdirectory] at hp hq
    exact forall₂_indexPaths options h
      (hplace.sameDirectory (hplace.isDirectory.trans hdirectory)) hp.2 hq.2
  · exact .nil

/-- What a directory offers by its manifest is the same. -/
theorem forall₂_directoryPaths {manifest : Option Value}
    (hp : ∀ path ∈ options.directoryPaths disk p manifest, Fits path)
    (hq : ∀ path ∈ options.directoryPaths disk q manifest, Fits path) :
    List.Forall₂ disk.SamePlace (options.directoryPaths disk p manifest)
      (options.directoryPaths disk q manifest) := by
  rw [directoryPaths, List.forall_mem_append] at hp hq
  refine List.rel_append ?_ (forall₂_indexPaths options h hsame hp.2 hq.2)
  have hentries := And.intro hp.1 hq.1
  generalize options.entries manifest = entries at hentries ⊢
  induction entries with
  | nil => exact .nil
  | cons entry rest ih =>
    rw [List.flatMap_cons, List.flatMap_cons, List.forall_mem_append, List.forall_mem_append]
      at hentries
    obtain ⟨⟨hfirst, hrest⟩, hfirst', hrest'⟩ := hentries
    rw [List.flatMap_cons, List.flatMap_cons]
    exact List.rel_append (forall₂_entryPaths options h hsame hfirst hfirst') (ih ⟨hrest, hrest'⟩)

/-- The looks at a path are alike. -/
theorem forall₂_pathLooks {text : String}
    (hp : ∀ look ∈ options.pathLooks disk (p.join text), Fits look.path)
    (hq : ∀ look ∈ options.pathLooks disk (q.join text), Fits look.path) :
    List.Forall₂ (Look.Alike disk) (options.pathLooks disk (p.join text))
      (options.pathLooks disk (q.join text)) := by
  rw [pathLooks, List.forall_mem_append, List.forall_mem_map] at hp hq
  have hfiles := forall₂_filePaths options h hsame hp.1 hq.1
  have hplace : disk.SamePlace (p.join text) (q.join text) :=
    hsame.join h (hp.1 _ List.mem_cons_self) (hq.1 _ List.mem_cons_self)
  refine List.rel_append (Look.forall₂_map_file hfiles) ?_
  rw [hplace.isDirectory] at hp ⊢
  split
  · rename_i hdirectory
    have hthere := hplace.sameDirectory (hplace.isDirectory.trans hdirectory)
    rw [if_pos hdirectory, List.forall_mem_cons, List.forall_mem_map] at hp hq
    have hmanifest : disk.SamePlace ((p.join text).join manifestName)
        ((q.join text).join manifestName) := hthere.join h hp.2.1 hq.2.1
    rw [manifestOf_congr hmanifest] at hp ⊢
    exact .cons (.manifest hmanifest)
      (Look.forall₂_map_file (forall₂_directoryPaths options h hthere hp.2.2 hq.2.2))
  · exact .nil

/-- The files that a manifest exports are the same places. -/
theorem forall₂_exportPaths {subpath : Option String} {manifest : Option Value}
    (hp : ∀ path ∈ exportPaths options.conditions p subpath manifest, Fits path)
    (hq : ∀ path ∈ exportPaths options.conditions q subpath manifest, Fits path) :
    List.Forall₂ disk.SamePlace (exportPaths options.conditions p subpath manifest)
      (exportPaths options.conditions q subpath manifest) := by
  exact forall₂_join h hsame hp hq

/-- The looks into a package are alike. -/
theorem forall₂_packageLooks {subpath : Option String}
    (hp : ∀ look ∈ options.packageLooks disk p subpath, Fits look.path)
    (hq : ∀ look ∈ options.packageLooks disk q subpath, Fits look.path) :
    List.Forall₂ (Look.Alike disk) (options.packageLooks disk p subpath)
      (options.packageLooks disk q subpath) := by
  unfold packageLooks at hp hq ⊢
  rw [List.forall_mem_cons, List.forall_mem_append, List.forall_mem_map] at hp hq
  have hmanifest : disk.SamePlace (p.join manifestName) (q.join manifestName) :=
    hsame.join h hp.1 hq.1
  rw [manifestOf_congr hmanifest] at hp ⊢
  refine .cons (.manifest hmanifest) (List.rel_append ?_ ?_)
  · exact Look.forall₂_map_file (forall₂_exportPaths options h hsame hp.2.1 hq.2.1)
  · cases subpath with
    | some text => exact forall₂_pathLooks options h hsame hp.2.2 hq.2.2
    | none =>
      have hpaths := And.intro hp.2.2 hq.2.2
      dsimp only at hpaths
      rw [List.forall_mem_map, List.forall_mem_map] at hpaths
      exact Look.forall₂_map_file (forall₂_directoryPaths options h hsame hpaths.1 hpaths.2)

end

/-! ## Directories of packages -/

/-- Two absolute paths to one directory that never go up look for a package in the same places. -/
theorem forall₂_packageDirectories (h : disk.HasNoLinks) (hsame : disk.SameDirectory p q)
    (habsolute : p.isAbsolute = true ∧ ['.', '.'] ∉ p.segments)
    (habsolute' : q.isAbsolute = true ∧ ['.', '.'] ∉ q.segments) {name : String}
    (hname : (Path.mk name).isAbsolute = false)
    (hp : ∀ path ∈ packageDirectories p name, Fits path)
    (hq : ∀ path ∈ packageDirectories q name, Fits path) :
    List.Forall₂ disk.SamePlace (packageDirectories p name) (packageDirectories q name) := by
  have hmodules : (Path.mk "node_modules").isAbsolute = false := by decide
  refine Disk.forall₂_of_forall_mem ?_ hp hq
  rw [packageDirectories, packageDirectories, List.forall₂_map_left_iff,
    List.forall₂_map_right_iff]
  refine (List.rel_filter ?_ (Disk.forall₂_ancestors h hsame habsolute habsolute')).imp ?_
  · intro a b hab
    dsimp only
    rw [hab.1]
  · intro a b hab hfits hfits'
    have ha : Fits a := (hfits.of_join hname).of_join hmodules
    have hb : Fits b := (hfits'.of_join hname).of_join hmodules
    rw [join_node_modules _ hname] at hfits hfits' ⊢
    rw [join_node_modules _ hname]
    exact (hab.2 ha hb).join h hfits hfits'

/-! ## Results -/

/-- The paths that a search follows. -/
def followed (disk : Disk) (base : Path) (specifier : String) : List Path :=
  base :: (packageDirectories base (Specifier.split specifier).name ++
    (options.looks disk base specifier).map Look.path)

/-- Searches that look at the same places have the same result. -/
theorem resolve_alike {base other : Path} {specifier : String}
    (h : List.Forall₂ (Look.Alike disk) (options.looks disk base specifier)
      (options.looks disk other specifier)) :
    AnswersAlike Eq (options.resolve disk base specifier)
      (options.resolve disk other specifier) := by
  have halike := Look.outcome_alike h
  rw [← find?_eq_outcome, ← find?_eq_outcome] at halike
  rw [resolve, resolve]
  generalize options.find? disk base specifier = first at halike ⊢
  generalize options.find? disk other specifier = second at halike ⊢
  cases halike with
  | error hfailure => exact .error hfailure
  | ok hfound =>
    cases hfound with
    | none => exact .error (.moduleNotFound specifier base other)
    | @some p q hplace =>
      simp only [bind, Except.bind]
      rw [hplace.canonical]
      cases disk.canonical q with
      | error cause => exact .error (.fileRead p q cause)
      | ok canonical => exact .ok rfl

/-- Searches from two paths to one directory look at the same places if they find a package in the
same directory. -/
theorem looks_alike (h : disk.HasNoLinks) {base other : Path} {specifier : String}
    (hsame : disk.SameDirectory base other)
    (hbase : ∀ look ∈ options.looks disk base specifier, Fits look.path)
    (hother : ∀ look ∈ options.looks disk other specifier, Fits look.path)
    (hnearest : specifier.isEmpty = false → Specifier.isPath specifier = false →
      ((packageDirectories base (Specifier.split specifier).name).find? disk.isDirectory).map
          disk.locate =
        ((packageDirectories other (Specifier.split specifier).name).find? disk.isDirectory).map
          disk.locate) :
    List.Forall₂ (Look.Alike disk) (options.looks disk base specifier)
      (options.looks disk other specifier) := by
  unfold looks at hbase hother ⊢
  split
  · exact .nil
  · rename_i hempty
    rw [if_neg hempty] at hbase hother
    split
    · rename_i hpath
      rw [if_pos hpath] at hbase hother
      exact forall₂_pathLooks options h hsame hbase hother
    · rename_i hbare
      rw [if_neg hbare] at hbase hother
      replace hnearest := hnearest (Bool.not_eq_true _ ▸ hempty) (Bool.not_eq_true _ ▸ hbare)
      cases hfirst : (packageDirectories base (Specifier.split specifier).name).find?
          disk.isDirectory with
      | none =>
        rw [hfirst] at hnearest
        rw [Option.map_eq_none_iff.mp hnearest.symm]
        exact .nil
      | some directory =>
        rw [hfirst] at hbase hnearest
        obtain ⟨there, hsecond, hlocate⟩ := Option.map_eq_some_iff.mp hnearest.symm
        rw [hsecond] at hother ⊢
        obtain ⟨location, hfound, hhas⟩ := Disk.isDirectory_iff.mp (List.find?_some hfirst)
        exact forall₂_packageLooks options h
          ⟨location, hhas, hfound, hlocate.trans hfound⟩ hbase hother

/-- On a disk without links, the search from a path to a directory has the same result as the search
from the canonical path of that directory, or fails for the same cause: for a path always, and for
the name of a package if the base is absolute and never goes up, or if the nearest package of that
name is found in the same directory from both.  The paths that are followed must not be too long. -/
theorem resolve_of_spelling (options : SearchOptions) {disk : Disk} (h : disk.HasNoLinks)
    (hworking : disk.locate (Disk.pathOf disk.workingDirectory) = .ok disk.workingDirectory)
    {base canonical : Path} {specifier : String} (hdirectory : disk.isDirectory base = true)
    (hcanonical : disk.canonical base = .ok canonical)
    (hbase : ∀ path ∈ options.followed disk base specifier, Fits path)
    (hother : ∀ path ∈ options.followed disk canonical specifier, Fits path)
    (hspelling : specifier.isEmpty = false → Specifier.isPath specifier = false →
      base.isAbsolute = true ∧ ['.', '.'] ∉ base.segments ∨
      ((packageDirectories base (Specifier.split specifier).name).find? disk.isDirectory).map
          disk.locate =
        ((packageDirectories canonical (Specifier.split specifier).name).find?
          disk.isDirectory).map disk.locate) :
    AnswersAlike Eq (options.resolve disk base specifier)
      (options.resolve disk canonical specifier) := by
  obtain ⟨location, hlocate, -, rfl⟩ := Disk.canonical_eq_ok_iff.mp hcanonical
  have hhas : disk.hasDirectory location = true := Disk.hasDirectory_of_isDirectory hlocate hdirectory
  simp only [followed, List.forall_mem_cons, List.forall_mem_append, List.forall_mem_map]
    at hbase hother
  have hroot : disk.Reachable disk.workingDirectory :=
    Disk.reachable_of_locate h hworking (Or.inl (Path.isAbsolute_ofSegments _))
  have hreachable : disk.Reachable location :=
    Disk.reachable_of_locate h hlocate (Or.inr hroot)
  have hsame : disk.SameDirectory base (Disk.pathOf location) :=
    ⟨location, hhas, hlocate, Disk.locate_pathOf hreachable hother.1⟩
  have hup : ['.', '.'] ∉ (Disk.pathOf location).segments :=
    Disk.up_not_mem_segments_pathOf hreachable.isName
  refine resolve_alike options (looks_alike options h hsame hbase.2.2 hother.2.2 ?_)
  intro hempty hbare
  rcases hspelling hempty hbare with hplain | hnearest
  · refine find?_isDirectory_alike ?_
    exact forall₂_packageDirectories h hsame hplain ⟨Path.isAbsolute_ofSegments _, hup⟩
      (Specifier.isAbsolute_split_name hbare) hbase.2.1 hother.2.1
  · exact hnearest

/-- A project with a package beside its sources, seen from the sources. -/
def projectDisk : Disk where
  entries := [(["app".toList], .directory),
    (["app".toList, "src".toList], .directory),
    (["app".toList, "node_modules".toList], .directory),
    (["app".toList, "node_modules".toList, "he".toList], .directory),
    (["app".toList, "node_modules".toList, "he".toList, "index.js".toList], .file [] false)]
  workingDirectory := ["app".toList, "src".toList]

/-- From an absolute path that is written with blanks the package is found as from the canonical
path. -/
theorem resolve_of_absolute_spelling :
    projectDisk.canonical "//app/./src/" = .ok "/app/src" ∧
      ({} : SearchOptions).resolve projectDisk "/app/src" "he" =
        .ok "/app/node_modules/he/index.js" ∧
      AnswersAlike Eq (({} : SearchOptions).resolve projectDisk "//app/./src/" "he")
        (({} : SearchOptions).resolve projectDisk "/app/src" "he") := by
  have hcanonical : projectDisk.canonical "//app/./src/" = .ok "/app/src" := by rfl
  refine ⟨hcanonical, by rfl, ?_⟩
  refine resolve_of_spelling {} ?_ (by rfl) (by rfl) hcanonical ?_ ?_
    fun _ _ => Or.inl ⟨by rfl, by decide⟩
  · exact Disk.hasNoLinks_of_entries (by simp [projectDisk])
  · decide +kernel
  · decide +kernel

/-- From the working directory as `.` the package above it is not found, which is found from the
canonical path. -/
theorem resolve_of_relative_spelling :
    projectDisk.isDirectory "." = true ∧ projectDisk.canonical "." = .ok "/app/src" ∧
      ({} : SearchOptions).resolve projectDisk "." "he" = .error (.moduleNotFound "he" ".") ∧
      ({} : SearchOptions).resolve projectDisk "/app/src" "he" =
        .ok "/app/node_modules/he/index.js" := by
  refine ⟨?_, ?_, ?_, ?_⟩
  · rfl
  · rfl
  · rfl
  · rfl

end SearchOptions

end Package

end NamedExports
