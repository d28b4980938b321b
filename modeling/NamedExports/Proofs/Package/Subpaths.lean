import NamedExports.Proofs.Disk.Slashes
import NamedExports.Proofs.Package.Containment
import NamedExports.Proofs.Package.Spelling

/-!
# Subpaths of packages

A package without a manifest is searched like any directory: for a file at the subpath, or for the
index of the directory there.  So a subpath that is relative and never goes up names something inside
the package, however many slashes stand between its names: `resolve_inside_package`.  A subpath that
starts with a slash of its own is an absolute path, and leads out of the package.
-/

namespace NamedExports

/-- A specifier names a package, and a relative path in it. -/
structure Specifier.NamesBelow (specifier name text : String) : Prop where
  isBare : isPath specifier = false
  splits : split specifier = ⟨name, some text⟩
  isRelative : (Path.mk text).isAbsolute = false

instance (specifier name text : String) : Decidable (Specifier.NamesBelow specifier name text) :=
  decidable_of_iff (Specifier.isPath specifier = false ∧
    Specifier.split specifier = ⟨name, some text⟩ ∧ (Path.mk text).isAbsolute = false)
    ⟨fun ⟨isBare, splits, isRelative⟩ => ⟨isBare, splits, isRelative⟩,
      fun ⟨isBare, splits, isRelative⟩ => ⟨isBare, splits, isRelative⟩⟩

/-- The name of a package is no absolute path. -/
theorem Specifier.NamesBelow.isAbsolute_name {specifier name text : String}
    (h : NamesBelow specifier name text) : (Path.mk name).isAbsolute = false := by
  have hname := isAbsolute_split_name h.isBare
  rwa [h.splits] at hname

/-- A subpath leads down if no segment of the specifier goes up. -/
theorem Specifier.NamesBelow.leadsDown {specifier name text : String}
    (h : NamesBelow specifier name text) (hup : ['.', '.'] ∉ Text.splitOn '/' specifier.toList) :
    LeadsDown text := by
  rw [toList_of_split h.splits, Text.splitOn_append_cons, List.mem_append, not_or] at hup
  exact ⟨h.isRelative, hup.2⟩

/-- A text that leads down does so with one slash in place of two. -/
theorem LeadsDown.of_double {front back : String} (h : LeadsDown (front ++ ("//" ++ back)))
    (hrelative : (Path.mk (front ++ ("/" ++ back))).isAbsolute = false) :
    LeadsDown (front ++ ("/" ++ back)) := by
  refine ⟨hrelative, fun hup => h.2 ?_⟩
  rw [Disk.splitOn_slash, List.mem_append] at hup
  rw [Disk.splitOn_double, List.mem_append]
  exact hup.imp_right (List.mem_cons_of_mem _)

namespace Package

open Disk (Fits SameTarget)

variable {disk : Disk} {base directory path result : Path} {top : Location}
  {specifier name text front back : String}

/-- No manifest lies at or below a location. -/
def HasNoManifest (disk : Disk) (top : Location) : Prop :=
  ∀ below, top <+: below → disk.lookup? (below ++ [manifestName.toList]) = none

/-- Where no entry is a manifest, no directory has one. -/
theorem hasNoManifest_of_entries
    (h : ∀ entry ∈ disk.entries, entry.1.getLast? ≠ some manifestName.toList) :
    HasNoManifest disk top := by
  intro below _
  have hne : ¬ (below ++ [manifestName.toList]).isEmpty = true := by simp
  rw [Disk.lookup?, if_neg hne, Option.map_eq_none_iff, List.find?_eq_none]
  intro entry hmem hlocation
  exact h entry hmem (by rw [beq_iff_eq.mp hlocation, List.getLast?_concat])

/-- No manifest is found inside. -/
theorem HasNoManifest.manifest?_eq (hnone : HasNoManifest disk top) (h : disk.HasNoLinks)
    (hinside : disk.Inside top path) : manifest? disk path = .ok none := by
  obtain ⟨-, location, hlocate, hbelow⟩ := hinside
  have hmanifest : ¬ disk.isFile (path.join manifestName) = true := by
    intro hfile
    obtain ⟨there, content, executable, hthere, hentry⟩ := Disk.isFile_iff.mp hfile
    obtain ⟨-, hwalk⟩ := (Disk.locate_join_eq_ok_iff h hlocate (by decide)).mp hthere
    rw [Text.splitOn_of_not_mem (by decide)] at hwalk
    rw [Disk.eq_append_of_walk h (by decide) hwalk, Path.moves_cons_of_moves (by decide)] at hentry
    exact absurd hentry (by simp [Path.moves, hnone location hbelow])
  rw [manifest?]
  exact if_neg hmanifest

namespace SearchOptions

variable (options : SearchOptions)

/-! ## Packages without manifests -/

/-- Without a manifest, what a path names is a file or the index of a directory. -/
theorem fileOrEntry?_of_no_manifest
    (h : disk.isDirectory path = true → manifest? disk path = .ok none) :
    fileOrEntry? options disk path =
      .ok ((options.entryPaths disk path).find? disk.isFile) := by
  have hdirectoryFile : options.directoryFile? disk path none =
      (options.indexPaths path).find? disk.isFile := by
    rw [directoryFile?_eq_find?, directoryPaths]
    simp [entries]
  have hfile : options.file? disk path = (options.filePaths path).find? disk.isFile := rfl
  rw [entryPaths, fileOrEntry?, List.find?_append, hfile]
  cases (options.filePaths path).find? disk.isFile with
  | some file => rfl
  | none =>
    rw [Option.none_or]
    cases hdirectory : disk.isDirectory path with
    | false => rfl
    | true =>
      simp only [if_true]
      rw [h hdirectory, ← hdirectoryFile]
      rfl

/-- What a specifier names below a package is searched in the nearest directory of that package. -/
theorem find?_eq_inPackage? (hspecifier : Specifier.NamesBelow specifier name text)
    (hfound : (packageDirectories base name).find? disk.isDirectory = some directory) :
    options.find? disk base specifier = options.inPackage? disk directory (some text) := by
  have hempty : ¬ specifier.isEmpty = true := by
    rw [String.isEmpty_iff, ← String.toList_eq_nil_iff, Specifier.toList_of_split hspecifier.splits]
    simp
  have hbare : ¬ Specifier.isPath specifier = true := by simp [hspecifier.isBare]
  rw [find?_eq_outcome, inPackage?_eq_outcome, looks, if_neg hempty, if_neg hbare,
    hspecifier.splits]
  dsimp only
  rw [hfound]

/-- The package directories around an absolute base are absolute. -/
theorem isAbsolute_of_mem_packageDirectories (hbase : base.isAbsolute = true)
    (hname : (Path.mk name).isAbsolute = false)
    (hmem : directory ∈ packageDirectories base name) : directory.isAbsolute = true := by
  obtain ⟨above, habove, rfl⟩ := List.mem_map.mp hmem
  have habove : above.isAbsolute = true :=
    Path.isAbsolute_of_mem_ancestors hbase (List.mem_filter.mp habove).1
  have hempty := Path.isEmpty_of_isAbsolute habove
  have hmodules : (Path.mk "node_modules").isAbsolute = false := by decide
  rw [Path.isAbsolute_join (Path.isEmpty_join hempty hmodules) hname,
    Path.isAbsolute_join hempty hmodules, habove]

section

variable (h : disk.HasNoLinks) (hinside : disk.Inside top directory)
  (hnone : HasNoManifest disk top)

include h hinside hnone

/-- In a package without manifests, a subpath that leads down names a file, or a directory with an
index. -/
theorem find?_of_leadsDown (hspecifier : Specifier.NamesBelow specifier name text)
    (hfound : (packageDirectories base name).find? disk.isDirectory = some directory)
    (htext : LeadsDown text) :
    options.find? disk base specifier =
      .ok ((options.entryPaths disk (directory.join text)).find? disk.isFile) := by
  rw [find?_eq_inPackage? options hspecifier hfound, inPackage?, hnone.manifest?_eq h hinside]
  exact fileOrEntry?_of_no_manifest options fun hdirectory =>
    hnone.manifest?_eq h (hinside.directory h htext hdirectory)

end

/-! ## Repeated slashes -/

/-- Paths with the same targets are looked through alike. -/
theorem find?_isFile_sameTarget {paths others : List Path}
    (h : List.Forall₂ disk.SameTarget paths others) :
    Option.Rel disk.SameTarget (paths.find? disk.isFile) (others.find? disk.isFile) := by
  induction h with
  | nil => exact .none
  | cons hfirst hrest ih =>
    rw [List.find?_cons, List.find?_cons, hfirst.isFile]
    split
    · exact .some hfirst
    · exact ih

/-- A doubled slash changes nothing about where the paths lead that a subpath stands for. -/
theorem forall₂_entryPaths_double (h : disk.HasNoLinks) (hlocate : disk.locate directory = .ok top)
    (hfront : front ≠ "") (hrelative : (Path.mk front).isAbsolute = false)
    (hfits : ∀ path ∈ options.entryPaths disk (directory.join (front ++ ("//" ++ back))), Fits path)
    (hfits' : ∀ path ∈ options.entryPaths disk (directory.join (front ++ ("/" ++ back))),
      Fits path) :
    List.Forall₂ disk.SameTarget
      (options.entryPaths disk (directory.join (front ++ ("//" ++ back))))
      (options.entryPaths disk (directory.join (front ++ ("/" ++ back)))) := by
  rw [entryPaths, List.forall_mem_append, filePaths, List.forall_mem_cons, List.forall_mem_map]
    at hfits hfits'
  obtain ⟨⟨hfits, hextended⟩, hindex⟩ := hfits
  obtain ⟨⟨hfits', hextended'⟩, hindex'⟩ := hfits'
  have hsame := Disk.sameTarget_join_double h hlocate hfront hrelative hfits hfits'
  have hextend (slashes extension : String) :
      (directory.join (front ++ (slashes ++ back))).withSuffix extension =
        directory.join (front ++ (slashes ++ (back ++ "." ++ extension))) := by
    rw [Path.withSuffix_join ((Path.isAbsolute_append_of_ne hfront _).trans hrelative)]
    simp only [String.append_assoc]
  refine List.rel_append (.cons hsame ?_) ?_
  · rw [List.forall₂_map_left_iff, List.forall₂_map_right_iff, List.forall₂_same]
    intro extension hextension
    have hfits := hextended extension hextension
    have hfits' := hextended' extension hextension
    rw [hextend] at hfits hfits' ⊢
    rw [hextend]
    exact Disk.sameTarget_join_double h hlocate hfront hrelative hfits hfits'
  · rw [← hsame.isDirectory] at hindex' ⊢
    split
    · rename_i hdirectory
      rw [if_pos hdirectory] at hindex hindex'
      exact (forall₂_indexPaths options h (hsame.sameDirectory hdirectory) hindex hindex').imp
        fun _ _ => Disk.SamePlace.sameTarget
    · exact .nil

/-- Searches that find a file at one location have one result. -/
theorem resolve_congr {options : SearchOptions} {other : String} {found found' : Option Path}
    (hfind : options.find? disk base specifier = .ok found)
    (hfind' : options.find? disk base other = .ok found')
    (hsame : Option.Rel disk.SameTarget found found') :
    options.resolve disk base specifier = .ok result ↔
      options.resolve disk base other = .ok result := by
  cases hsame with
  | none => simp [resolve_of_find?_none hfind, resolve_of_find?_none hfind']
  | some hsame =>
    rw [resolve_eq_ok_iff_of_find? hfind, resolve_eq_ok_iff_of_find? hfind', hsame.canonical]

/-! ## Results inside the package -/

/-- A file inside a directory lies below it. -/
theorem exists_rest_of_isFile (hdirectory : disk.isDirectory directory = true)
    (hlocate : disk.locate directory = .ok top) (hinside : disk.Inside top path)
    (hfile : disk.isFile path = true) :
    ∃ rest, rest ≠ [] ∧ disk.locate path = .ok (top ++ rest) := by
  obtain ⟨-, location, hlocation, rest, rfl⟩ := hinside
  refine ⟨rest, ?_, hlocation⟩
  rintro rfl
  rw [List.append_nil] at hlocation
  have hhas := Disk.hasDirectory_of_isDirectory hlocate hdirectory
  rw [Disk.hasDirectory_of_isFile hlocation hfile] at hhas
  cases hhas

/-- On a disk without links, a specifier that never goes up and names a relative path below a package
without manifests is resolved to a file inside the directory of that package, if it is resolved.  A
doubled slash in that path counts like one slash, as long as the paths that are looked at are not too
long. -/
theorem resolve_inside_package {options : SearchOptions} (h : disk.HasNoLinks)
    (hextensions : ∀ extension ∈ options.extensions, '/' ∉ extension.toList)
    (hbase : base.isAbsolute = true) (hspecifier : Specifier.NamesBelow specifier name text)
    (hup : ['.', '.'] ∉ Text.splitOn '/' specifier.toList)
    (hfound : (packageDirectories base name).find? disk.isDirectory = some directory)
    (hlocate : disk.locate directory = .ok top) (hnone : HasNoManifest disk top) :
    (∀ result, options.resolve disk base specifier = .ok result →
        ∃ rest, rest ≠ [] ∧ result = Disk.pathOf (top ++ rest)) ∧
      ∀ front back other, text = front ++ ("//" ++ back) → front ≠ "" →
        Specifier.NamesBelow other name (front ++ ("/" ++ back)) →
        (∀ path ∈ options.entryPaths disk (directory.join text), Fits path) →
        (∀ path ∈ options.entryPaths disk (directory.join (front ++ ("/" ++ back))), Fits path) →
        ∀ result, options.resolve disk base specifier = .ok result ↔
          options.resolve disk base other = .ok result := by
  have hinside : disk.Inside top directory :=
    ⟨isAbsolute_of_mem_packageDirectories hbase hspecifier.isAbsolute_name
      (List.mem_of_find?_eq_some hfound), top, hlocate, List.prefix_refl top⟩
  have htext := hspecifier.leadsDown hup
  have hfind := find?_of_leadsDown options h hinside hnone hspecifier hfound htext
  refine ⟨fun result hresolve => ?_, ?_⟩
  · obtain ⟨path, hpath, hcanonical⟩ := exists_find?_of_resolve hresolve
    have hfirst := Except.ok.inj (hfind.symm.trans hpath)
    have hfile := List.find?_some hfirst
    have hbelow := inside_of_entryPaths options h hextensions hinside htext
      (List.mem_of_find?_eq_some hfirst) hfile
    obtain ⟨rest, hne, hrest⟩ :=
      exists_rest_of_isFile (List.find?_some hfound) hlocate hbelow hfile
    obtain ⟨location, hlocation, -, rfl⟩ := Disk.canonical_eq_ok_iff.mp hcanonical
    obtain rfl : top ++ rest = location := Except.ok.inj (hrest.symm.trans hlocation)
    exact ⟨rest, hne, rfl⟩
  · rintro front back other rfl hfront hother hfits hfits' result
    have hrelative : (Path.mk front).isAbsolute = false :=
      (Path.isAbsolute_append_of_ne hfront _).symm.trans hspecifier.isRelative
    have hfind' := find?_of_leadsDown options h hinside hnone hother hfound
      (htext.of_double hother.isRelative)
    exact resolve_congr hfind hfind' (find?_isFile_sameTarget
      (forall₂_entryPaths_double options h hlocate hfront hrelative hfits hfits'))

/-- A package with one file in a directory, and a file beside all packages. -/
def shelfDisk : Disk where
  entries := [(["node_modules".toList], .directory),
    (["node_modules".toList, "he".toList], .directory),
    (["node_modules".toList, "he".toList, "lib".toList], .directory),
    (["node_modules".toList, "he".toList, "lib".toList, "a.js".toList], .file [] false),
    (["evil.js".toList], .file [] false)]
  workingDirectory := []

/-- The example has no links. -/
theorem hasNoLinks_shelfDisk : shelfDisk.HasNoLinks :=
  Disk.hasNoLinks_of_entries (by simp [shelfDisk])

/-- The example has no manifests. -/
theorem hasNoManifest_shelfDisk : HasNoManifest shelfDisk top :=
  hasNoManifest_of_entries (by decide +kernel)

/-- With one slash or two before its last name, a subpath names the same file of the package. -/
theorem resolve_shelf_inside :
    Specifier.NamesBelow "he/lib//a" "he" "lib//a" ∧ Specifier.NamesBelow "he/lib/a" "he" "lib/a" ∧
      ({} : SearchOptions).resolve shelfDisk "/" "he/lib//a" =
        .ok "/node_modules/he/lib/a.js" ∧
      (∃ rest, rest ≠ [] ∧ ("/node_modules/he/lib/a.js" : Path) =
        Disk.pathOf (["node_modules".toList, "he".toList] ++ rest)) ∧
      ({} : SearchOptions).resolve shelfDisk "/" "he/lib/a" = .ok "/node_modules/he/lib/a.js" := by
  have hdouble : Specifier.NamesBelow "he/lib//a" "he" "lib//a" := by decide +kernel
  have hsingle : Specifier.NamesBelow "he/lib/a" "he" ("lib" ++ ("/" ++ "a")) := by
    decide +kernel
  have hresolve : ({} : SearchOptions).resolve shelfDisk "/" "he/lib//a" =
      .ok "/node_modules/he/lib/a.js" := by
    decide +kernel
  have hfound : (packageDirectories "/" "he").find? shelfDisk.isDirectory =
      some "/node_modules/he" := by
    decide +kernel
  have hlocate : shelfDisk.locate "/node_modules/he" =
      .ok ["node_modules".toList, "he".toList] := by
    decide +kernel
  obtain ⟨hinside, hslashes⟩ := @resolve_inside_package shelfDisk "/" "/node_modules/he" _
    "he/lib//a" "he" "lib//a" {} hasNoLinks_shelfDisk (by decide) rfl hdouble (by decide) hfound
    hlocate hasNoManifest_shelfDisk
  refine ⟨hdouble, hsingle, hresolve, hinside _ hresolve, ?_⟩
  refine (hslashes "lib" "a" "he/lib/a" (by decide +kernel) (by decide) hsingle ?_ ?_ _).mp hresolve
  · decide +kernel
  · decide +kernel

/-- A second slash behind the name of a package leads to a file outside of it, which one slash does
not find. -/
theorem resolve_shelf_outside :
    shelfDisk.HasNoLinks ∧ HasNoManifest shelfDisk ["node_modules".toList, "he".toList] ∧
      Specifier.isPath "he//evil.js" = false ∧
      Specifier.split "he//evil.js" = ⟨"he", some "/evil.js"⟩ ∧
      ['.', '.'] ∉ Text.splitOn '/' "he//evil.js".toList ∧
      (packageDirectories "/" "he").find? shelfDisk.isDirectory = some "/node_modules/he" ∧
      shelfDisk.locate "/node_modules/he" = .ok ["node_modules".toList, "he".toList] ∧
      ({} : SearchOptions).resolve shelfDisk "/" "he//evil.js" = .ok "/evil.js" ∧
      (¬ ∃ rest, ("/evil.js" : Path) =
        Disk.pathOf (["node_modules".toList, "he".toList] ++ rest)) ∧
      ({} : SearchOptions).resolve shelfDisk "/" "he/evil.js" =
        .error (.moduleNotFound "he/evil.js" "/") := by
  refine ⟨hasNoLinks_shelfDisk, hasNoManifest_shelfDisk, by decide +kernel, by decide +kernel,
    by decide +kernel, by decide +kernel, by decide +kernel, by decide +kernel, ?_,
    by decide +kernel⟩
  rintro ⟨rest, hpath⟩
  -- the path of what lies in `node_modules` has a low line in it
  have hline : '_' ∈ (Disk.pathOf (["node_modules".toList, "he".toList] ++ rest)).text.toList := by
    rw [Disk.pathOf, Path.ofSegments, if_pos rfl, String.toList_ofList]
    have hname : '_' ∈ "node_modules".toList := by decide
    exact List.mem_cons_of_mem _ (Text.mem_joinWith_of_mem (by simp) hname)
  rw [← hpath] at hline
  exact absurd hline (by decide)

end SearchOptions

end Package

end NamedExports
