import NamedExports.Proofs.Disk.Canonical
import NamedExports.Proofs.Package.Looks
import NamedExports.Proofs.Package.Specifier
import NamedExports.Proofs.Resolver

/-!
# Staying inside a package

A search in a package comes to a file inside its directory if what is wanted of the package, what
its manifests name and what its exports list lead down: `inside_of_packageCandidates`.  So nothing
but files inside the directories of allowed packages is loaded by such specifiers.
-/

namespace NamedExports

/-! ## Texts that lead down -/

/-- A text is neither absolute nor goes up. -/
def LeadsDown (text : String) : Prop :=
  (Path.mk text).isAbsolute = false ∧ ['.', '.'] ∉ Text.splitOn '/' text.toList

/-- A text is not absolute and does not go up before its last segment. -/
def LeadsDownTo (text : String) : Prop :=
  (Path.mk text).isAbsolute = false ∧ ['.', '.'] ∉ (Text.splitOn '/' text.toList).dropLast

instance (text : String) : Decidable (LeadsDown text) :=
  inferInstanceAs (Decidable (_ ∧ _))

/-- A text that never goes up does not go up before its last segment. -/
theorem LeadsDown.leadsDownTo {text : String} (h : LeadsDown text) : LeadsDownTo text :=
  ⟨h.1, fun hup => h.2 (List.dropLast_subset _ hup)⟩

/-- An extension only changes the last segment. -/
theorem LeadsDown.withExtension {text extension : String} (h : LeadsDown text)
    (hextension : '/' ∉ extension.toList) : LeadsDownTo (text ++ "." ++ extension) := by
  have htext : (text ++ "." ++ extension).toList = text.toList ++ '.' :: extension.toList := by
    simp
  have hslash : '/' ∉ '.' :: extension.toList := by simpa using hextension
  obtain ⟨front, last, hsegments, hlonger⟩ := Text.splitOn_append hslash text.toList
  refine ⟨Path.isAbsolute_suffixed h.1 extension, ?_⟩
  rw [htext, hlonger, List.dropLast_concat]
  exact fun hup => h.2 (hsegments ▸ List.mem_append_left _ hup)

/-- The name of an index file is one segment. -/
theorem leadsDownTo_index {extension : String} (h : '/' ∉ extension.toList) :
    LeadsDownTo ("index." ++ extension) := by
  have hsegments : Text.splitOn '/' ("index." ++ extension).toList =
      [("index." ++ extension).toList] :=
    Text.splitOn_of_not_mem (by simp [h])
  refine ⟨?_, ?_⟩
  · rw [Path.isAbsolute, String.toList_append]
    rfl
  · rw [hsegments]
    exact List.not_mem_nil

namespace Disk

variable {disk : Disk} {top : Location} {path : Path} {text : String}

/-- An absolute path leads to an entry at or below a location. -/
def Inside (disk : Disk) (top : Location) (path : Path) : Prop :=
  path.isAbsolute = true ∧ ∃ location, disk.locate path = .ok location ∧ top <+: location

section

variable (h : disk.HasNoLinks) (hinside : disk.Inside top path)

include h hinside

/-- A directory that a text leads down to from inside lies inside. -/
theorem Inside.directory (htext : LeadsDown text)
    (hdirectory : disk.isDirectory (path.join text) = true) : disk.Inside top (path.join text) := by
  obtain ⟨habsolute, location, hlocate, htop⟩ := hinside
  obtain ⟨there, hthere, -⟩ := isDirectory_iff.mp hdirectory
  obtain ⟨hcheck, hwalk⟩ := (locate_join_eq_ok_iff h hlocate htext.1).mp hthere
  have hempty := (checkPath_eq_ok_iff.mp (locate_eq_ok_iff.mp hlocate).1).2.1
  refine ⟨(Path.isAbsolute_join hempty htext.1).trans habsolute, there, hthere, ?_⟩
  rw [eq_append_of_walk h htext.2 hwalk]
  exact htop.trans (List.prefix_append _ _)

/-- A file that a text leads down to from inside lies inside. -/
theorem Inside.file (htext : LeadsDownTo text) (hfile : disk.isFile (path.join text) = true) :
    disk.Inside top (path.join text) := by
  obtain ⟨habsolute, location, hlocate, htop⟩ := hinside
  obtain ⟨there, content, executable, hthere, hentry⟩ := isFile_iff.mp hfile
  obtain ⟨hcheck, hwalk⟩ := (locate_join_eq_ok_iff h hlocate htext.1).mp hthere
  have hempty := (checkPath_eq_ok_iff.mp (locate_eq_ok_iff.mp hlocate).1).2.1
  refine ⟨(Path.isAbsolute_join hempty htext.1).trans habsolute, there, hthere, ?_⟩
  have hspelled (segment : List Char) (hsegment : segment ∈ Text.splitOn '/' text.toList) :
      IsSpelled segment := isSpelled_of_mem_rest hcheck htext.1 hsegment
  rw [← List.dropLast_append_getLast (Text.splitOn_ne_nil '/' text.toList)] at hwalk
  generalize (Text.splitOn '/' text.toList).getLast _ = last at hwalk
  obtain ⟨middle, hmiddle, hlast⟩ := (walk_append_eq_found_iff h).mp hwalk
  obtain ⟨next, hstep, hnext⟩ := (walk_cons_eq_found_iff h).mp hlast
  obtain rfl : next = there := by simpa using hnext
  have hbelow : top <+: middle := by
    rw [eq_append_of_walk h htext.2 hmiddle]
    exact htop.trans (List.prefix_append _ _)
  have hnodirectory : disk.hasDirectory next = false := by
    rw [hasDirectory, hentry]
    rfl
  cases hstep with
  | stay hdirectory hstays =>
    rw [hnodirectory] at hdirectory
    cases hdirectory
  | up hdirectory =>
    -- above a directory there are only directories, so going up leads to no file
    have hreachable : disk.Reachable middle :=
      (reachable_of_locate h hlocate (Or.inl habsolute)).walk h
        (fun segment hsegment => hspelled segment (List.dropLast_subset _ hsegment)) hmiddle
    rw [hreachable.hasDirectory_dropLast h hdirectory] at hnodirectory
    cases hnodirectory
  | down hdirectory hmoves hdown hshort hfound =>
    exact hbelow.trans (List.prefix_append _ _)

end

end Disk

namespace Package.SearchOptions

open Disk (Inside)

variable (options : SearchOptions) {disk : Disk} {top : Location} {directory path : Path}
  {text : String}

section

variable (h : disk.HasNoLinks)
  (hextensions : ∀ extension ∈ options.extensions, '/' ∉ extension.toList)
  (hinside : disk.Inside top directory)

include h hextensions hinside

/-- The files of a path that leads down are inside. -/
theorem inside_of_filePaths (htext : LeadsDown text)
    (hpath : path ∈ options.filePaths (directory.join text)) (hfile : disk.isFile path = true) :
    disk.Inside top path := by
  rcases List.mem_cons.mp hpath with rfl | hpath
  · exact hinside.file h htext.leadsDownTo hfile
  · obtain ⟨extension, hextension, rfl⟩ := List.mem_map.mp hpath
    rw [Path.withSuffix_join htext.1] at hfile ⊢
    exact hinside.file h (htext.withExtension (hextensions extension hextension)) hfile

/-- So are the index files of a directory inside. -/
theorem inside_of_indexPaths (hpath : path ∈ options.indexPaths directory)
    (hfile : disk.isFile path = true) : disk.Inside top path := by
  obtain ⟨extension, hextension, rfl⟩ := List.mem_map.mp hpath
  exact hinside.file h (leadsDownTo_index (hextensions extension hextension)) hfile

/-- So are the files that an entry stands for. -/
theorem inside_of_entryPaths (htext : LeadsDown text)
    (hpath : path ∈ options.entryPaths disk (directory.join text))
    (hfile : disk.isFile path = true) : disk.Inside top path := by
  rcases List.mem_append.mp hpath with hpath | hpath
  · exact inside_of_filePaths options h hextensions hinside htext hpath hfile
  · split at hpath
    · rename_i hdirectory
      exact inside_of_indexPaths options h hextensions (hinside.directory h htext hdirectory) hpath
        hfile
    · cases hpath

/-- So are the files that a directory offers, if the entries of its manifest lead down. -/
theorem inside_of_directoryPaths {manifest : Option Json.Value}
    (hentries : ∀ entry ∈ options.entries manifest, LeadsDown entry)
    (hpath : path ∈ options.directoryPaths disk directory manifest)
    (hfile : disk.isFile path = true) : disk.Inside top path := by
  rcases List.mem_append.mp hpath with hpath | hpath
  · obtain ⟨entry, hentry, hpath⟩ := List.mem_flatMap.mp hpath
    exact inside_of_entryPaths options h hextensions hinside (hentries entry hentry) hpath hfile
  · exact inside_of_indexPaths options h hextensions hinside hpath hfile

variable (hmanifests : ∀ directory, ∀ entry ∈ options.entries (manifestOf disk directory),
    LeadsDown entry)

include hmanifests

/-- So are all candidates of a path that leads down. -/
theorem inside_of_pathCandidates (htext : LeadsDown text)
    (hpath : path ∈ options.pathCandidates disk (directory.join text))
    (hfile : disk.isFile path = true) : disk.Inside top path := by
  rcases List.mem_append.mp hpath with hpath | hpath
  · exact inside_of_filePaths options h hextensions hinside htext hpath hfile
  · split at hpath
    · rename_i hdirectory
      exact inside_of_directoryPaths options h hextensions (hinside.directory h htext hdirectory)
        (hmanifests _) hpath hfile
    · cases hpath

/-- What is found in a package lies inside its directory. -/
theorem inside_of_packageCandidates {subpath : Option String}
    (hsubpath : ∀ text, subpath = some text → LeadsDown text)
    (hexports : ∀ text ∈ exportTexts options.conditions subpath (manifestOf disk directory),
      LeadsDown text)
    (hpath : path ∈ options.packageCandidates disk directory subpath)
    (hfile : disk.isFile path = true) : disk.Inside top path := by
  rcases List.mem_append.mp hpath with hpath | hpath
  · obtain ⟨text, htext, rfl⟩ := List.mem_map.mp hpath
    exact hinside.file h (hexports text htext).leadsDownTo hfile
  · cases subpath with
    | some text =>
      exact inside_of_pathCandidates options h hextensions hinside hmanifests (hsubpath text rfl)
        hpath hfile
    | none =>
      exact inside_of_directoryPaths options h hextensions hinside (hmanifests directory) hpath
        hfile

end

end Package.SearchOptions

/-! ## Directories of packages -/

namespace Package

/-- Where a package lies: below a location, in `node_modules`, under its name. -/
def installed (front : Location) (package : String) : Location :=
  front ++ "node_modules".toList :: Text.splitOn '/' package.toList

/-- The directory that a package is found in is called after it, in `node_modules`. -/
theorem inside_of_packageDirectories {disk : Disk} {base directory : Path} {package : String}
    (h : disk.HasNoLinks) (habsolute : base.isAbsolute = true)
    (hpackage : Specifier.IsPackageName package) (hname : (Path.mk package).isAbsolute = false)
    (hmem : directory ∈ SearchOptions.packageDirectories base package)
    (hdirectory : disk.isDirectory directory = true) :
    ∃ front, disk.hasDirectory (installed front package) = true ∧
      disk.Inside (installed front package) directory := by
  obtain ⟨above, habove, rfl⟩ := List.mem_map.mp hmem
  rw [SearchOptions.join_node_modules above hname] at hdirectory ⊢
  have htext : ("node_modules" ++ "/" ++ package).toList =
      "node_modules".toList ++ '/' :: package.toList := by
    rw [String.toList_append, String.toList_append, List.append_assoc]
    rfl
  have hrest : (Path.mk ("node_modules" ++ "/" ++ package)).isAbsolute = false := by
    rw [Path.isAbsolute, htext]
    rfl
  have hsegments : Text.splitOn '/' ("node_modules" ++ "/" ++ package).toList =
      "node_modules".toList :: Text.splitOn '/' package.toList := by
    rw [htext, Text.splitOn_append_cons, Text.splitOn_of_not_mem (by decide),
      List.singleton_append]
  have habove : above.isAbsolute = true :=
    Path.isAbsolute_of_mem_ancestors habsolute (List.mem_filter.mp habove).1
  have hempty := Path.isEmpty_of_isAbsolute habove
  have habsolute' := (Path.isAbsolute_join hempty hrest).trans habove
  obtain ⟨location, hlocate, hhas⟩ := Disk.isDirectory_iff.mp hdirectory
  obtain ⟨front, ending, -, -, hjoined⟩ := Path.segments_join hempty hrest
  obtain ⟨-, hwalk⟩ := Disk.locate_eq_ok_iff.mp hlocate
  rw [hjoined, hsegments] at hwalk
  obtain ⟨middle, -, hlast⟩ := (Disk.walk_append_eq_found_iff h).mp hwalk
  obtain ⟨hmoves, hdown⟩ := hpackage.segments
  -- neither `node_modules` nor the segments of the name stay or go up
  have hwhere : location = installed middle package := by
    have hup : ['.', '.'] ∉ "node_modules".toList :: Text.splitOn '/' package.toList := by
      rw [List.mem_cons, not_or]
      exact ⟨by decide, hdown⟩
    rw [Disk.eq_append_of_walk h hup hlast, Path.moves_cons_of_moves (by decide), hmoves, installed]
  rw [hwhere] at hlocate hhas
  exact ⟨middle, hhas, habsolute', _, hlocate, List.prefix_refl _⟩

/-- The value that the content of a file is read as, if it is one. -/
def valueOf : Entry → Option Json.Value
  | .file content _ =>
    (Text.Utf8.decode? content).bind fun chars => (Json.read (String.ofList chars)).toOption
  | _ => none

/-- A manifest that is read is the text of a file. -/
theorem exists_text_of_manifestOf {disk : Disk} {directory : Path} {value : Json.Value}
    (h : manifestOf disk directory = some value) :
    ∃ text, disk.readText (directory.join manifestName) = .ok text ∧
      Json.read text = .ok value := by
  rw [manifestOf, manifest?] at h
  split at h
  · rw [readManifest] at h
    cases htext : disk.readText (directory.join manifestName) with
    | error cause => simp [htext, Except.toOption, Except.map] at h
    | ok text =>
      cases hread : Json.read text with
      | error cause => simp [htext, hread, Except.toOption, Except.map] at h
      | ok found =>
        obtain rfl : found = value := by simpa [htext, hread, Except.toOption, Except.map] using h
        exact ⟨text, rfl, hread⟩
  · simp [Except.toOption] at h

/-- What holds of no manifest and of every file that can be read as one holds of all manifests. -/
theorem forall_manifestOf {disk : Disk} {P : Option Json.Value → Prop} (hnone : P none)
    (h : ∀ entry ∈ disk.entries, ∀ value ∈ valueOf entry.2, P (some value)) (directory : Path) :
    P (manifestOf disk directory) := by
  cases hmanifest : manifestOf disk directory with
  | none => exact hnone
  | some value =>
    obtain ⟨text, htext, hread⟩ := exists_text_of_manifestOf hmanifest
    obtain ⟨entry, hmem, content, executable, hentry, hchars⟩ := Disk.exists_file_of_readText htext
    obtain ⟨chars, hdecode, rfl⟩ := Option.map_eq_some_iff.mp hchars
    have hvalue : valueOf entry.2 = some value := by
      rw [hentry, valueOf, hdecode, Option.bind_some, hread]
      rfl
    exact h entry hmem value hvalue

end Package

namespace Resolver

open Package

/-- What is loaded lies inside the directory of an allowed package, if the specifier leads down from
that package, and so do the entries of all manifests and what exports list, with the text that `*`
stands for put in. -/
theorem loads_inside_allowed {options : SearchOptions} {disk : Disk} {r : Resolver}
    {request : Request} (hresolve : r.collaborators.resolve = options.resolve disk)
    (h : disk.HasNoLinks)
    (hextensions : ∀ extension ∈ options.extensions, '/' ∉ extension.toList)
    (hpackages : ∀ package ∈ r.policy.packages, Specifier.IsPackageName package)
    (hbase : request.buildDirectory.isAbsolute = true)
    (hmanifests : ∀ directory, ∀ entry ∈ options.entries (manifestOf disk directory),
      LeadsDown entry)
    (hsubpath : ∀ text, (Specifier.split request.specifier).subpath = some text → LeadsDown text)
    (hexports : ∀ directory, ∀ text ∈ exportTexts options.conditions
      (Specifier.split request.specifier).subpath (manifestOf disk directory), LeadsDown text)
    {path : Path} {mode : Mode} (hload : (path, mode) ∈ Traced.loads (r.run request).calls) :
    ∃ package ∈ r.policy.packages, ∃ front rest,
      disk.hasDirectory (installed front package) = true ∧ rest ≠ [] ∧
        path = Disk.pathOf (installed front package ++ rest) := by
  obtain ⟨hentry, candidates, -, -, -, package, hmem, hnames⟩ := fallsBack_of_mem_loads hload
  obtain ⟨hbare, hname⟩ := Specifier.split_name_of_names (hpackages package hmem) hnames
  rw [hresolve] at hentry
  obtain ⟨found, hfind, hcanonical⟩ := SearchOptions.exists_find?_of_resolve hentry
  obtain ⟨hcandidate, hfile⟩ := SearchOptions.mem_candidates_of_find? hfind
  have hrelative := Specifier.isAbsolute_split_name hbare
  obtain ⟨directory, hnearest, hcandidate⟩ :=
    SearchOptions.exists_directory_of_mem_candidates options disk hbare hcandidate
  rw [hname] at hrelative hnearest
  obtain ⟨front, hhas, hinside⟩ := inside_of_packageDirectories h hbase
    (hpackages package hmem) hrelative (List.mem_of_find?_eq_some hnearest)
    (List.find?_some hnearest)
  obtain ⟨-, location, hlocate, rest, rfl⟩ := SearchOptions.inside_of_packageCandidates options
    h hextensions hinside hmanifests hsubpath (hexports directory) hcandidate hfile
  refine ⟨package, hmem, front, rest, hhas, ?_, ?_⟩
  · -- the directory of the package itself is no file
    rintro rfl
    obtain ⟨there, content, executable, hthere, hentry⟩ := Disk.isFile_iff.mp hfile
    obtain rfl : _ = there := Except.ok.inj (hlocate.symm.trans hthere)
    rw [List.append_nil] at hentry
    rw [Disk.hasDirectory, hentry] at hhas
    cases hhas
  · obtain ⟨there, hthere, -, hpath⟩ := Disk.canonical_eq_ok_iff.mp hcanonical
    rwa [← Except.ok.inj (hlocate.symm.trans hthere)] at hpath

/-- A project with a scoped package, whose exports list what lies in `lib`. -/
def scopedDisk : Disk where
  entries := [(["app".toList], .directory), (["app".toList, "node_modules".toList], .directory),
    (["app".toList, "node_modules".toList, "@x".toList], .directory),
    (["app".toList, "node_modules".toList, "@x".toList, "he".toList], .directory),
    (["app".toList, "node_modules".toList, "@x".toList, "he".toList, "package.json".toList],
      .file (Text.Utf8.encode
        "\x7b\"main\":\"lib\",\"exports\":\x7b\"./*\":\"./lib/*.js\"\x7d\x7d".toList) false),
    (["app".toList, "node_modules".toList, "@x".toList, "he".toList, "lib".toList], .directory),
    (["app".toList, "node_modules".toList, "@x".toList, "he".toList, "lib".toList,
      "a.js".toList], .file [] false)]
  workingDirectory := []

/-- A resolver on a disk that finds nothing in any source and may load what the packages name. -/
def findingNothing (disk : Disk) (packages : List String) : Resolver where
  collaborators :=
    { read := fun _ => .ok ""
      resolve := ({} : SearchOptions).resolve disk
      scan := fun _ _ _ _ => .ok ∅
      load := fun _ _ => .ok ⟨.object, ["pwned"]⟩ }
  policy := .ofPackages packages
  limit := 10

/-- A module that the exports of a scoped package list is loaded from inside that package. -/
theorem loads_scoped_inside :
    Traced.loads
        ((findingNothing scopedDisk ["@x/he"]).run ⟨"/app/src", "@x/he/a", .production⟩).calls =
      [(⟨"/app/node_modules/@x/he/lib/a.js"⟩, .production)] ∧
    ∃ package ∈ ["@x/he"], ∃ front rest,
      scopedDisk.hasDirectory (installed front package) = true ∧ rest ≠ [] ∧
        "/app/node_modules/@x/he/lib/a.js" = Disk.pathOf (installed front package ++ rest) := by
  have hloads : Traced.loads
      ((findingNothing scopedDisk ["@x/he"]).run ⟨"/app/src", "@x/he/a", .production⟩).calls =
      [(⟨"/app/node_modules/@x/he/lib/a.js"⟩, .production)] := by
    decide +kernel
  refine ⟨hloads, ?_⟩
  have hsplit : (Specifier.split "@x/he/a").subpath = some "a" := by decide +kernel
  have hpackages : ∀ package ∈ ["@x/he"], Specifier.IsPackageName package := by
    intro package hpackage
    obtain rfl := List.mem_singleton.mp hpackage
    exact @Specifier.IsPackageName.inScope _ ['x'] ['h', 'e'] rfl (by decide)
      ⟨rfl, by decide, by decide⟩
  have hsubpath : ∀ text, (Specifier.split "@x/he/a").subpath = some text → LeadsDown text := by
    intro text htext
    obtain rfl : "a" = text := Option.some.inj (hsplit.symm.trans htext)
    decide
  have hmanifests : ∀ directory, ∀ entry ∈ ({} : SearchOptions).entries
      (manifestOf scopedDisk directory), LeadsDown entry :=
    forall_manifestOf (P := fun manifest =>
      ∀ entry ∈ ({} : SearchOptions).entries manifest, LeadsDown entry)
      (by decide) (by decide +kernel)
  have hexports : ∀ directory, ∀ text ∈ exportTexts ({} : SearchOptions).conditions
      (Specifier.split "@x/he/a").subpath (manifestOf scopedDisk directory), LeadsDown text := by
    rw [hsplit]
    exact forall_manifestOf (P := fun manifest =>
      ∀ text ∈ exportTexts ({} : SearchOptions).conditions (some "a") manifest, LeadsDown text)
      (by decide) (by decide +kernel)
  exact @loads_inside_allowed {} scopedDisk (findingNothing scopedDisk ["@x/he"])
    ⟨"/app/src", "@x/he/a", .production⟩ rfl
    (Disk.hasNoLinks_of_entries (by simp [scopedDisk])) (by decide) hpackages rfl hmanifests
    hsubpath hexports _ .production (by rw [hloads]; exact List.mem_cons_self)

/-- A disk with a package and a file outside of it. -/
def outsideDisk : Disk where
  entries := [(["node_modules".toList], .directory),
    (["node_modules".toList, "he".toList], .directory),
    (["node_modules".toList, "he".toList, "index.js".toList], .file [] false),
    (["evil.js".toList], .file [] false)]
  workingDirectory := []

/-- A specifier that goes up from an allowed package has a file loaded that lies outside of it. -/
theorem loads_outside_allowed :
    Traced.loads
          ((findingNothing outsideDisk ["he"]).run ⟨"/", "he/../../evil", .production⟩).calls =
        [(⟨"/evil.js"⟩, .production)] ∧
      ¬ ∃ front rest, "/evil.js" = Disk.pathOf (installed front "he" ++ rest) := by
  refine ⟨by decide +kernel, ?_⟩
  rintro ⟨front, rest, hpath⟩
  -- the path of what lies in `node_modules` has a low line in it
  have hline : '_' ∈ (Disk.pathOf (installed front "he" ++ rest)).text.toList := by
    rw [Disk.pathOf, Path.ofSegments, if_pos rfl, String.toList_ofList]
    have hname : '_' ∈ "node_modules".toList := by decide
    refine List.mem_cons_of_mem _ (Text.mem_joinWith_of_mem ?_ hname)
    simp [installed]
  rw [← hpath] at hline
  exact absurd hline (by decide)

end Resolver

end NamedExports
