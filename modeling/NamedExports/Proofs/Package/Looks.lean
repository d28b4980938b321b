import NamedExports.Package.Search
import NamedExports.Proofs.Disk

/-!
# What a search looks at

A search from a specifier to a file looks at one thing after the other: at a path, which ends it if
it leads to a file, or at a manifest, which ends it if it cannot be understood.
`SearchOptions.looks` lists what there is to look at, in order, and `find?_eq_outcome` says that the
search is nothing but the first of these looks that ends it.  The paths among them are the
candidates for the result.
-/

namespace NamedExports.Package

open Json (Value)

/-! ## Looks -/

/-- One thing that a search looks at. -/
inductive Look where
  /-- A path that may lead to a file. -/
  | file (path : Path)
  /-- The path of a manifest, which need not exist. -/
  | manifest (path : Path)

namespace Look

/-- The path that is looked at. -/
def path : Look → Path
  | file path => path
  | manifest path => path

/-- The path of a look for a file. -/
def candidate? : Look → Option Path
  | file path => some path
  | manifest _ => none

/-- How a look ends the search, if it does: with a file, or with the failure of a manifest that is a
file and cannot be understood. -/
def decision? (disk : Disk) : Look → Option (Except Failure Path)
  | file path => if disk.isFile path then some (.ok path) else none
  | manifest path =>
    if disk.isFile path then
      match readManifest disk path with
      | .ok _ => none
      | .error failure => some (.error failure)
    else none

/-- What the first look that ends a search comes to. -/
def outcome (disk : Disk) (looks : List Look) : Except Failure (Option Path) :=
  match looks.findSome? (decision? disk) with
  | none => .ok none
  | some (.ok path) => .ok (some path)
  | some (.error failure) => .error failure

variable {disk : Disk} {paths : List Path} {front back : List Look}

/-- A path that leads to a file ends a search. -/
theorem outcome_file_cons {path : Path} : outcome disk (file path :: back) =
    if disk.isFile path then .ok (some path) else outcome disk back := by
  rw [outcome, outcome, List.findSome?_cons, decision?]
  cases disk.isFile path <;> rfl

/-- A manifest that is a file ends a search if it cannot be understood. -/
theorem outcome_manifest_cons {path : Path} : outcome disk (manifest path :: back) =
    if disk.isFile path then (readManifest disk path).bind fun _ => outcome disk back
    else outcome disk back := by
  rw [outcome, outcome, List.findSome?_cons, decision?]
  cases disk.isFile path with
  | false => rfl
  | true => cases readManifest disk path <;> rfl

/-- Among paths alone the first that leads to a file is found. -/
theorem outcome_map_file : outcome disk (paths.map file) = .ok (paths.find? disk.isFile) := by
  induction paths with
  | nil => rfl
  | cons first rest ih =>
    rw [List.map_cons, outcome_file_cons, List.find?_cons, ih]
    cases disk.isFile first <;> rfl

/-- Later looks count if the earlier ones end nothing. -/
theorem outcome_append : outcome disk (front ++ back) =
    match outcome disk front with
    | .ok none => outcome disk back
    | ended => ended := by
  rw [outcome, outcome, List.findSome?_append]
  cases front.findSome? (decision? disk) with
  | none => rfl
  | some decision => cases decision <;> rfl

/-- A search that has found nothing among paths goes on. -/
theorem outcome_map_file_append : outcome disk (paths.map file ++ back) =
    match paths.find? disk.isFile with
    | some path => .ok (some path)
    | none => outcome disk back := by
  rw [outcome_append, outcome_map_file]
  cases paths.find? disk.isFile <;> rfl

/-- Among paths alone all are candidates. -/
theorem filterMap_candidate?_map_file : (paths.map file).filterMap candidate? = paths := by
  rw [List.filterMap_map]
  exact List.filterMap_some

/-- What a search comes to is a path that was looked at and leads to a file. -/
theorem mem_of_outcome {path : Path} (h : outcome disk front = .ok (some path)) :
    file path ∈ front ∧ disk.isFile path = true := by
  induction front with
  | nil => cases h
  | cons first rest ih =>
    cases first with
    | file there =>
      rw [outcome_file_cons] at h
      split at h
      · rename_i hfile
        obtain rfl : there = path := by simpa using h
        exact ⟨List.mem_cons_self, hfile⟩
      · exact ⟨List.mem_cons_of_mem _ (ih h).1, (ih h).2⟩
    | manifest there =>
      rw [outcome_manifest_cons] at h
      have hrest : outcome disk rest = .ok (some path) := by
        split at h
        · cases hread : readManifest disk there with
          | error failure =>
            rw [hread] at h
            cases h
          | ok value =>
            rw [hread] at h
            exact h
        · exact h
      exact ⟨List.mem_cons_of_mem _ (ih hrest).1, (ih hrest).2⟩

/-- If all manifests can be understood, the first candidate that leads to a file is found. -/
theorem outcome_of_sound
    (h : ∀ path, manifest path ∈ front → disk.isFile path = true →
      ∃ value, readManifest disk path = .ok value) :
    outcome disk front = .ok ((front.filterMap candidate?).find? disk.isFile) := by
  induction front with
  | nil => rfl
  | cons first rest ih =>
    have hrest := ih fun path hmem => h path (List.mem_cons_of_mem _ hmem)
    cases first with
    | file path =>
      have hcandidate : candidate? (file path) = some path := rfl
      rw [outcome_file_cons, List.filterMap_cons_some hcandidate, List.find?_cons, hrest]
      cases disk.isFile path <;> rfl
    | manifest path =>
      rw [outcome_manifest_cons, List.filterMap_cons_none rfl, hrest]
      split
      · rename_i hfile
        obtain ⟨value, hvalue⟩ := h path List.mem_cons_self hfile
        rw [hvalue]
        rfl
      · rfl

end Look

/-- The value of a directory's manifest, if there is one that can be understood. -/
def manifestOf (disk : Disk) (directory : Path) : Option Value :=
  (manifest? disk directory).toOption.join

/-- The manifest of a directory ends a search if it cannot be understood. -/
theorem Look.outcome_manifest?_cons {disk : Disk} {directory : Path} {back : List Look} :
    outcome disk (manifest (directory.join manifestName) :: back) =
      (manifest? disk directory).bind fun _ => outcome disk back := by
  rw [outcome_manifest_cons, manifest?]
  split
  · cases readManifest disk (directory.join manifestName) <;> rfl
  · rfl

/-! ## Targets of exports -/

mutual

/-- The texts that a target stands for, in order of precedence. -/
def leaves (conditions : List String) : Value → List String
  | .string text => [text]
  | .array items => itemLeaves conditions items
  | .object members =>
    let under := memberLeaves conditions members
    conditions.flatMap fun condition => (Value.lastMember? condition under).getD []
  | _ => []

/-- The texts that several targets stand for, one target after the other. -/
def itemLeaves (conditions : List String) : List Value → List String
  | [] => []
  | first :: rest => leaves conditions first ++ itemLeaves conditions rest

/-- The texts that the target under each condition stands for. -/
def memberLeaves (conditions : List String) : List (String × Value) → List (String × List String)
  | [] => []
  | (condition, target) :: rest =>
    (condition, leaves conditions target) :: memberLeaves conditions rest

end

/-- A target's text with the text that `*` stands for put in. -/
def substituted (wildcard : Option (List Char)) (text : String) : String :=
  match wildcard with
  | some replacement => String.ofList (Text.replaceAll '*' text.toList replacement)
  | none => text

/-- The target that exports list for a subpath, and what `*` stands for in it. -/
def exportTarget? (subpath : Option String) : Value → Option (Value × Option (List Char))
  | .object members =>
    if mapsSubpaths members then
      match Value.lastMember? (exportKey subpath) members with
      | some target => some (target, none)
      | none =>
        (bestPattern? (exportKey subpath).toList (Value.object members).keys).bind
          fun (pattern, wildcard) =>
            (Value.lastMember? pattern members).map fun target => (target, some wildcard)
    else if subpath.isNone then some (.object members, none)
    else none
  | .string text => if subpath.isNone then some (.string text, none) else none
  | .array items => if subpath.isNone then some (.array items, none) else none
  | _ => none

/-- The texts that the exports of a manifest list for a subpath, with what `*` stands for put in. -/
def exportTexts (conditions : List String) (subpath : Option String) (manifest : Option Value) :
    List String :=
  match (manifest.bind (Value.member? "exports")).bind (exportTarget? subpath) with
  | some (target, wildcard) => (leaves conditions target).map (substituted wildcard)
  | none => []

/-- The paths that the exports of a manifest list for a subpath. -/
def exportPaths (conditions : List String) (directory : Path) (subpath : Option String)
    (manifest : Option Value) : List Path :=
  (exportTexts conditions subpath manifest).map directory.join

/-- The last member of a key after all members are mapped. -/
theorem lastMember?_map {α β : Type} (f : α → β) (key : String) (members : List (String × α)) :
    Value.lastMember? key (members.map fun member => (member.1, f member.2)) =
      (Value.lastMember? key members).map f := by
  rw [Value.lastMember?, Value.lastMember?, ← List.map_reverse, List.find?_map, Option.map_map,
    Option.map_map]
  rfl

namespace Lookup

variable (lookup : Lookup) (wildcard : Option (List Char))

/-- The first of some texts that names a file of the package. -/
def firstFile? (texts : List String) : Option Path :=
  (texts.map fun text => lookup.directory.join (substituted wildcard text)).find? lookup.isFile

/-- Looking for one file is looking for the first of one. -/
theorem fileOf_eq (text : String) :
    lookup.fileOf wildcard text = lookup.firstFile? wildcard [text] := by
  have hpath : lookup.fileOf wildcard text =
      if lookup.isFile (lookup.directory.join (substituted wildcard text)) then
        some (lookup.directory.join (substituted wildcard text)) else none := by
    cases wildcard <;> rfl
  rw [hpath, firstFile?, List.map_singleton, List.find?_singleton]

/-- The first file of two lists is the first of the front if there is one. -/
theorem firstFile?_append (front back : List String) :
    lookup.firstFile? wildcard (front ++ back) =
      (lookup.firstFile? wildcard front).or (lookup.firstFile? wildcard back) := by
  rw [firstFile?, firstFile?, firstFile?, List.map_append, List.find?_append]

/-- The first file of several lists is that of the first list that has one. -/
theorem firstFile?_flatMap {α : Type} (all : List α) (texts : α → List String) :
    lookup.firstFile? wildcard (all.flatMap texts) =
      all.findSome? fun a => lookup.firstFile? wildcard (texts a) := by
  rw [firstFile?, List.map_flatMap, List.find?_flatMap]
  rfl

-- by recursion on the target, together with its items and its members
mutual

/-- A target leads to the first file among its leaves. -/
theorem target?_eq_firstFile? : ∀ target : Value,
    lookup.target? wildcard target = lookup.firstFile? wildcard (leaves lookup.conditions target)
  | .string text => fileOf_eq lookup wildcard text
  | .array items => firstTarget?_eq_firstFile? items
  | .object members => by
    rw [target?, leaves, firstFile?_flatMap, memberTargets_eq_map members]
    congr 1
    funext condition
    rw [lastMember?_map]
    cases Value.lastMember? condition (memberLeaves lookup.conditions members) <;> rfl
  | .null | .bool _ | .number _ => rfl

/-- The first file among the targets of an array is the first among all their leaves. -/
theorem firstTarget?_eq_firstFile? : ∀ targets : List Value,
    lookup.firstTarget? wildcard targets =
      lookup.firstFile? wildcard (itemLeaves lookup.conditions targets)
  | [] => rfl
  | first :: rest => by
    rw [firstTarget?, itemLeaves, firstFile?_append, target?_eq_firstFile? first,
      firstTarget?_eq_firstFile? rest]

/-- The targets of an object have the leaves that are below them. -/
theorem memberTargets_eq_map : ∀ members : List (String × Value),
    lookup.memberTargets wildcard members =
      (memberLeaves lookup.conditions members).map fun member =>
        (member.1, lookup.firstFile? wildcard member.2)
  | [] => rfl
  | (condition, target) :: rest => by
    rw [memberTargets, memberLeaves, List.map_cons, target?_eq_firstFile? target,
      memberTargets_eq_map rest]

end

/-- The map of subpaths leads to the target that is listed, with what `*` stands for put in. -/
theorem ofSubpath?_eq (members : List (String × Value)) (subpath : Option String)
    (hmaps : mapsSubpaths members = true) :
    ofSubpath? lookup members (exportKey subpath) =
      (exportTarget? subpath (.object members)).bind fun (target, wildcard) =>
        lookup.target? wildcard target := by
  rw [ofSubpath?, exportTarget?, if_pos hmaps]
  cases Value.lastMember? (exportKey subpath) members with
  | some target => rfl
  | none =>
    cases bestPattern? (exportKey subpath).toList (Value.object members).keys with
    | none => rfl
    | some best => cases hbest : Value.lastMember? best.1 members <;> simp [hbest]

/-- Exports lead to the target that they list. -/
theorem ofExports?_eq (subpath : Option String) (exports : Value) :
    ofExports? lookup subpath exports =
      (exportTarget? subpath exports).bind fun (target, wildcard) =>
        lookup.target? wildcard target := by
  cases exports with
  | object members =>
    rw [ofExports?]
    split
    · rename_i hmaps
      exact ofSubpath?_eq lookup members subpath hmaps
    · rename_i hmaps
      rw [exportTarget?, if_neg hmaps]
      split <;> rfl
  | string text =>
    rw [ofExports?, exportTarget?]
    split <;> rfl
  | array items =>
    rw [ofExports?, exportTarget?]
    split <;> rfl
  | null => rfl
  | bool value => rfl
  | number value => rfl

end Lookup

namespace SearchOptions

variable (options : SearchOptions) (disk : Disk)

/-- The exports of a manifest lead to the first of the paths they list that is a file. -/
theorem exported?_eq_find? (directory : Path) (subpath : Option String) (manifest : Option Value) :
    options.exported? disk directory subpath manifest =
      (exportPaths options.conditions directory subpath manifest).find? disk.isFile := by
  have hexported : options.exported? disk directory subpath manifest =
      ((manifest.bind (Value.member? "exports")).bind (exportTarget? subpath)).bind
        fun (target, wildcard) =>
          Lookup.target? ⟨disk.isFile, options.conditions, directory⟩ wildcard target := by
    rw [exported?]
    cases manifest.bind (Value.member? "exports") with
    | none => rfl
    | some exports => exact Lookup.ofExports?_eq _ subpath exports
  rw [hexported, exportPaths, exportTexts]
  cases (manifest.bind (Value.member? "exports")).bind (exportTarget? subpath) with
  | none => rfl
  | some found =>
    obtain ⟨target, wildcard⟩ := found
    show Lookup.target? _ wildcard target = _
    rw [Lookup.target?_eq_firstFile?, Lookup.firstFile?, List.map_map]
    rfl

/-! ## Files and directories -/

/-- A path as it is written, and with each extension behind it. -/
def filePaths (path : Path) : List Path := path :: options.extensions.map path.withSuffix

/-- The index files of a directory. -/
def indexPaths (directory : Path) : List Path :=
  options.extensions.map fun extension => directory.join ("index." ++ extension)

/-- The texts of a manifest's entry fields that are not empty, in order of precedence. -/
def entries (manifest : Option Value) : List String :=
  (options.mainFields.filterMap fun field =>
    (manifest.bind (Value.member? field)).bind Value.text?).filter (! ·.isEmpty)

/-- The paths of one entry: a file, or the index of a directory. -/
def entryPaths (path : Path) : List Path :=
  options.filePaths path ++ if disk.isDirectory path then options.indexPaths path else []

/-- The paths of a directory's entry: those of each entry field, then the index. -/
def directoryPaths (directory : Path) (manifest : Option Value) : List Path :=
  ((options.entries manifest).flatMap fun entry =>
    options.entryPaths disk (directory.join entry)) ++ options.indexPaths directory

/-- What to look at for a path: files, and the manifest and the entry if it is a directory. -/
def pathLooks (path : Path) : List Look :=
  (options.filePaths path).map .file ++
    if disk.isDirectory path then
      .manifest (path.join manifestName) ::
        (options.directoryPaths disk path (manifestOf disk path)).map .file
    else []

/-- The file of an entry is the first of its spellings that is one. -/
theorem entryFile?_eq_find? (directory : Path) (entry : String) :
    options.entryFile? disk directory entry =
      (options.entryPaths disk (directory.join entry)).find? disk.isFile := by
  rw [entryFile?, entryPaths, List.find?_append]
  split <;> rfl

/-- The file of a directory is the first of its candidates that is one. -/
theorem directoryFile?_eq_find? (directory : Path) (manifest : Option Value) :
    options.directoryFile? disk directory manifest =
      (options.directoryPaths disk directory manifest).find? disk.isFile := by
  rw [directoryFile?, directoryPaths, List.find?_append, List.find?_flatMap]
  congr 2
  funext entry
  exact entryFile?_eq_find? options disk directory entry

/-- The manifest that is found says what its directory's entry is. -/
theorem manifestOf_of_ok {directory : Path} {manifest : Option Value}
    (h : manifest? disk directory = .ok manifest) : manifestOf disk directory = manifest := by
  rw [manifestOf, h]
  rfl

/-- What is found at a path is the outcome of the looks at it, in order. -/
theorem fileOrEntry?_eq_outcome (path : Path) :
    options.fileOrEntry? disk path = Look.outcome disk (options.pathLooks disk path) := by
  rw [pathLooks, fileOrEntry?, Look.outcome_map_file_append]
  show (match (options.filePaths path).find? disk.isFile with | some file => _ | none => _) = _
  cases (options.filePaths path).find? disk.isFile with
  | some file => rfl
  | none =>
    cases hdirectory : disk.isDirectory path with
    | false => rfl
    | true =>
      simp only [if_true]
      rw [Look.outcome_manifest?_cons, Look.outcome_map_file]
      cases hmanifest : manifest? disk path with
      | error failure => rfl
      | ok manifest =>
        rw [manifestOf_of_ok disk hmanifest, ← directoryFile?_eq_find?]
        rfl

/-! ## Packages -/

/-- The directories that a package may be in: those called after it in `node_modules` of the base
and of the directories above it, the nearest first, unless these are `node_modules` themselves. -/
def packageDirectories (base : Path) (name : String) : List Path :=
  (base.ancestors.filter fun directory =>
    directory.fileName? != some "node_modules".toList).map fun directory =>
      (directory.join "node_modules").join name

/-- A package lies behind the directory that has it in `node_modules`. -/
theorem join_node_modules (directory : Path) {name : String}
    (hname : (Path.mk name).isAbsolute = false) :
    (directory.join "node_modules").join name =
      directory.join ("node_modules" ++ "/" ++ name) :=
  Path.join_join (by decide) hname (by decide) (by decide)

/-- What to look at for a subpath of a package, or for the package itself. -/
def packageLooks (directory : Path) (subpath : Option String) : List Look :=
  .manifest (directory.join manifestName) ::
    ((exportPaths options.conditions directory subpath (manifestOf disk directory)).map .file ++
      match subpath with
      | some path => options.pathLooks disk (directory.join path)
      | none => (options.directoryPaths disk directory (manifestOf disk directory)).map .file)

/-- What is found in a package is the outcome of the looks into it, in order. -/
theorem inPackage?_eq_outcome (directory : Path) (subpath : Option String) :
    options.inPackage? disk directory subpath =
      Look.outcome disk (options.packageLooks disk directory subpath) := by
  unfold packageLooks
  rw [inPackage?, Look.outcome_manifest?_cons]
  cases hmanifest : manifest? disk directory with
  | error failure => rfl
  | ok manifest =>
    rw [manifestOf_of_ok disk hmanifest]
    show (match options.exported? disk directory subpath manifest with
      | some file => _
      | none => _) = Look.outcome disk _
    rw [exported?_eq_find?, Look.outcome_map_file_append]
    cases (exportPaths options.conditions directory subpath manifest).find? disk.isFile with
    | some file => rfl
    | none =>
      cases subpath with
      | some path => exact fileOrEntry?_eq_outcome options disk (directory.join path)
      | none =>
        show Except.ok (options.directoryFile? disk directory manifest) = _
        rw [directoryFile?_eq_find?, ← Look.outcome_map_file]

/-! ## Specifiers -/

/-- What a search looks at, in order. -/
def looks (base : Path) (specifier : String) : List Look :=
  if specifier.isEmpty then []
  else if Specifier.isPath specifier then options.pathLooks disk (base.join specifier)
  else
    match (packageDirectories base (Specifier.split specifier).name).find? disk.isDirectory with
    | some directory =>
      options.packageLooks disk directory (Specifier.split specifier).subpath
    | none => []

/-- A search comes to what the first look that ends it comes to. -/
theorem find?_eq_outcome (base : Path) (specifier : String) :
    options.find? disk base specifier = Look.outcome disk (options.looks disk base specifier) := by
  have hfolders (name : String) :
      (packageFolders base).map (·.join name) = packageDirectories base name := by
    rw [packageFolders, packageDirectories, List.map_map]
    rfl
  rw [find?, looks]
  split
  · rfl
  · split
    · exact fileOrEntry?_eq_outcome options disk (base.join specifier)
    · rw [package?, hfolders]
      cases (packageDirectories base (Specifier.split specifier).name).find? disk.isDirectory with
      | none => rfl
      | some directory => exact inPackage?_eq_outcome options disk directory _

/-! ## Candidates -/

/-- The candidates for a path: files, and the entry if it is a directory. -/
def pathCandidates (path : Path) : List Path :=
  options.filePaths path ++
    if disk.isDirectory path then options.directoryPaths disk path (manifestOf disk path) else []

/-- The candidates for a subpath of a package, or for the package itself: what the exports list,
then a path or the entry. -/
def packageCandidates (directory : Path) (subpath : Option String) : List Path :=
  exportPaths options.conditions directory subpath (manifestOf disk directory) ++
    match subpath with
    | some path => options.pathCandidates disk (directory.join path)
    | none => options.directoryPaths disk directory (manifestOf disk directory)

/-- The paths among which a search finds its result.  Of the directories that a package may be in
only the nearest one that exists counts. -/
def candidates (base : Path) (specifier : String) : List Path :=
  if specifier.isEmpty then []
  else if Specifier.isPath specifier then options.pathCandidates disk (base.join specifier)
  else
    match (packageDirectories base (Specifier.split specifier).name).find? disk.isDirectory with
    | some directory =>
      options.packageCandidates disk directory (Specifier.split specifier).subpath
    | none => []

/-- Apart from manifests, the looks at a path are its candidates. -/
theorem pathLooks_candidates (path : Path) :
    (options.pathLooks disk path).filterMap Look.candidate? = options.pathCandidates disk path := by
  rw [pathLooks, pathCandidates, List.filterMap_append, Look.filterMap_candidate?_map_file]
  split
  · rw [List.filterMap_cons_none rfl, Look.filterMap_candidate?_map_file]
  · rfl

/-- Apart from manifests, the looks into a package are its candidates. -/
theorem packageLooks_candidates (directory : Path) (subpath : Option String) :
    (options.packageLooks disk directory subpath).filterMap Look.candidate? =
      options.packageCandidates disk directory subpath := by
  unfold packageLooks packageCandidates
  rw [List.filterMap_cons_none rfl, List.filterMap_append, Look.filterMap_candidate?_map_file]
  cases subpath with
  | some path => rw [pathLooks_candidates]
  | none => rw [Look.filterMap_candidate?_map_file]

/-- The candidates are the paths among the looks that may lead to a file. -/
theorem looks_candidates (base : Path) (specifier : String) :
    (options.looks disk base specifier).filterMap Look.candidate? =
      options.candidates disk base specifier := by
  rw [looks, candidates]
  split
  · rfl
  · split
    · exact pathLooks_candidates options disk _
    · cases (packageDirectories base (Specifier.split specifier).name).find? disk.isDirectory with
      | some directory => exact packageLooks_candidates options disk directory _
      | none => rfl

/-- The candidates for the name of a package lie in the nearest directory of that package. -/
theorem exists_directory_of_mem_candidates {base path : Path} {specifier : String}
    (hbare : Specifier.isPath specifier = false)
    (h : path ∈ options.candidates disk base specifier) :
    ∃ directory, (packageDirectories base (Specifier.split specifier).name).find?
        disk.isDirectory = some directory ∧
      path ∈ options.packageCandidates disk directory (Specifier.split specifier).subpath := by
  unfold candidates at h
  split at h
  · cases h
  · rw [if_neg (by simp [hbare])] at h
    cases hnearest : (packageDirectories base (Specifier.split specifier).name).find?
        disk.isDirectory with
    | none =>
      rw [hnearest] at h
      cases h
    | some directory =>
      rw [hnearest] at h
      exact ⟨directory, rfl, h⟩

/-! ## The result -/

variable {options disk} {base path : Path} {specifier : String}

/-- What a search finds is a candidate that leads to a file. -/
theorem mem_candidates_of_find? (h : options.find? disk base specifier = .ok (some path)) :
    path ∈ options.candidates disk base specifier ∧ disk.isFile path = true := by
  rw [find?_eq_outcome] at h
  obtain ⟨hmem, hfile⟩ := Look.mem_of_outcome h
  rw [← looks_candidates]
  exact ⟨List.mem_filterMap.mpr ⟨_, hmem, rfl⟩, hfile⟩

/-- The result of a search that finds a file is the canonical path of that file. -/
theorem resolve_of_find?_some (h : options.find? disk base specifier = .ok (some path)) :
    options.resolve disk base specifier = (disk.canonical path).mapError (.fileRead path) := by
  rw [resolve, h]
  simp only [bind, Except.bind]
  cases disk.canonical path <;> rfl

/-- A search that finds a file succeeds with the canonical path of that file and with no other. -/
theorem resolve_eq_ok_iff_of_find? {canonical : Path}
    (h : options.find? disk base specifier = .ok (some path)) :
    options.resolve disk base specifier = .ok canonical ↔ disk.canonical path = .ok canonical := by
  rw [resolve_of_find?_some h]
  cases disk.canonical path <;> simp [Except.mapError]

/-- A search that finds nothing ends in the failure to find the module. -/
theorem resolve_of_find?_none (h : options.find? disk base specifier = .ok none) :
    options.resolve disk base specifier = .error (.moduleNotFound specifier base) := by
  rw [resolve, h]
  rfl

/-- A search that fails is what its resolution fails with. -/
theorem resolve_of_find?_error {failure : Failure}
    (h : options.find? disk base specifier = .error failure) :
    options.resolve disk base specifier = .error failure := by
  rw [resolve, h]
  rfl

/-- A result is the canonical path of what the search finds. -/
theorem exists_find?_of_resolve {canonical : Path}
    (h : options.resolve disk base specifier = .ok canonical) :
    ∃ path, options.find? disk base specifier = .ok (some path) ∧
      disk.canonical path = .ok canonical := by
  cases hfind : options.find? disk base specifier with
  | error failure =>
    rw [resolve_of_find?_error hfind] at h
    cases h
  | ok found =>
    cases found with
    | none =>
      rw [resolve_of_find?_none hfind] at h
      cases h
    | some path =>
      exact ⟨path, rfl, (resolve_eq_ok_iff_of_find? hfind).mp h⟩

/-- How a search that comes to a file is answered: with its canonical path, or with the failure to
follow that path if it is too long. -/
def IsAnswer (disk : Disk) (path : Path) (answer : Except Failure Path) : Prop :=
  (∃ canonical, disk.canonical path = .ok canonical ∧ answer = .ok canonical) ∨
    disk.canonical path = .error .nameTooLong ∧ answer = .error (.fileRead path .nameTooLong)

/-- What a search finds is what it is answered with. -/
theorem isAnswer_of_find? (h : options.find? disk base specifier = .ok (some path)) :
    IsAnswer disk path (options.resolve disk base specifier) := by
  rw [resolve_of_find?_some h]
  rcases Disk.canonical_of_isFile (mem_candidates_of_find? h).2 with ⟨canonical, hcanonical⟩ | hlong
  · rw [hcanonical]
    exact Or.inl ⟨canonical, hcanonical, rfl⟩
  · rw [hlong]
    exact Or.inr ⟨hlong, rfl⟩

/-- The first look that ends a search decides its result: a file is answered by its canonical path,
which may turn out too long, a manifest that cannot be understood by its failure, and if nothing ends
the search there is no such module.  If all manifests that are looked at can be understood, it is the
first candidate that leads to a file which is answered. -/
theorem resolve_decided_by_first_look (options : SearchOptions) (disk : Disk) (base : Path)
    (specifier : String) :
    (match (options.looks disk base specifier).findSome? (Look.decision? disk) with
      | some (.ok path) => IsAnswer disk path (options.resolve disk base specifier)
      | some (.error failure) => options.resolve disk base specifier = .error failure
      | none =>
          options.resolve disk base specifier = .error (.moduleNotFound specifier base)) ∧
    (options.looks disk base specifier).filterMap Look.candidate? =
      options.candidates disk base specifier ∧
    ((∀ path, .manifest path ∈ options.looks disk base specifier → disk.isFile path = true →
        ∃ value, readManifest disk path = .ok value) →
      match (options.candidates disk base specifier).find? disk.isFile with
      | some path => IsAnswer disk path (options.resolve disk base specifier)
      | none =>
          options.resolve disk base specifier = .error (.moduleNotFound specifier base)) := by
  have hfind := find?_eq_outcome options disk base specifier
  refine ⟨?_, looks_candidates options disk base specifier, ?_⟩
  · cases hfirst : (options.looks disk base specifier).findSome? (Look.decision? disk) with
    | none =>
      rw [Look.outcome, hfirst] at hfind
      exact resolve_of_find?_none hfind
    | some decision =>
      rw [Look.outcome, hfirst] at hfind
      cases decision with
      | error failure => exact resolve_of_find?_error hfind
      | ok path => exact isAnswer_of_find? hfind
  · intro hsound
    rw [Look.outcome_of_sound hsound, looks_candidates] at hfind
    cases hfirst : (options.candidates disk base specifier).find? disk.isFile with
    | none =>
      rw [hfirst] at hfind
      exact resolve_of_find?_none hfind
    | some path =>
      rw [hfirst] at hfind
      exact isAnswer_of_find? hfind

/-- A package whose manifest names a directory as its entry. -/
def namedEntryDisk : Disk where
  entries := [(["pkg".toList], .directory), (["pkg".toList, "lib".toList], .directory),
    (["pkg".toList, "lib".toList, "index.js".toList], .file [] false),
    (["pkg".toList, "package.json".toList],
      .file (Text.Utf8.encode "\x7b\"main\":\"lib\"\x7d".toList) false)]
  workingDirectory := []

/-- Where the only manifest can be understood, the first candidate that leads to a file is answered:
the index of the directory that the manifest names. -/
theorem resolve_namedEntry :
    (∀ path, .manifest path ∈ ({} : SearchOptions).looks namedEntryDisk "/" "./pkg" →
        namedEntryDisk.isFile path = true →
          ∃ value, readManifest namedEntryDisk path = .ok value) ∧
      (({} : SearchOptions).candidates namedEntryDisk "/" "./pkg").find? namedEntryDisk.isFile =
        some "/./pkg/lib/index.js" ∧
      ({} : SearchOptions).resolve namedEntryDisk "/" "./pkg" = .ok "/pkg/lib/index.js" := by
  have hlooks : (({} : SearchOptions).looks namedEntryDisk "/" "./pkg").all (fun
      | .manifest path => path = "/./pkg/package.json"
      | .file _ => true) = true := by
    decide +kernel
  have hread : (readManifest namedEntryDisk "/./pkg/package.json").isOk = true := by
    decide +kernel
  have hsound : ∀ path, .manifest path ∈ ({} : SearchOptions).looks namedEntryDisk "/" "./pkg" →
      namedEntryDisk.isFile path = true →
        ∃ value, readManifest namedEntryDisk path = .ok value := by
    intro path hlook _
    have hpath : path = "/./pkg/package.json" :=
      of_decide_eq_true (List.all_eq_true.mp hlooks _ hlook)
    rw [hpath]
    generalize readManifest namedEntryDisk "/./pkg/package.json" = answer at hread ⊢
    cases answer with
    | ok value => exact ⟨value, rfl⟩
    | error failure => cases hread
  have hfirst : (({} : SearchOptions).candidates namedEntryDisk "/" "./pkg").find?
      namedEntryDisk.isFile = some "/./pkg/lib/index.js" := by
    decide +kernel
  have hcanonical : namedEntryDisk.canonical "/./pkg/lib/index.js" = .ok "/pkg/lib/index.js" := by
    decide +kernel
  obtain ⟨-, -, hanswer⟩ := resolve_decided_by_first_look {} namedEntryDisk "/" "./pkg"
  rw [hfirst] at hanswer
  refine ⟨hsound, hfirst, ?_⟩
  rcases hanswer hsound with ⟨canonical, hpath, hresolve⟩ | ⟨hlong, -⟩
  · rw [hcanonical] at hpath
    obtain rfl := Except.ok.inj hpath
    exact hresolve
  · rw [hcanonical] at hlong
    cases hlong

/-- A package with an index and a manifest that breaks off. -/
def brokenManifestDisk : Disk where
  entries := [(["pkg".toList], .directory),
    (["pkg".toList, "index.js".toList], .file [] false),
    (["pkg".toList, "package.json".toList], .file [0x7b] false)]
  workingDirectory := []

/-- A manifest that cannot be understood counts even where an index would be found. -/
theorem resolve_brokenManifest :
    (({} : SearchOptions).candidates brokenManifestDisk "/" "./pkg").find?
        brokenManifestDisk.isFile = some "/./pkg/index.js" ∧
      brokenManifestDisk.canonical "/./pkg/index.js" = .ok "/pkg/index.js" ∧
      ({} : SearchOptions).resolve brokenManifestDisk "/" "./pkg" =
        .error (.malformedJson "/./pkg/package.json"
          "unexpected end of text") := by
  refine ⟨?_, ?_, ?_⟩
  · rfl
  · rfl
  · rfl

end SearchOptions

end NamedExports.Package
