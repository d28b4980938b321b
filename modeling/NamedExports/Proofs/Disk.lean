import NamedExports.Disk
import NamedExports.Proofs.Path.Segments

/-!
# Walking a file tree

On a disk without links a walk takes one step for each segment, and a step stays, goes up or goes
down: `walk_cons_eq_found_iff`.  A walk that never goes up ends below where it started, at the names
among its segments: `eq_append_of_walk`.  A path behind the path of a directory is walked from
there: `place_join`.
-/

namespace NamedExports

namespace Disk

open NamedExports.Path (staysHere moves)

variable {disk : Disk} {path : Path} {location there : Location}

/-! ## Where paths lead -/

/-- A path is located if it can be asked for and the walk along its segments finds something. -/
theorem locate_eq_ok_iff : disk.locate path = .ok location ↔
    checkPath path = .ok () ∧
      disk.walk maxLinks (disk.start path) path.segments = .ok (.found location) := by
  rw [locate, place]
  cases checkPath path with
  | error cause => simp [bind, Except.bind]
  | ok checked =>
    simp only [bind, Except.bind, true_and]
    cases disk.walk maxLinks (disk.start path) path.segments with
    | error cause => simp
    | ok place => cases place <;> simp

/-- A file is a location that holds one. -/
theorem isFile_iff : disk.isFile path = true ↔
    ∃ location content executable, disk.locate path = .ok location ∧
      disk.lookup? location = some (.file content executable) := by
  rw [isFile, entry?]
  cases disk.locate path with
  | error cause => simp [Except.toOption]
  | ok location =>
    simp only [Except.toOption, Option.bind_some, Except.ok.injEq]
    cases hentry : disk.lookup? location with
    | none => simp [hentry]
    | some entry => cases entry <;> simp [hentry]

/-- A directory is a location that is found to be one. -/
theorem isDirectory_iff : disk.isDirectory path = true ↔
    ∃ location, disk.locate path = .ok location ∧ disk.hasDirectory location = true := by
  rw [isDirectory, entry?]
  cases disk.locate path with
  | error cause => simp [Except.toOption]
  | ok location => simp [Except.toOption, hasDirectory]

/-- A directory stands where a path to a directory leads. -/
theorem hasDirectory_of_isDirectory (hlocate : disk.locate path = .ok location)
    (hdirectory : disk.isDirectory path = true) : disk.hasDirectory location = true := by
  obtain ⟨there, hthere, hhas⟩ := isDirectory_iff.mp hdirectory
  rwa [Except.ok.inj (hlocate.symm.trans hthere)]

/-- What leads to a file leads to no directory. -/
theorem hasDirectory_of_isFile (hlocate : disk.locate path = .ok location)
    (hfile : disk.isFile path = true) : disk.hasDirectory location = false := by
  obtain ⟨there, content, executable, hthere, hentry⟩ := isFile_iff.mp hfile
  obtain rfl : location = there := Except.ok.inj (hlocate.symm.trans hthere)
  rw [hasDirectory, hentry]
  rfl

/-- The canonical path of what a path leads to is that of its location, unless it is too long. -/
theorem canonical_of_locate (hlocate : disk.locate path = .ok location) : disk.canonical path =
    if Fits (pathOf location) then .ok (pathOf location) else .error .nameTooLong := by
  rw [canonical, hlocate]
  rfl

/-- A canonical path is the path of a location, which is not too long. -/
theorem canonical_eq_ok_iff {canonical : Path} : disk.canonical path = .ok canonical ↔
    ∃ location, disk.locate path = .ok location ∧ Fits canonical ∧ canonical = pathOf location := by
  cases hlocate : disk.locate path with
  | error cause => simp [Disk.canonical, hlocate, bind, Except.bind]
  | ok location =>
    rw [canonical_of_locate hlocate]
    constructor
    · intro h
      split at h
      · rename_i hfits
        obtain rfl := Except.ok.inj h
        exact ⟨location, rfl, hfits, rfl⟩
      · cases h
    · rintro ⟨other, hother, hfits, rfl⟩
      obtain rfl := Except.ok.inj hother
      rw [if_pos hfits]

/-- What leads to a file has a canonical path, unless that would be too long. -/
theorem canonical_of_isFile (h : disk.isFile path = true) :
    (∃ canonical, disk.canonical path = .ok canonical) ∨
      disk.canonical path = .error .nameTooLong := by
  obtain ⟨location, content, executable, hlocate, -⟩ := isFile_iff.mp h
  rw [canonical_of_locate hlocate]
  split
  · exact Or.inl ⟨_, rfl⟩
  · exact Or.inr rfl

/-- What is read from a path is the content of a file that the disk holds. -/
theorem exists_file_of_readText {text : String} (h : disk.readText path = .ok text) :
    ∃ entry ∈ disk.entries, ∃ content executable, entry.2 = .file content executable ∧
      (Text.Utf8.decode? content).map String.ofList = some text := by
  unfold readText readBytes at h
  cases hlocate : disk.locate path with
  | error cause => simp [hlocate, bind, Except.bind] at h
  | ok location =>
    simp only [hlocate, bind, Except.bind] at h
    cases hentry : disk.lookup? location with
    | none => simp [hentry] at h
    | some found =>
      cases found with
      | link target => simp [hentry] at h
      | directory => simp [hentry] at h
      | file content executable =>
        rw [lookup?] at hentry
        split at hentry
        · cases hentry
        · rename_i hne
          obtain ⟨entry, hfind, hvalue⟩ := Option.map_eq_some_iff.mp hentry
          refine ⟨entry, List.mem_of_find?_eq_some hfind, content, executable, hvalue, ?_⟩
          rw [lookup?, if_neg hne, hfind, Option.map_some, hvalue] at h
          cases hchars : Text.Utf8.decode? content with
          | none => simp [hchars] at h
          | some chars => simpa [hchars] using h

/-! ## Steps -/

/-- There are no symbolic links on a disk. -/
def HasNoLinks (disk : Disk) : Prop :=
  ∀ location target, disk.lookup? location ≠ some (.link target)

/-- A disk none of whose entries is a link has no links. -/
theorem hasNoLinks_of_entries (h : ∀ entry ∈ disk.entries, ∀ target, entry.2 ≠ .link target) :
    disk.HasNoLinks := by
  intro location target hlink
  rw [lookup?] at hlink
  split at hlink
  · cases hlink
  · obtain ⟨entry, hfind, hentry⟩ := Option.map_eq_some_iff.mp hlink
    exact h entry (List.mem_of_find?_eq_some hfind) target hentry

/-- One segment leads from a directory to a location. -/
inductive Step (disk : Disk) (here : Location) : List Char → Location → Prop where
  | stay {segment : List Char} (directory : disk.hasDirectory here = true)
      (stays : staysHere segment = true) : Step disk here segment here
  | up (directory : disk.hasDirectory here = true) : Step disk here ['.', '.'] here.dropLast
  | down {segment : List Char} {entry : Entry} (directory : disk.hasDirectory here = true)
      (moves : staysHere segment = false) (down : segment ≠ ['.', '.'])
      (short : (Text.Utf8.encode segment).length ≤ maxName)
      (found : disk.lookup? (here ++ [segment]) = some entry) :
      Step disk here segment (here ++ [segment])

/-- A step starts in a directory. -/
theorem Step.hasDirectory {here next : Location} {segment : List Char}
    (h : disk.Step here segment next) : disk.hasDirectory here = true := by
  cases h with
  | stay hdirectory hstays => exact hdirectory
  | up hdirectory => exact hdirectory
  | down hdirectory hmoves hdown hshort hentry => exact hdirectory

variable {links : Nat} {here middle : Location} {segment : List Char}
  {segments front back : List (List Char)}

/-- Nothing is left to walk. -/
@[simp] theorem walk_nil : disk.walk links here [] = .ok (.found here) := by
  cases links <;> rfl

/-- A walk where there are no links, from its first segment on. -/
theorem walk_cons (h : disk.HasNoLinks) : disk.walk links here (segment :: segments) =
    if !disk.hasDirectory here then .error .notADirectory
    else if staysHere segment then disk.walk links here segments
    else if segment == ['.', '.'] then disk.walk links here.dropLast segments
    else if (Text.Utf8.encode segment).length > maxName then .error .nameTooLong
    else
      match disk.lookup? (here ++ [segment]) with
      | none => .ok (.missing here segment segments)
      | some _ => disk.walk links (here ++ [segment]) segments := by
  have hwith (onLink : Location → List (List Char) → Except IoError Place) :
      walkWith onLink disk here (segment :: segments) =
        if !disk.hasDirectory here then .error .notADirectory
        else if staysHere segment then walkWith onLink disk here segments
        else if segment == ['.', '.'] then walkWith onLink disk here.dropLast segments
        else if (Text.Utf8.encode segment).length > maxName then .error .nameTooLong
        else
          match disk.lookup? (here ++ [segment]) with
          | none => .ok (.missing here segment segments)
          | some _ => walkWith onLink disk (here ++ [segment]) segments := by
    rw [walkWith]
    cases hentry : disk.lookup? (here ++ [segment]) with
    | none => rfl
    | some entry =>
      cases entry with
      | link target => exact absurd hentry (h _ target)
      | file content executable => rfl
      | directory => rfl
  cases links <;> exact hwith _

/-- A walk that ends at an entry takes one step after the other. -/
theorem walk_cons_eq_found_iff (h : disk.HasNoLinks) :
    disk.walk links here (segment :: segments) = .ok (.found there) ↔
      ∃ next, disk.Step here segment next ∧ disk.walk links next segments = .ok (.found there) := by
  rw [walk_cons h]
  constructor
  · intro hwalk
    split at hwalk
    · cases hwalk
    · rename_i hdirectory
      have hdirectory : disk.hasDirectory here = true := by simpa using hdirectory
      split at hwalk
      · rename_i hstays
        exact ⟨here, .stay hdirectory hstays, hwalk⟩
      · rename_i hmoves
        split at hwalk
        · rename_i hup
          obtain rfl := beq_iff_eq.mp hup
          exact ⟨here.dropLast, .up hdirectory, hwalk⟩
        · rename_i hdown
          split at hwalk
          · cases hwalk
          · rename_i hshort
            split at hwalk
            · cases hwalk
            · rename_i entry hentry
              refine ⟨here ++ [segment], .down hdirectory (by simpa using hmoves) ?_ ?_ hentry,
                hwalk⟩
              · exact fun e => hdown (beq_iff_eq.mpr e)
              · exact Nat.le_of_not_lt hshort
  · rintro ⟨next, hstep, hwalk⟩
    cases hstep with
    | stay hdirectory hstays => simp [hdirectory, hstays, hwalk]
    | up hdirectory =>
      have hmoves : staysHere ['.', '.'] = false := rfl
      simp [hdirectory, hmoves, hwalk]
    | down hdirectory hmoves hdown hshort hentry =>
      have hshort : ¬ (Text.Utf8.encode segment).length > maxName := Nat.not_lt_of_le hshort
      simp [hdirectory, hmoves, hdown, hshort, hentry, hwalk]

/-- What comes behind a walk that ends at an entry is walked from there. -/
theorem walk_append (h : disk.HasNoLinks)
    (hfront : disk.walk links here front = .ok (.found middle)) :
    disk.walk links here (front ++ back) = disk.walk links middle back := by
  induction front generalizing here with
  | nil =>
    obtain rfl : here = middle := by simpa using hfront
    rfl
  | cons segment rest ih =>
    obtain ⟨next, hstep, hrest⟩ := (walk_cons_eq_found_iff h).mp hfront
    rw [List.cons_append, walk_cons h, ← ih hrest]
    cases hstep with
    | stay hdirectory hstays => simp [hdirectory, hstays]
    | up hdirectory =>
      have hmoves : staysHere ['.', '.'] = false := rfl
      simp [hdirectory, hmoves]
    | down hdirectory hmoves hdown hshort hentry =>
      have hshort : ¬ (Text.Utf8.encode segment).length > maxName := Nat.not_lt_of_le hshort
      simp [hdirectory, hmoves, hdown, hshort, hentry]

/-- Where there are no links, a walk along two lists of segments is one walk after the other. -/
theorem walk_append_eq_found_iff (h : disk.HasNoLinks) :
    disk.walk links here (front ++ back) = .ok (.found there) ↔
      ∃ middle, disk.walk links here front = .ok (.found middle) ∧
        disk.walk links middle back = .ok (.found there) := by
  constructor
  · intro hwalk
    induction front generalizing here with
    | nil => exact ⟨here, walk_nil, hwalk⟩
    | cons segment rest ih =>
      obtain ⟨next, hstep, hrest⟩ := (walk_cons_eq_found_iff h).mp hwalk
      obtain ⟨middle, hmiddle, hback⟩ := ih hrest
      exact ⟨middle, (walk_cons_eq_found_iff h).mpr ⟨next, hstep, hmiddle⟩, hback⟩
  · rintro ⟨middle, hfront, hback⟩
    rw [walk_append h hfront, hback]

/-- A walk that never goes up ends at the names among its segments, below where it started. -/
theorem eq_append_of_walk (h : disk.HasNoLinks) (hup : ['.', '.'] ∉ segments)
    (hwalk : disk.walk links here segments = .ok (.found there)) :
    there = here ++ moves segments := by
  induction segments generalizing here with
  | nil =>
    obtain rfl : here = there := by simpa using hwalk
    exact (List.append_nil here).symm
  | cons segment rest ih =>
    have hrest : ['.', '.'] ∉ rest := fun hmem => hup (List.mem_cons_of_mem _ hmem)
    obtain ⟨next, hstep, hnext⟩ := (walk_cons_eq_found_iff h).mp hwalk
    have hthere := ih hrest hnext
    cases hstep with
    | stay hdirectory hstays =>
      rw [hthere, Path.moves_cons_of_stays hstays]
    | up hdirectory => exact absurd List.mem_cons_self hup
    | down hdirectory hmoves hdown hshort hentry =>
      rw [hthere, Path.moves_cons_of_moves hmoves, List.append_assoc, List.singleton_append]

/-! ## Paths behind a directory -/

/-- A path can be asked for if it is not empty, has no NUL character and is not too long. -/
theorem checkPath_eq_ok_iff : checkPath path = .ok () ↔
    '\x00' ∉ path.text.toList ∧ path.isEmpty = false ∧ Fits path := by
  rw [checkPath]
  by_cases hnul : '\x00' ∈ path.text.toList
  · simp [hnul]
  · cases hempty : path.isEmpty with
    | true => simp [hnul]
    | false => by_cases hfits : Fits path <;> simp [hnul, hfits]

/-- A path fits if one behind it does. -/
theorem Fits.of_join {base : Path} {rest : String} (h : Fits (base.join rest))
    (hrest : (Path.mk rest).isAbsolute = false) : Fits base := by
  obtain ⟨more, hmore⟩ : ∃ more, base.opening = base.text.toList ++ more := by
    rw [Path.opening]
    split
    · exact ⟨[], (List.append_nil _).symm⟩
    · exact ⟨['/'], rfl⟩
  have htext : (base.join rest).text = base.text ++ String.ofList (more ++ rest.toList) := by
    apply String.toList_injective
    rw [Path.toList_join hrest, hmore, String.toList_append, String.toList_ofList,
      List.append_assoc]
  rw [Fits, htext, String.utf8ByteSize_append] at h
  exact Nat.le_trans (Nat.le_add_right _ _) h

/-- Where a path behind the path of a directory leads is found from that directory. -/
theorem place_join (h : disk.HasNoLinks) {base : Path} {rest : String}
    (hbase : disk.locate base = .ok location)
    (hrest : (Path.mk rest).isAbsolute = false) :
    disk.place (base.join rest) = (checkPath (base.join rest)).bind fun _ =>
      disk.walk maxLinks location (Text.splitOn '/' rest.toList) := by
  obtain ⟨hcheck, hwalk⟩ := locate_eq_ok_iff.mp hbase
  have hempty := (checkPath_eq_ok_iff.mp hcheck).2.1
  obtain ⟨front, ending, hsegments, hending, hjoin⟩ := Path.segments_join hempty hrest
  have hfront : disk.walk maxLinks (disk.start base) front = .ok (.found location) := by
    rw [hsegments] at hwalk
    rcases hending with rfl | rfl
    · rwa [List.append_nil] at hwalk
    · -- an empty segment stays in the directory that the segments before it lead to
      obtain ⟨middle, hmiddle, hlast⟩ := (walk_append_eq_found_iff h).mp hwalk
      obtain ⟨next, hstep, hnext⟩ := (walk_cons_eq_found_iff h).mp hlast
      obtain rfl : next = location := by simpa using hnext
      cases hstep with
      | stay hdirectory hstays => exact hmiddle
      | down hdirectory hmoves hdown hshort hentry => cases hmoves
  have hstart : disk.start (base.join rest) = disk.start base := by
    rw [start, start, Path.isAbsolute_join hempty hrest]
  rw [place, hstart, hjoin]
  cases checkPath (base.join rest) with
  | error cause => rfl
  | ok checked => exact walk_append h hfront

/-- Where there are no links, a joined path leads from the location of its base along the segments
of the rest. -/
theorem locate_join_eq_ok_iff (h : disk.HasNoLinks) {base : Path} {rest : String}
    (hbase : disk.locate base = .ok location) (hrest : (Path.mk rest).isAbsolute = false) :
    disk.locate (base.join rest) = .ok there ↔
      checkPath (base.join rest) = .ok () ∧
        disk.walk maxLinks location (Text.splitOn '/' rest.toList) = .ok (.found there) := by
  rw [locate, place_join h hbase hrest]
  cases checkPath (base.join rest) with
  | error cause => simp [bind, Except.bind]
  | ok checked =>
    simp only [bind, Except.bind, true_and]
    cases disk.walk maxLinks location (Text.splitOn '/' rest.toList) with
    | error cause => simp
    | ok place => cases place <;> simp

/-- Two paths lead to one place. -/
def SamePlace (disk : Disk) (p q : Path) : Prop := disk.place p = disk.place q

/-- Two paths lead to one directory. -/
def SameDirectory (disk : Disk) (p q : Path) : Prop :=
  ∃ location, disk.hasDirectory location = true ∧ disk.locate p = .ok location ∧
    disk.locate q = .ok location

variable {p q : Path}

/-- Paths of the same place have the same location. -/
theorem SamePlace.locate (h : disk.SamePlace p q) : disk.locate p = disk.locate q := by
  rw [Disk.locate, Disk.locate, h]

/-- They have the same entry. -/
theorem SamePlace.entry (h : disk.SamePlace p q) : disk.entry? p = disk.entry? q := by
  unfold entry?
  rw [h.locate]

/-- Both are files or neither is. -/
theorem SamePlace.isFile (h : disk.SamePlace p q) : disk.isFile p = disk.isFile q := by
  rw [Disk.isFile, Disk.isFile, h.entry]

/-- Both are directories or neither is. -/
theorem SamePlace.isDirectory (h : disk.SamePlace p q) :
    disk.isDirectory p = disk.isDirectory q := by
  rw [Disk.isDirectory, Disk.isDirectory, h.entry]

/-- They have the same canonical path. -/
theorem SamePlace.canonical (h : disk.SamePlace p q) : disk.canonical p = disk.canonical q := by
  rw [Disk.canonical, Disk.canonical, h.locate]

/-- They have the same text. -/
theorem SamePlace.readText (h : disk.SamePlace p q) : disk.readText p = disk.readText q := by
  rw [Disk.readText, Disk.readText, readBytes, readBytes, h.locate]

/-- Paths to one place that is a directory lead to one directory. -/
theorem SamePlace.sameDirectory (h : disk.SamePlace p q) (hdirectory : disk.isDirectory p = true) :
    disk.SameDirectory p q := by
  obtain ⟨location, hlocate, hhas⟩ := isDirectory_iff.mp hdirectory
  exact ⟨location, hhas, hlocate, h.locate ▸ hlocate⟩

/-- A path behind another one that is short enough is only refused for what stands in it. -/
theorem checkPath_join_eq {base : Path} {rest : String} (hbase : checkPath base = .ok ())
    (hrest : (Path.mk rest).isAbsolute = false) (hfits : Fits (base.join rest)) :
    checkPath (base.join rest) =
      if '\x00' ∈ rest.toList then .error .nulInName else .ok () := by
  obtain ⟨hnul, hempty, -⟩ := checkPath_eq_ok_iff.mp hbase
  have hopening : '\x00' ∉ base.opening := by
    rw [Path.opening]
    split
    · exact hnul
    · simp [hnul]
  have hmem : '\x00' ∈ (base.join rest).text.toList ↔ '\x00' ∈ rest.toList := by
    rw [Path.toList_join hrest, List.mem_append, or_iff_right hopening]
  split
  · rename_i h
    rw [checkPath, if_pos (by simpa using hmem.mpr h)]
  · rename_i h
    exact checkPath_eq_ok_iff.mpr
      ⟨fun e => h (hmem.mp e), Path.isEmpty_join hempty hrest, hfits⟩

/-- What is refused behind one path is refused behind another one. -/
theorem checkPath_join {rest : String} (hp : checkPath p = .ok ()) (hq : checkPath q = .ok ())
    (hrest : (Path.mk rest).isAbsolute = false) (hfits : Fits (p.join rest))
    (hfits' : Fits (q.join rest)) : checkPath (p.join rest) = checkPath (q.join rest) := by
  rw [checkPath_join_eq hp hrest hfits, checkPath_join_eq hq hrest hfits']

/-- What lies behind paths to one directory lies at one place. -/
theorem SameDirectory.join (h : disk.HasNoLinks) (hsame : disk.SameDirectory p q) {rest : String}
    (hp : Fits (p.join rest)) (hq : Fits (q.join rest)) :
    disk.SamePlace (p.join rest) (q.join rest) := by
  cases hrest : (Path.mk rest).isAbsolute with
  | true => rw [Path.join_of_isAbsolute hrest, Path.join_of_isAbsolute hrest, SamePlace]
  | false =>
    obtain ⟨location, -, hlocate, hlocate'⟩ := hsame
    rw [SamePlace, place_join h hlocate hrest, place_join h hlocate' hrest,
      checkPath_join (locate_eq_ok_iff.mp hlocate).1 (locate_eq_ok_iff.mp hlocate').1 hrest hp hq]

end Disk

end NamedExports
