import NamedExports.Proofs.Disk

/-!
# Repeated slashes

An empty segment stays in the directory that it is looked up in, and what follows it is looked up in
the same directory.  So a slash behind a slash changes nothing about where a path leads:
`sameTarget_join_double`.
-/

namespace NamedExports.Disk

variable {disk : Disk} {base p q : Path} {location here there : Location} {links : Nat}
  {segment : List Char} {segments before after : List (List Char)} {front back : String}

/-- Two paths lead to one location, or both to none. -/
def SameTarget (disk : Disk) (p q : Path) : Prop :=
  ∀ location, disk.locate p = .ok location ↔ disk.locate q = .ok location

/-- Paths of the same place lead to the same target. -/
theorem SamePlace.sameTarget (h : disk.SamePlace p q) : disk.SameTarget p q :=
  fun location => by rw [h.locate]

/-- Paths with the same target are both files or neither is. -/
theorem SameTarget.isFile (h : disk.SameTarget p q) : disk.isFile p = disk.isFile q := by
  rw [Bool.eq_iff_iff, isFile_iff, isFile_iff]
  simp only [h _]

/-- They are both directories or neither is. -/
theorem SameTarget.isDirectory (h : disk.SameTarget p q) :
    disk.isDirectory p = disk.isDirectory q := by
  rw [Bool.eq_iff_iff, isDirectory_iff, isDirectory_iff]
  simp only [h _]

/-- Paths to one location have one canonical path. -/
theorem SameTarget.canonical (h : disk.SameTarget p q) {canonical : Path} :
    disk.canonical p = .ok canonical ↔ disk.canonical q = .ok canonical := by
  rw [canonical_eq_ok_iff, canonical_eq_ok_iff]
  simp only [h _]

/-- A directory that two paths lead to is one directory. -/
theorem SameTarget.sameDirectory (h : disk.SameTarget p q) (hdirectory : disk.isDirectory p = true) :
    disk.SameDirectory p q := by
  obtain ⟨location, hlocate, hhas⟩ := isDirectory_iff.mp hdirectory
  exact ⟨location, hhas, hlocate, (h location).mp hlocate⟩

/-- An empty segment before another segment changes nothing. -/
theorem walk_empty_cons_iff (h : disk.HasNoLinks) :
    disk.walk links here ([] :: segment :: segments) = .ok (.found there) ↔
      disk.walk links here (segment :: segments) = .ok (.found there) := by
  rw [walk_cons_eq_found_iff h]
  constructor
  · rintro ⟨next, hstep, hwalk⟩
    cases hstep with
    | stay hdirectory hstays => exact hwalk
    | down hdirectory hmoves hdown hshort hentry => cases hmoves
  · intro hwalk
    obtain ⟨next, hstep, -⟩ := (walk_cons_eq_found_iff h).mp hwalk
    exact ⟨here, .stay hstep.hasDirectory rfl, hwalk⟩

/-- An empty segment in front of another makes no difference to a walk. -/
theorem walk_append_empty_cons_iff (h : disk.HasNoLinks) :
    disk.walk links here (before ++ [] :: segment :: segments) = .ok (.found there) ↔
      disk.walk links here (before ++ segment :: segments) = .ok (.found there) := by
  rw [walk_append_eq_found_iff h, walk_append_eq_found_iff h]
  exact exists_congr fun middle => and_congr_right fun _ => walk_empty_cons_iff h

/-- A text is cut at a slash between two parts. -/
theorem splitOn_slash (front back : String) : Text.splitOn '/' (front ++ ("/" ++ back)).toList =
    Text.splitOn '/' front.toList ++ Text.splitOn '/' back.toList := by
  have htext : (front ++ ("/" ++ back)).toList = front.toList ++ '/' :: back.toList := by simp
  rw [htext, Text.splitOn_append_cons]

/-- Between two slashes there is an empty segment. -/
theorem splitOn_double (front back : String) : Text.splitOn '/' (front ++ ("//" ++ back)).toList =
    Text.splitOn '/' front.toList ++ [] :: Text.splitOn '/' back.toList := by
  have htext : (front ++ ("//" ++ back)).toList =
      front.toList ++ '/' :: ([] ++ '/' :: back.toList) := by
    simp
  rw [htext, Text.splitOn_append_cons, Text.splitOn_append_cons]
  rfl

/-- Behind a directory a doubled slash leads where one slash leads. -/
theorem sameTarget_join_double (h : disk.HasNoLinks) (hbase : disk.locate base = .ok location)
    (hfront : front ≠ "") (hrelative : (Path.mk front).isAbsolute = false)
    (hfits : Fits (base.join (front ++ ("//" ++ back))))
    (hfits' : Fits (base.join (front ++ ("/" ++ back)))) :
    disk.SameTarget (base.join (front ++ ("//" ++ back))) (base.join (front ++ ("/" ++ back))) := by
  have hdouble := (Path.isAbsolute_append_of_ne hfront ("//" ++ back)).trans hrelative
  have hsingle := (Path.isAbsolute_append_of_ne hfront ("/" ++ back)).trans hrelative
  have hcheck := (locate_eq_ok_iff.mp hbase).1
  have hsame : checkPath (base.join (front ++ ("//" ++ back))) =
      checkPath (base.join (front ++ ("/" ++ back))) := by
    rw [checkPath_join_eq hcheck hdouble hfits, checkPath_join_eq hcheck hsingle hfits']
    simp
  intro there
  rw [locate_join_eq_ok_iff h hbase hdouble, locate_join_eq_ok_iff h hbase hsingle, hsame,
    splitOn_double, splitOn_slash]
  obtain ⟨first, others, hback⟩ :=
    List.exists_cons_of_ne_nil (Text.splitOn_ne_nil '/' back.toList)
  rw [hback]
  exact and_congr_right fun _ => walk_append_empty_cons_iff h

end NamedExports.Disk
