import Mathlib.Data.List.Forall2
import NamedExports.Proofs.Disk

/-!
# Canonical paths

A walk from a location that its own names lead to ends at such a location, so the canonical path of
what it finds leads there: `locate_pathOf`.  The ancestors of an absolute path that never goes up
lead to its directory and to those above it, up to the root, so two such paths to one directory have
ancestors alike: `forall₂_ancestors`.
-/

namespace NamedExports.Disk

open NamedExports.Path (staysHere moves)

variable {disk : Disk} {path ancestor : Path} {here there location : Location}
  {segment name : List Char} {segments : List (List Char)}

/-! ## Locations and their names -/

/-- A text that a path can hold between two slashes. -/
def IsSpelled (segment : List Char) : Prop := '/' ∉ segment ∧ '\x00' ∉ segment

/-- A text that a path can hold as the name of an entry. -/
def IsName (name : List Char) : Prop :=
  IsSpelled name ∧ staysHere name = false ∧ name ≠ ['.', '.']

/-- A location that is reached by its own names. -/
structure Reachable (disk : Disk) (location : Location) : Prop where
  isName : ∀ name ∈ location, IsName name
  found : disk.walk maxLinks [] location = .ok (.found location)

/-- Names lead down and nowhere else. -/
theorem moves_of_isName (h : ∀ name ∈ segments, IsName name) : moves segments = segments :=
  Path.moves_eq_self fun name hname => (h name hname).2.1

theorem up_not_mem_of_isName (h : ∀ name ∈ segments, IsName name) : ['.', '.'] ∉ segments :=
  fun hup => (h _ hup).2.2 rfl

theorem reachable_root : disk.Reachable [] where
  isName _ h := by cases h
  found := walk_nil

/-- What lies above a location that is reached by its names is reached by its names. -/
theorem Reachable.dropLast (h : disk.HasNoLinks) (hhere : disk.Reachable here) :
    disk.Reachable here.dropLast := by
  have hnames : ∀ name ∈ here.dropLast, IsName name :=
    fun name hname => hhere.isName name (List.dropLast_subset here hname)
  refine ⟨hnames, ?_⟩
  cases here with
  | nil => exact walk_nil
  | cons first rest =>
    have hfound := hhere.found
    rw [← List.dropLast_append_getLast (List.cons_ne_nil first rest)] at hfound
    obtain ⟨middle, hmiddle, -⟩ := (walk_append_eq_found_iff h).mp hfound
    have hwhere := eq_append_of_walk h (up_not_mem_of_isName hnames) hmiddle
    rw [moves_of_isName hnames, List.nil_append] at hwhere
    rw [hmiddle, hwhere]

/-- A step from a location that is reached by its names leads to one. -/
theorem Reachable.step (h : disk.HasNoLinks) (hhere : disk.Reachable here)
    (hsegment : IsSpelled segment) (hstep : disk.Step here segment there) :
    disk.Reachable there := by
  cases hstep with
  | stay hdirectory hstays => exact hhere
  | up hdirectory => exact hhere.dropLast h
  | down hdirectory hmoves hdown hshort hentry =>
    refine ⟨?_, ?_⟩
    · intro name hname
      rcases List.mem_append.mp hname with hname | hname
      · exact hhere.isName name hname
      · obtain rfl := List.mem_singleton.mp hname
        exact ⟨hsegment, hmoves, hdown⟩
    · rw [walk_append h hhere.found]
      exact (walk_cons_eq_found_iff h).mpr
        ⟨_, .down hdirectory hmoves hdown hshort hentry, walk_nil⟩

/-- A walk from a location that is reached by its names leads to one. -/
theorem Reachable.walk (h : disk.HasNoLinks) (hhere : disk.Reachable here)
    (hsegments : ∀ segment ∈ segments, IsSpelled segment)
    (hwalk : disk.walk maxLinks here segments = .ok (.found there)) : disk.Reachable there := by
  induction segments generalizing here with
  | nil =>
    obtain rfl : here = there := by simpa using hwalk
    exact hhere
  | cons segment rest ih =>
    obtain ⟨hsegment, hrest⟩ := List.forall_mem_cons.mp hsegments
    obtain ⟨next, hstep, hnext⟩ := (walk_cons_eq_found_iff h).mp hwalk
    exact ih (hhere.step h hsegment hstep) hrest hnext

/-- The segments of a path that is not refused can be spelled. -/
theorem isSpelled_of_mem_segments (hcheck : checkPath path = .ok ())
    (hsegment : segment ∈ path.segments) : IsSpelled segment :=
  ⟨Path.not_mem_of_mem_segments hsegment,
    fun hnul => (checkPath_eq_ok_iff.mp hcheck).1 (Path.mem_of_mem_segments hsegment hnul)⟩

/-- What is put behind a path can be spelled if the whole is not refused. -/
theorem isSpelled_of_mem_rest {base : Path} {rest : String}
    (hcheck : checkPath (base.join rest) = .ok ()) (hrest : (Path.mk rest).isAbsolute = false)
    (hsegment : segment ∈ Text.splitOn '/' rest.toList) : IsSpelled segment := by
  refine ⟨Text.not_mem_of_mem_splitOn hsegment, fun hnul => ?_⟩
  refine (checkPath_eq_ok_iff.mp hcheck).1 ?_
  rw [Path.toList_join hrest]
  exact List.mem_append_right _ (Text.mem_of_mem_splitOn hsegment hnul)

/-- A path leads to a location that is reached by its names, if the working directory is one. -/
theorem reachable_of_locate (h : disk.HasNoLinks) (hlocate : disk.locate path = .ok location)
    (hstart : path.isAbsolute = true ∨ disk.Reachable disk.workingDirectory) :
    disk.Reachable location := by
  obtain ⟨hcheck, hwalk⟩ := locate_eq_ok_iff.mp hlocate
  have hstart : disk.Reachable (disk.start path) := by
    rw [start]
    split
    · exact reachable_root
    · rename_i hrelative
      exact hstart.resolve_left hrelative
  exact hstart.walk h (fun segment => isSpelled_of_mem_segments hcheck) hwalk

/-! ## Paths of locations -/

/-- An absolute path leads where its segments lead, if it is not too long. -/
theorem locate_ofSegments (h : ∀ segment ∈ segments, IsSpelled segment)
    (hfits : Fits (Path.ofSegments true segments))
    (hwalk : disk.walk maxLinks [] segments = .ok (.found location)) :
    disk.locate (Path.ofSegments true segments) = .ok location := by
  have hcheck : checkPath (Path.ofSegments true segments) = .ok () := by
    refine checkPath_eq_ok_iff.mpr ⟨fun hnul => ?_, ?_, hfits⟩
    · rcases Path.mem_ofSegments hnul with hslash | ⟨segment, hsegment, hnul⟩
      · cases hslash
      · exact (h segment hsegment).2 hnul
    · rw [← Bool.not_eq_true, Path.isEmpty_iff, Path.ofSegments, if_pos rfl,
        String.toList_ofList]
      exact List.cons_ne_nil _ _
  refine locate_eq_ok_iff.mpr ⟨hcheck, ?_⟩
  rw [start, Path.isAbsolute_ofSegments, if_pos rfl]
  cases segments with
  | nil =>
    rw [← hwalk, walk_nil]
    rfl
  | cons first rest =>
    rw [Path.segments_ofSegments (List.cons_ne_nil _ _) fun segment hsegment =>
      (h segment hsegment).1]
    exact hwalk

/-- The path of a location that is reached by its names leads there, if it is not too long. -/
theorem locate_pathOf (hlocation : disk.Reachable location) (hfits : Fits (pathOf location)) :
    disk.locate (pathOf location) = .ok location :=
  locate_ofSegments (fun name hname => (hlocation.isName name hname).1) hfits hlocation.found

/-- The path of a location never goes up. -/
theorem up_not_mem_segments_pathOf (h : ∀ name ∈ location, IsName name) :
    ['.', '.'] ∉ (pathOf location).segments := by
  cases location with
  | nil => decide
  | cons first rest =>
    rw [pathOf,
      Path.segments_ofSegments (List.cons_ne_nil _ _) fun name hname => (h name hname).1.1]
    exact up_not_mem_of_isName h

/-! ## Ancestors -/

/-- What lies on the way to a directory is a directory. -/
theorem hasDirectory_of_walk (h : disk.HasNoLinks)
    (hwalk : disk.walk maxLinks here segments = .ok (.found there))
    (hthere : disk.hasDirectory there = true) : disk.hasDirectory here = true := by
  cases segments with
  | nil =>
    obtain rfl : here = there := by simpa using hwalk
    exact hthere
  | cons segment rest =>
    obtain ⟨next, hstep, -⟩ := (walk_cons_eq_found_iff h).mp hwalk
    exact hstep.hasDirectory

/-- Above a location that is reached by its names there are directories. -/
theorem Reachable.hasDirectory_dropLast (h : disk.HasNoLinks) (hhere : disk.Reachable here)
    (hdirectory : disk.hasDirectory here = true) : disk.hasDirectory here.dropLast = true := by
  cases here with
  | nil => rfl
  | cons first rest =>
    have hfound := hhere.found
    rw [← List.dropLast_append_getLast (List.cons_ne_nil first rest),
      walk_append h (hhere.dropLast h).found] at hfound
    exact hasDirectory_of_walk h hfound (by
      rwa [List.dropLast_append_getLast (List.cons_ne_nil first rest)])

section

variable (h : disk.HasNoLinks) (habsolute : path.isAbsolute = true)
  (hup : ['.', '.'] ∉ path.segments)

include habsolute hup

/-- The ancestors of an absolute path that never goes up never go up. -/
theorem up_not_mem_of_mem_ancestors (hancestor : ancestor ∈ path.ancestors) :
    ['.', '.'] ∉ ancestor.segments := by
  rcases Path.eq_or_prefix_of_mem_ancestors habsolute hancestor with rfl | ⟨front, hfront, rfl⟩
  · exact hup
  · cases front with
    | nil => decide
    | cons first rest =>
      rw [Path.segments_ofSegments (List.cons_ne_nil _ _) fun segment hsegment =>
        Path.not_mem_of_mem_segments (hfront.subset hsegment)]
      exact fun hmem => hup (hfront.subset hmem)

include h

/-- The ancestors of an absolute path that never goes up lead to the directories on its way. -/
theorem locate_ancestor (hlocate : disk.locate path = .ok location)
    (hdirectory : disk.hasDirectory location = true) (hancestor : ancestor ∈ path.ancestors)
    (hfits : Fits ancestor) :
    disk.locate ancestor = .ok (moves ancestor.segments) ∧
      disk.hasDirectory (moves ancestor.segments) = true := by
  obtain ⟨hcheck, hwalk⟩ := locate_eq_ok_iff.mp hlocate
  rw [start, if_pos habsolute] at hwalk
  rcases Path.eq_or_prefix_of_mem_ancestors habsolute hancestor with rfl | ⟨front, hfront, rfl⟩
  · have hwhere : location = moves ancestor.segments := by
      simpa using eq_append_of_walk h hup hwalk
    rw [← hwhere]
    exact ⟨hlocate, hdirectory⟩
  · obtain ⟨back, hback⟩ := hfront
    have hspelled : ∀ segment ∈ front, IsSpelled segment := fun segment hsegment =>
      isSpelled_of_mem_segments hcheck (hback ▸ List.mem_append_left back hsegment)
    rw [← hback] at hwalk hup
    obtain ⟨middle, hmiddle, hrest⟩ := (walk_append_eq_found_iff h).mp hwalk
    have hwhere : middle = moves front := by
      simpa using eq_append_of_walk h (fun hmem => hup (List.mem_append_left back hmem)) hmiddle
    rw [Path.moves_segments_ofSegments fun segment hsegment => (hspelled segment hsegment).1,
      ← hwhere]
    exact ⟨locate_ofSegments hspelled hfits hmiddle, hasDirectory_of_walk h hrest hdirectory⟩

end

theorem forall₂_of_forall_mem {α β : Type} {P : α → Prop} {Q : β → Prop} {R : α → β → Prop}
    {all : List α} {others : List β} (h : List.Forall₂ (fun a b => P a → Q b → R a b) all others)
    (hall : ∀ a ∈ all, P a) (hothers : ∀ b ∈ others, Q b) : List.Forall₂ R all others := by
  induction h with
  | nil => exact .nil
  | cons hfirst hrest ih =>
    rw [List.forall_mem_cons] at hall hothers
    exact .cons (hfirst hall.1 hothers.1) (ih hall.2 hothers.2)

/-- Two absolute paths to one directory that never go up have ancestors of the same names in the
same directories. -/
theorem forall₂_ancestors (h : disk.HasNoLinks) {p q : Path} (hsame : disk.SameDirectory p q)
    (hp : p.isAbsolute = true ∧ ['.', '.'] ∉ p.segments)
    (hq : q.isAbsolute = true ∧ ['.', '.'] ∉ q.segments) :
    List.Forall₂ (fun a b => a.fileName? = b.fileName? ∧
      (Fits a → Fits b → disk.SameDirectory a b)) p.ancestors q.ancestors := by
  obtain ⟨location, hdirectory, hlocate, hlocate'⟩ := hsame
  have hmoves {path : Path} (hpath : path.isAbsolute = true ∧ ['.', '.'] ∉ path.segments)
      (hfound : disk.locate path = .ok location) : moves path.segments = location := by
    have hwalk := (locate_eq_ok_iff.mp hfound).2
    rw [start, if_pos hpath.1] at hwalk
    simpa using (eq_append_of_walk h hpath.2 hwalk).symm
  have hancestors : p.ancestors.map (fun ancestor => moves ancestor.segments) =
      q.ancestors.map fun ancestor => moves ancestor.segments := by
    rw [Path.map_moves_ancestors hp.1, Path.map_moves_ancestors hq.1, hmoves hp hlocate,
      hmoves hq hlocate']
  rw [← List.forall₂_eq_eq_eq, List.forall₂_map_left_iff, List.forall₂_map_right_iff]
    at hancestors
  refine forall₂_of_forall_mem (hancestors.imp fun a b hab ha hb => ?_) (fun _ ha => ha)
    (fun _ hb => hb)
  refine ⟨?_, fun hfits hfits' => ?_⟩
  · rw [Path.fileName?_eq_getLast? (Path.isAbsolute_of_mem_ancestors hp.1 ha)
        (up_not_mem_of_mem_ancestors hp.1 hp.2 ha),
      Path.fileName?_eq_getLast? (Path.isAbsolute_of_mem_ancestors hq.1 hb)
        (up_not_mem_of_mem_ancestors hq.1 hq.2 hb), hab]
  · obtain ⟨hwhere, hhas⟩ := locate_ancestor h hp.1 hp.2 hlocate hdirectory ha hfits
    obtain ⟨hwhere', -⟩ := locate_ancestor h hq.1 hq.2 hlocate' hdirectory hb hfits'
    exact ⟨_, hhas, hwhere, hab ▸ hwhere'⟩

end NamedExports.Disk
