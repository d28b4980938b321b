import NamedExports.Proofs.Disk.Canonical

/-!
# File trees

In a file tree every entry stands in a directory, so the names of a location that is no link lead
down to it from the root, past no link: `IsTree.walk_location`.  So the canonical path of what is
found leads there again, whatever links were followed to find it: `IsTree.locate_pathOf`.
-/

namespace NamedExports.Disk

open NamedExports.Path (staysHere)

variable {disk : Disk} {location here front back : Location} {entry : Entry} {name : List Char}
  {rest : List (List Char)} {links : Nat}

instance (name : List Char) : Decidable (IsName name) :=
  inferInstanceAs (Decidable ((_ ∧ _) ∧ _ ∧ _))

/-- What a file system holds: every entry has a name that a path can hold, of no more bytes than a
name may have, and stands in a directory. -/
structure IsTree (disk : Disk) : Prop where
  isName : ∀ entry ∈ disk.entries, ∀ name ∈ entry.1, IsName name
  isShort : ∀ entry ∈ disk.entries, ∀ name ∈ entry.1,
    (Text.Utf8.encode name).length ≤ maxName
  inDirectory : ∀ entry ∈ disk.entries, disk.hasDirectory entry.1.dropLast = true

/-- What is found somewhere is the root or one of the entries. -/
theorem eq_nil_or_mem_of_lookup? (h : disk.lookup? location = some entry) :
    location = [] ∨ (location, entry) ∈ disk.entries := by
  rw [lookup?] at h
  split at h
  · rename_i hroot
    exact Or.inl (List.isEmpty_iff.mp hroot)
  · obtain ⟨found, hfind, rfl⟩ := Option.map_eq_some_iff.mp h
    have hlocation : found.1 = location := by simpa using List.find?_some hfind
    exact Or.inr (hlocation ▸ List.mem_of_find?_eq_some hfind)

/-- A directory that is walked from leads to an entry by its name. -/
theorem walk_cons_of_lookup? (hdirectory : disk.hasDirectory here = true) (hname : IsName name)
    (hshort : (Text.Utf8.encode name).length ≤ maxName)
    (hentry : disk.lookup? (here ++ [name]) = some entry) (hlink : ∀ target, entry ≠ .link target) :
    disk.walk links here (name :: rest) = disk.walk links (here ++ [name]) rest := by
  obtain ⟨-, hmoves, hdown⟩ := hname
  have hmoves : (name.isEmpty || name == ['.']) = false := hmoves
  have hdown : (name == ['.', '.']) = false := beq_eq_false_iff_ne.mpr hdown
  have hshort : ¬ (Text.Utf8.encode name).length > maxName := Nat.not_lt_of_le hshort
  have hstep (onLink : Location → List (List Char) → Except IoError Place) :
      walkWith onLink disk here (name :: rest) = walkWith onLink disk (here ++ [name]) rest := by
    rw [walkWith, hdirectory, hmoves, hdown, if_neg hshort, hentry]
    cases entry with
    | link target => exact absurd rfl (hlink target)
    | file content executable => rfl
    | directory => rfl
  cases links <;> exact hstep _

namespace IsTree

variable (tree : disk.IsTree)

include tree

/-- What lies above an entry is a directory. -/
theorem hasDirectory_of_append (hback : back ≠ [])
    (h : disk.lookup? (front ++ back) = some entry) : disk.hasDirectory front = true := by
  induction back using List.reverseRecOn generalizing entry with
  | nil => exact absurd rfl hback
  | append_singleton init last ih =>
    have hparent : disk.hasDirectory (front ++ init) = true := by
      rcases eq_nil_or_mem_of_lookup? h with hroot | hmem
      · simp at hroot
      · have hdirectory := tree.inDirectory _ hmem
        rwa [← List.append_assoc, List.dropLast_concat] at hdirectory
    cases init with
    | nil => rwa [List.append_nil] at hparent
    | cons first others => exact ih (List.cons_ne_nil _ _) (beq_iff_eq.mp hparent)

/-- No entry lies behind a link, so there is none on the way to what is no link. -/
theorem not_link_of_prefix (h : disk.lookup? location = some entry)
    (hlink : ∀ target, entry ≠ .link target) (hfront : front <+: location) (target : Path) :
    disk.lookup? front ≠ some (.link target) := by
  obtain ⟨back, rfl⟩ := hfront
  intro hfound
  cases back with
  | nil =>
    rw [List.append_nil, hfound] at h
    exact hlink target (Option.some.inj h).symm
  | cons first others =>
    have hdirectory := tree.hasDirectory_of_append (List.cons_ne_nil first others) h
    rw [hasDirectory, hfound] at hdirectory
    cases hdirectory

/-- The names of what is found are names. -/
theorem isName_of_lookup? (h : disk.lookup? location = some entry) :
    ∀ name ∈ location, IsName name ∧ (Text.Utf8.encode name).length ≤ maxName := by
  intro name hname
  rcases eq_nil_or_mem_of_lookup? h with rfl | hmem
  · cases hname
  · exact ⟨tree.isName _ hmem name hname, tree.isShort _ hmem name hname⟩

/-- The names of an entry that is no link lead down to it. -/
theorem walk_location (h : disk.lookup? (here ++ rest) = some entry)
    (hlink : ∀ target, entry ≠ .link target) :
    disk.walk links here rest = .ok (.found (here ++ rest)) := by
  induction rest generalizing here with
  | nil => rw [walk_nil, List.append_nil]
  | cons name others ih =>
    obtain ⟨hname, hshort⟩ := tree.isName_of_lookup? h name (by simp)
    have hsplit : here ++ name :: others = (here ++ [name]) ++ others := by simp
    rw [hsplit] at h ⊢
    obtain ⟨next, hnext⟩ : ∃ next, disk.lookup? (here ++ [name]) = some next := by
      cases others with
      | nil => exact ⟨entry, by simpa using h⟩
      | cons second more =>
        have hdirectory := tree.hasDirectory_of_append (List.cons_ne_nil second more) h
        exact ⟨.directory, beq_iff_eq.mp hdirectory⟩
    have hdirectory : disk.hasDirectory here = true :=
      tree.hasDirectory_of_append (List.cons_ne_nil name []) hnext
    rw [walk_cons_of_lookup? hdirectory hname hshort hnext fun target hnextlink =>
      tree.not_link_of_prefix h hlink (List.prefix_append _ _) target (hnextlink ▸ hnext), ih h]

/-- The path of an entry that is no link leads to it, if it is not too long. -/
theorem locate_pathOf (h : disk.lookup? location = some entry)
    (hlink : ∀ target, entry ≠ .link target) (hfits : Fits (pathOf location)) :
    disk.locate (pathOf location) = .ok location := by
  have hwalk : disk.walk maxLinks [] location = .ok (.found ([] ++ location)) :=
    tree.walk_location h hlink
  exact locate_ofSegments (fun name hname => (tree.isName_of_lookup? h name hname).1.1) hfits hwalk

end IsTree

end NamedExports.Disk
