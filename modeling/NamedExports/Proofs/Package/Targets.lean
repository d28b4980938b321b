import NamedExports.Proofs.Json.Order
import NamedExports.Proofs.Package.Looks

/-!
# Targets of exports

A target is a tree of alternatives: texts under lists and conditions.  Read from left to right, and
under the conditions in the order in which they are configured, its leaves are one list of paths,
and the search through the tree is the search through that list: `target?_eq_first_leaf`.  The order
in which a manifest writes conditions does not count.
-/

namespace NamedExports.Package

open Json (Value)

variable {conditions : List String} {target other : Value}

/-! ## Leaves -/

/-- The paths that a target stands for, in order of precedence: the path of a text in the directory
of the package, the paths of each target of a list, and the paths of the target under each condition
that an object has. -/
def leafPaths (conditions : List String) (directory : Path) (wildcard : Option (List Char)) :
    Value → List Path
  | .string text => [directory.join (substituted wildcard text)]
  | .array items => items.attach.flatMap fun item =>
      leafPaths conditions directory wildcard item.1
  | .object members => conditions.flatMap fun condition =>
      match _found : Value.lastMember? condition members with
      | some target => leafPaths conditions directory wildcard target
      | none => []
  | _ => []
termination_by target => sizeOf target
decreasing_by
  · have := List.sizeOf_lt_of_mem item.2
    rw [Value.array.sizeOf_spec]
    omega
  · have := Value.sizeOf_lt_of_lastMember? _found
    rw [Value.object.sizeOf_spec]
    omega

theorem itemLeaves_eq_flatMap (items : List Value) :
    itemLeaves conditions items = items.flatMap (leaves conditions) := by
  induction items with
  | nil => rfl
  | cons first rest ih => rw [itemLeaves, List.flatMap_cons, ih]

theorem memberLeaves_eq_map (members : List (String × Value)) :
    memberLeaves conditions members =
      members.map fun member => (member.1, leaves conditions member.2) := by
  induction members with
  | nil => rfl
  | cons first rest ih => rw [memberLeaves, List.map_cons, ih]

theorem leaves_array (items : List Value) :
    leaves conditions (.array items) = items.flatMap (leaves conditions) := by
  rw [leaves, itemLeaves_eq_flatMap]

theorem leaves_object (members : List (String × Value)) :
    leaves conditions (.object members) = conditions.flatMap fun condition =>
      ((Value.lastMember? condition members).map (leaves conditions)).getD [] := by
  rw [leaves, memberLeaves_eq_map]
  simp only [lastMember?_map]

/-- The paths of a target are those of the texts that it stands for. -/
theorem leafPaths_eq_map (directory : Path) (wildcard : Option (List Char)) (target : Value) :
    leafPaths conditions directory wildcard target =
      (leaves conditions target).map fun text => directory.join (substituted wildcard text) := by
  fun_induction leafPaths conditions directory wildcard target with
  | case1 text => rfl
  | case2 items ih =>
    rw [leaves_array, List.map_flatMap]
    conv_rhs => rw [← List.attach_map_subtype_val items, List.flatMap_map]
    exact List.flatMap_congr fun item _ => ih item
  | case3 members ih =>
    rw [leaves_object, List.map_flatMap]
    refine List.flatMap_congr fun condition _ => ?_
    split
    · rename_i target found
      rw [ih condition target found, found]
      rfl
    · rename_i found
      rw [found]
      rfl
  | case4 target hstring harray hobject =>
    cases target with
    | string text => exact absurd rfl (hstring text)
    | array items => exact absurd rfl (harray items)
    | object members => exact absurd rfl (hobject members)
    | null => rfl
    | bool value => rfl
    | number value => rfl

/-! ## Reordered targets -/

/-- Reordered targets stand for the same texts. -/
theorem leaves_reordered (h : target.Reordered other) :
    leaves conditions target = leaves conditions other := by
  induction h with
  | refl value => rfl
  | @array items others hlength _ ih =>
    have hleaves : items.map (leaves conditions) = others.map (leaves conditions) := by
      rw [← List.forall₂_eq_eq_eq, List.forall₂_map_left_iff, List.forall₂_map_right_iff]
      exact List.forall₂_iff_zip.mpr ⟨hlength, ih _ _⟩
    rw [leaves_array, leaves_array, List.flatMap_def, List.flatMap_def, hleaves]
  | @object members others hkeys _ ih =>
    rw [leaves_object, leaves_object]
    refine List.flatMap_congr fun condition _ => ?_
    have hrel := Value.rel_of_isSome (hkeys condition) (ih condition)
    generalize Value.lastMember? condition members = value at hrel ⊢
    generalize Value.lastMember? condition others = other at hrel ⊢
    cases hrel with
    | none => rfl
    | some hleaves => rw [Option.map_some, Option.map_some, hleaves]

/-- Reordered targets lead to the same file. -/
theorem Lookup.target?_reordered (lookup : Lookup) (wildcard : Option (List Char))
    (h : target.Reordered other) : lookup.target? wildcard target = lookup.target? wildcard other := by
  rw [target?_eq_firstFile?, target?_eq_firstFile?, leaves_reordered h]

/-! ## The file of a target -/

/-- A target leads to the first of its leaves that is a file, and to nothing if none is, in whatever
order its members are written. -/
theorem target?_eq_first_leaf (disk : Disk) (conditions : List String) (directory : Path)
    (wildcard : Option (List Char)) (target : Value) :
    Lookup.target? ⟨disk.isFile, conditions, directory⟩ wildcard target =
        (leafPaths conditions directory wildcard target).find? disk.isFile ∧
      ∀ other, target.Reordered other →
        Lookup.target? ⟨disk.isFile, conditions, directory⟩ wildcard other =
          Lookup.target? ⟨disk.isFile, conditions, directory⟩ wildcard target := by
  refine ⟨?_, fun other h => (Lookup.target?_reordered _ wildcard h).symm⟩
  rw [Lookup.target?_eq_firstFile?, leafPaths_eq_map]
  rfl

/-- A package with one file. -/
def oneFileDisk : Disk where
  entries := [(["pkg".toList], .directory), (["pkg".toList, "lib".toList], .directory),
    (["pkg".toList, "lib".toList, "b.js".toList], .file [] false)]
  workingDirectory := []

/-- Alternatives of which the first ones lead nowhere, the text under `import` is not looked at, and
the file is found two conditions deep. -/
def alternatives : Value :=
  .array [.object [("node", .string "./node/*.js"), ("default", .null)],
    .object [("import", .string "./lib/*.js"),
      ("default", .object [("require", .string "./lib/*.js")])],
    .string "./index.js"]

/-- The same alternatives, with the members of both objects the other way round. -/
def swappedAlternatives : Value :=
  .array [.object [("default", .null), ("node", .string "./node/*.js")],
    .object [("default", .object [("require", .string "./lib/*.js")]),
      ("import", .string "./lib/*.js")],
    .string "./index.js"]

/-- Alternatives that lead nowhere are passed over, at each depth and in either order. -/
theorem target?_alternatives :
    alternatives.Reordered swappedAlternatives ∧
      leafPaths ["node", "require", "default"] "/pkg" (some ['b']) alternatives =
        ["/pkg/./node/b.js", "/pkg/./lib/b.js", "/pkg/./index.js"] ∧
      Lookup.target? ⟨oneFileDisk.isFile, ["node", "require", "default"], "/pkg"⟩ (some ['b'])
        alternatives = some "/pkg/./lib/b.js" ∧
      Lookup.target? ⟨oneFileDisk.isFile, ["node", "require", "default"], "/pkg"⟩ (some ['b'])
        swappedAlternatives = some "/pkg/./lib/b.js" := by
  have hreordered : alternatives.Reordered swappedAlternatives := by
    refine .array rfl fun value other h => ?_
    simp only [List.zip_cons_cons, List.zip_nil_left, List.mem_cons, List.not_mem_nil, or_false,
      Prod.mk.injEq] at h
    rcases h with ⟨rfl, rfl⟩ | ⟨rfl, rfl⟩ | ⟨rfl, rfl⟩
    · exact .of_perm (List.Perm.swap _ _ _) (by decide)
    · exact .of_perm (List.Perm.swap _ _ _) (by decide)
    · exact .refl _
  have hleaves : leafPaths ["node", "require", "default"] "/pkg" (some ['b']) alternatives =
      ["/pkg/./node/b.js", "/pkg/./lib/b.js", "/pkg/./index.js"] := by
    rw [leafPaths_eq_map]
    decide +kernel
  obtain ⟨hfirst, hother⟩ :=
    target?_eq_first_leaf oneFileDisk ["node", "require", "default"] "/pkg" (some ['b']) alternatives
  have hfound : Lookup.target? ⟨oneFileDisk.isFile, ["node", "require", "default"], "/pkg"⟩
      (some ['b']) alternatives = some "/pkg/./lib/b.js" := by
    rw [hfirst, hleaves]
    decide +kernel
  exact ⟨hreordered, hleaves, hfound, (hother _ hreordered).trans hfound⟩

end NamedExports.Package
