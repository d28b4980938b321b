import Mathlib.Data.List.Forall2
import NamedExports.Proofs.Json.Forms
import NamedExports.Proofs.Json.Value

/-!
# The order of members

Two values are reordered if they differ only in the order in which members are written, at any
depth.  A function that looks at objects through their keys and the values under these cannot tell
such values apart.
-/

namespace NamedExports.Json.Value

section

variable {α : Type} {key : String} {value : α} {members others : List (String × α)}

theorem mem_of_lastMember? (h : lastMember? key members = some value) : (key, value) ∈ members := by
  obtain ⟨member, hfind, rfl⟩ := Option.map_eq_some_iff.mp h
  obtain rfl : member.1 = key := by simpa using List.find?_some hfind
  exact List.mem_reverse.mp (List.mem_of_find?_eq_some hfind)

/-- A key has a value exactly if some member has it. -/
theorem isSome_lastMember?_iff : (lastMember? key members).isSome ↔ key ∈ members.map Prod.fst := by
  rw [lastMember?, Option.isSome_map, List.find?_isSome, List.mem_map]
  exact exists_congr fun member => and_congr List.mem_reverse beq_iff_eq

/-- Where keys are different, the order of the members does not count. -/
theorem lastMember?_perm (hperm : members.Perm others) (hdistinct : (members.map Prod.fst).Nodup)
    (key : String) : lastMember? key members = lastMember? key others := by
  have hdistinct' : (others.map Prod.fst).Nodup := (hperm.map Prod.fst).nodup_iff.mp hdistinct
  cases hvalue : lastMember? key members with
  | some value =>
    exact (lastMember?_of_mem hdistinct' (hperm.mem_iff.mp (mem_of_lastMember? hvalue))).symm
  | none =>
    cases hother : lastMember? key others with
    | none => rfl
    | some value =>
      have hmem := hperm.mem_iff.mpr (mem_of_lastMember? hother)
      rw [lastMember?_of_mem hdistinct hmem] at hvalue
      cases hvalue

/-- What is there on both sides or on neither is related if what is there is. -/
theorem rel_of_isSome {found found' : Option α} {related : α → α → Prop}
    (hsome : found.isSome = found'.isSome)
    (h : ∀ value other, found = some value → found' = some other → related value other) :
    Option.Rel related found found' := by
  cases found with
  | none =>
    obtain rfl : found' = none := by simpa using hsome.symm
    exact .none
  | some value =>
    obtain ⟨other, rfl⟩ := Option.isSome_iff_exists.mp hsome.symm
    exact .some (h value other rfl rfl)

end

variable {value other : Value} {members others : List (String × Value)}

/-- What a member holds is smaller than the members together. -/
theorem sizeOf_lt_of_lastMember? {key : String} (h : lastMember? key members = some value) :
    sizeOf value < sizeOf members := by
  have hmember := List.sizeOf_lt_of_mem (mem_of_lastMember? h)
  rw [Prod.mk.sizeOf_spec] at hmember
  omega

/-- Two values that differ only in the order of members, and in members that a later one of the same
key takes the place of. -/
inductive Reordered : Value → Value → Prop where
  | refl (value : Value) : Reordered value value
  | array {items others : List Value} (length : items.length = others.length)
      (each : ∀ value other, (value, other) ∈ items.zip others → Reordered value other) :
      Reordered (.array items) (.array others)
  | object {members others : List (String × Value)}
      (keys : ∀ key, (lastMember? key members).isSome = (lastMember? key others).isSome)
      (each : ∀ key value other, lastMember? key members = some value →
        lastMember? key others = some other → Reordered value other) :
      Reordered (.object members) (.object others)

/-- Members with different keys can stand in any order. -/
theorem Reordered.of_perm (hperm : members.Perm others)
    (hdistinct : (members.map Prod.fst).Nodup) : Reordered (.object members) (.object others) := by
  have hsame := lastMember?_perm hperm hdistinct
  refine .object (fun key => congrArg Option.isSome (hsame key)) fun key value other h h' => ?_
  obtain rfl : value = other := Option.some.inj (by rw [← h, hsame, h'])
  exact .refl value

/-- Reordered objects have reordered values under the same keys. -/
theorem Reordered.rel_lastMember? (h : Reordered (.object members) (.object others))
    (key : String) : Option.Rel Reordered (lastMember? key members) (lastMember? key others) := by
  cases h with
  | refl =>
    cases lastMember? key members with
    | none => exact .none
    | some value => exact .some (.refl value)
  | object keys each => exact rel_of_isSome (keys key) (each key)

/-- Reordered objects have the same keys. -/
theorem Reordered.mem_keys_iff (h : Reordered (.object members) (.object others)) (key : String) :
    key ∈ members.map Prod.fst ↔ key ∈ others.map Prod.fst := by
  rw [← isSome_lastMember?_iff, ← isSome_lastMember?_iff]
  have hrel := h.rel_lastMember? key
  generalize lastMember? key members = value at hrel ⊢
  generalize lastMember? key others = other at hrel ⊢
  cases hrel <;> simp

/-- What does not tell reordered values apart finds the same in reordered objects. -/
theorem Reordered.bind_lastMember? {α : Type} {f : Value → Option α}
    (h : Reordered (.object members) (.object others))
    (hf : ∀ value other, Reordered value other → f value = f other) (key : String) :
    (lastMember? key members).bind f = (lastMember? key others).bind f := by
  have hrel := h.rel_lastMember? key
  generalize lastMember? key members = value at hrel ⊢
  generalize lastMember? key others = other at hrel ⊢
  cases hrel with
  | none => rfl
  | some hreordered => exact hf _ _ hreordered

end NamedExports.Json.Value
