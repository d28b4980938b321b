import NamedExports.Json.Value

/-!
# The keys of a JSON object

The keys of an object are collected by inserting one after the other, so a key is among them exactly
if some member has it.
-/

namespace NamedExports.Json.Value

theorem mem_insertKey_iff {key name : String} {keys : List String} :
    name ∈ insertKey key keys ↔ name = key ∨ name ∈ keys := by
  induction keys with
  | nil => simp [insertKey]
  | cons first rest ih =>
    unfold insertKey
    split
    · rw [List.mem_cons]
    · split
      · rename_i hkey
        rw [beq_iff_eq.mp hkey]
        simp
      · rw [List.mem_cons, ih, List.mem_cons, or_left_comm]

/-- The keys of an object are those of its members. -/
theorem mem_keys_object_iff {members : List (String × Value)} {name : String} :
    name ∈ (object members).keys ↔ name ∈ members.map Prod.fst := by
  have step (start : List String) :
      name ∈ members.foldl (fun keys member => insertKey member.1 keys) start ↔
        name ∈ start ∨ name ∈ members.map Prod.fst := by
    induction members generalizing start with
    | nil => simp
    | cons member rest ih =>
      rw [List.foldl_cons, ih, mem_insertKey_iff, List.map_cons, List.mem_cons, or_assoc,
        or_left_comm]
  rw [keys, step]
  simp

/-- Only objects have keys. -/
theorem exists_object_of_mem_keys {value : Value} {name : String} (h : name ∈ value.keys) :
    ∃ members, value = object members ∧ name ∈ members.map Prod.fst := by
  cases value with
  | object members => exact ⟨members, rfl, mem_keys_object_iff.mp h⟩
  | _ => simp [keys] at h

end NamedExports.Json.Value
