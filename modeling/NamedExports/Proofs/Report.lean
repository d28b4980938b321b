import NamedExports.Proofs.Json.Forms
import NamedExports.Report

/-!
# JSON reports lose nothing

A report is JSON in either layout, both layouts hold the same value, and the entries can be recovered
from it, so different batches have different reports.
-/

namespace NamedExports

open Json (Form Layout Spelling Value)

/-! ## Values without numbers -/

/-- The values of a request's fields are texts. -/
theorem Request.exists_string_of_mem_toValues {request : Request} {value : Value}
    (h : value ∈ Request.form.toValues request) : ∃ text, value = .string text := by
  simp only [Request.form, List.mem_cons, List.not_mem_nil, or_false] at h
  obtain rfl | rfl | rfl := h <;> exact ⟨_, rfl⟩

/-- An export list is written as its names. -/
theorem ExportList.eq_ofTexts_of_mem_toValues {list : ExportList} {value : Value}
    (h : value ∈ ExportList.form.toValues list) : value = Json.ofTexts list.exports :=
  List.mem_singleton.mp h

namespace Report

/-- However a request ended, its member is well-formed. -/
theorem isWellFormed_outcomeMember (outcome : BatchOutcome) :
    (outcomeMember outcome).2.IsWellFormed := by
  cases outcome with
  | resolved list =>
    refine Form.isWellFormed_value fun value hvalue => ?_
    rw [ExportList.eq_ofTexts_of_mem_toValues hvalue]
    exact Json.isWellFormed_ofTexts list.exports
  | failed message => exact .string message

/-- So is its entry. -/
theorem isWellFormed_entryValue (entry : BatchEntry) : (entryValue entry).IsWellFormed := by
  refine .object fun member hmember => ?_
  simp only [List.mem_cons, List.not_mem_nil, or_false] at hmember
  obtain rfl | rfl := hmember
  · refine Form.isWellFormed_value fun value hvalue => ?_
    obtain ⟨text, rfl⟩ := Request.exists_string_of_mem_toValues hvalue
    exact .string text
  · exact isWellFormed_outcomeMember entry.outcome

/-- So is a whole report. -/
theorem isWellFormed_value (entries : List BatchEntry) : (value entries).IsWellFormed := by
  refine .array fun item hitem => ?_
  obtain ⟨entry, -, rfl⟩ := List.mem_map.mp hitem
  exact isWellFormed_entryValue entry

/-- How a request ended is at most two levels deep. -/
theorem fitsIn_outcomeMember (depth : Nat) (outcome : BatchOutcome) :
    (outcomeMember outcome).2.FitsIn (depth + 2) := by
  cases outcome with
  | resolved list =>
    refine Form.fitsIn_value fun value hvalue => ?_
    rw [ExportList.eq_ofTexts_of_mem_toValues hvalue]
    exact Json.fitsIn_ofTexts depth list.exports
  | failed message => trivial

/-- An entry is at most three levels deep. -/
theorem fitsIn_entryValue (depth : Nat) (entry : BatchEntry) :
    (entryValue entry).FitsIn (depth + 3) := by
  intro member hmember
  simp only [List.mem_cons, List.not_mem_nil, or_false] at hmember
  obtain rfl | rfl := hmember
  · refine Form.fitsIn_value fun value hvalue => ?_
    obtain ⟨text, rfl⟩ := Request.exists_string_of_mem_toValues hvalue
    trivial
  · exact fitsIn_outcomeMember depth entry.outcome

/-- A report is at most four levels deep, less than what a reader allows. -/
theorem fitsIn_value (depth : Nat) (entries : List BatchEntry) :
    (value entries).FitsIn (depth + 4) := by
  intro item hitem
  obtain ⟨entry, -, rfl⟩ := List.mem_map.mp hitem
  exact fitsIn_entryValue depth entry

/-! ## Entries recovered -/

/-- The entry that an object tells: its request, and either a list of names or a message. -/
def entryOf? (object : Value) : Option BatchEntry := do
  let request ← Request.form.ofObject (← object.member? "request")
  match object.member? "resolved", object.member? "failed" with
  | some list, none => return ⟨request, .resolved (← ExportList.form.ofObject list)⟩
  | none, some (.string message) => return ⟨request, .failed message⟩
  | _, _ => none

/-- The entries that an array tells. -/
def entriesOf? : Value → Option (List BatchEntry)
  | .array items => items.mapM entryOf?
  | _ => none

/-- An entry is recovered from its value. -/
theorem entryOf?_entryValue (entry : BatchEntry) : entryOf? (entryValue entry) = some entry := by
  obtain ⟨request, outcome⟩ := entry
  have hrequest := Request.form_lawful.ofObject_value request
  cases outcome with
  | resolved list =>
    have hlist := ExportList.form_lawful.ofObject_value list
    simp [entryOf?, entryValue, outcomeMember, Value.member?, Value.lastMember?, hrequest, hlist]
  | failed message =>
    simp [entryOf?, entryValue, outcomeMember, Value.member?, Value.lastMember?, hrequest]

/-- The entries are recovered from the report. -/
theorem entriesOf?_value (entries : List BatchEntry) : entriesOf? (value entries) = some entries :=
  Json.mapM_eq_pure (List.forall₂_map_left_iff.mpr
    (List.forall₂_same.mpr fun entry _ => entryOf?_entryValue entry))

/-! ## Texts -/

/-- What is printed spells the report. -/
theorem spelling_print (layout : Layout) (entries : List BatchEntry) :
    Spelling (value entries) (Json.print layout (value entries)).toList := by
  rw [Json.print, String.toList_ofList]
  exact Json.spelling_printAt layout (isWellFormed_value entries) 0

/-- Any reader of the format reads the report back. -/
theorem read_json (layout : Layout) (entries : List BatchEntry) :
    Json.read (json layout entries) = .ok (value entries) := by
  have hnewline : Json.IsBlank ['\n'] := fun c hc => .inr (.inr (.inl (List.mem_singleton.mp hc)))
  have hread := Json.read_ofList .nil (spelling_print layout entries) hnewline
    (fitsIn_value 123 entries)
  rwa [List.nil_append, String.ofList_append, String.ofList_toList] at hread

/-- In both layouts a report is a text of JSON and a line feed, both are read as the same value, and
from that value the entries are recovered, so only equal batches have equal reports. -/
theorem json_lossless (entries : List BatchEntry) :
    (∀ layout, ∃ text, json layout entries = text ++ "\n" ∧ Spelling (value entries) text.toList) ∧
      (∀ layout, Json.read (json layout entries) = .ok (value entries)) ∧
      entriesOf? (value entries) = some entries ∧
      ∀ layout layout' others, json layout entries = json layout' others → entries = others := by
  refine ⟨fun layout => ⟨_, rfl, spelling_print layout entries⟩, (read_json · entries),
    entriesOf?_value entries, fun layout layout' others heq => ?_⟩
  have hvalue : value entries = value others := by
    have hread := read_json layout entries
    rw [heq, read_json layout' others] at hread
    exact (Except.ok.inj hread).symm
  have hentries := entriesOf?_value entries
  rw [hvalue, entriesOf?_value others] at hentries
  exact (Option.some.inj hentries).symm

end Report

end NamedExports
