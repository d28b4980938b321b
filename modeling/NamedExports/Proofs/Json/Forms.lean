import Mathlib.Data.List.Nodup
import NamedExports.Forms
import NamedExports.Proofs.Json.Printing
import NamedExports.Proofs.Json.Reading

/-!
# Records that read back

A form is lawful if its fields have different names and its values make the element they were taken
from.  An element of a lawful form is read from every spelling of its object, and can be recovered
from the object itself by looking its members up.
-/

namespace NamedExports.Json

/-! ## Lists read item by item -/

/-- A function that gives its result for each element gives the list of results. -/
theorem mapM_eq_pure {α β : Type} {m : Type → Type} [Monad m] [LawfulMonad m] {f : α → m β}
    {as : List α} {bs : List β} (h : List.Forall₂ (fun a b => f a = pure b) as bs) :
    as.mapM f = pure bs := by
  induction h with
  | nil => exact List.mapM_nil
  | cons first _ ih => rw [List.mapM_cons, first, ih, pure_bind, pure_bind]

/-- An array of strings reads back as the texts. -/
@[simp] theorem toTexts_ofTexts (texts : List String) : toTexts (ofTexts texts) = .ok texts :=
  mapM_eq_pure (List.forall₂_map_left_iff.mpr (List.forall₂_same.mpr fun _ _ => rfl))

/-! ## Members with different keys -/

section

variable {α : Type} {members : List (String × α)} {member : String × α}

/-- A key that no other member has finds its member alone. -/
theorem filter_key (hnodup : (members.map Prod.fst).Nodup) (h : member ∈ members) :
    members.filter (fun other => other.1 == member.1) = [member] := by
  induction members with
  | nil => cases h
  | cons first rest ih =>
    rw [List.map_cons, List.nodup_cons] at hnodup
    obtain ⟨hfirst, hrest⟩ := hnodup
    cases h with
    | head =>
      rw [List.filter_cons_of_pos (by simp), List.filter_eq_nil_iff.mpr]
      intro other hother hkey
      exact hfirst (beq_iff_eq.mp hkey ▸ List.mem_map_of_mem hother)
    | tail _ h =>
      have hne : first.1 ≠ member.1 := fun heq => hfirst (heq ▸ List.mem_map_of_mem h)
      rw [List.filter_cons_of_neg (by simpa using hne), ih hrest h]

/-- Where no name is given twice, the last member of a name is the only one. -/
theorem lastMember?_of_mem (hnodup : (members.map Prod.fst).Nodup) (h : member ∈ members) :
    Value.lastMember? member.1 members = some member.2 := by
  rw [Value.lastMember?, ← List.head?_filter, List.filter_reverse, filter_key hnodup h]
  rfl

end

/-! ## Fields -/

/-- A member that a form knows is read, whatever follows it. -/
theorem readField_append {fields : List Field} {depth : Nat} {member : String × Value}
    {text rest : List Char} (hknown : fields.any (·.name == member.1) = true)
    (hfits : member.2.FitsIn depth) (h : MemberSpelling member text) (hrest : EndsNumber rest) :
    readField fields depth (text ++ rest) = .ok ((member.1, some member.2), rest) := by
  cases h with
  | intro named blank blank' spelled =>
    simp only [readField, List.append_assoc, List.cons_append, readString_append named, bind,
      Except.bind, readColon_append blank, skipSpace_append blank', spelled.startsItem.skipSpace,
      readValue_append hfits spelled hrest]
    exact if_pos hknown

/-! ## What is made of texts -/

/-- An array of strings is well-formed. -/
theorem isWellFormed_ofTexts (texts : List String) : (ofTexts texts).IsWellFormed := by
  refine .array fun item hitem => ?_
  obtain ⟨text, -, rfl⟩ := List.mem_map.mp hitem
  exact .string text

/-- An array of strings is one level deeper than what holds it. -/
theorem fitsIn_ofTexts (depth : Nat) (texts : List String) :
    (ofTexts texts).FitsIn (depth + 1) := by
  intro item hitem
  obtain ⟨text, -, rfl⟩ := List.mem_map.mp hitem
  rw [Value.FitsIn.eq_def]
  trivial

/-! ## Forms -/

namespace Form

variable {α : Type} {form : Form α}

/-- A form whose elements can be told from their values. -/
structure Lawful (form : Form α) : Prop where
  nodup : (form.fields.map Field.name).Nodup
  length_toValues : ∀ element, (form.toValues element).length = form.fields.length
  ofValues_toValues : ∀ element, form.ofValues (form.toValues element) = .ok element

/-- The members of an element's object. -/
def members (form : Form α) (element : α) : List (String × Value) :=
  (form.fields.map Field.name).zip (form.toValues element)

/-- An element is well-formed if its values are. -/
theorem isWellFormed_value {element : α}
    (h : ∀ value ∈ form.toValues element, value.IsWellFormed) :
    (form.value element).IsWellFormed :=
  .object fun _ hmember => h _ (List.of_mem_zip hmember).2

/-- An element is one level deeper than its values. -/
theorem fitsIn_value {element : α} {depth : Nat}
    (h : ∀ value ∈ form.toValues element, value.FitsIn depth) :
    (form.value element).FitsIn (depth + 1) :=
  fun _ hmember => h _ (List.of_mem_zip hmember).2

/-- What a field is in an element. -/
theorem Lawful.forall₂_members (h : form.Lawful) (element : α) :
    List.Forall₂ (fun field value => (field.name, value) ∈ form.members element) form.fields
      (form.toValues element) := by
  rw [List.forall₂_iff_get]
  refine ⟨(h.length_toValues element).symm, fun i hfield hvalue => ?_⟩
  have hi : i < (form.members element).length := by
    rw [members, List.length_zip, List.length_map]
    exact Nat.lt_min.mpr ⟨hfield, hvalue⟩
  have hmember : (form.members element)[i] = (form.fields[i].name, (form.toValues element)[i]) := by
    simp [members]
  exact hmember ▸ List.getElem_mem hi

/-- The names of the members are those of the fields, in order. -/
theorem Lawful.keys_members (h : form.Lawful) (element : α) :
    (form.members element).map Prod.fst = form.fields.map Field.name := by
  rw [members, List.map_fst_zip]
  simp [h.length_toValues element]

/-- No element gives a name twice. -/
theorem Lawful.nodup_members (h : form.Lawful) (element : α) :
    ((form.members element).map Prod.fst).Nodup := by
  rw [h.keys_members]
  exact h.nodup

/-- The element that an object's members make, in whatever order they are. -/
def ofObject (form : Form α) (object : Value) : Option α := do
  let values ← form.fields.mapM fun field => object.member? field.name
  (form.ofValues values).toOption

/-- The object of an element tells the element. -/
theorem Lawful.ofObject_value (h : form.Lawful) (element : α) :
    form.ofObject (form.value element) = some element := by
  have hvalues : form.fields.mapM (fun field => (form.value element).member? field.name) =
      some (form.toValues element) :=
    mapM_eq_pure ((h.forall₂_members element).imp fun _ _ hmember =>
      lastMember?_of_mem (h.nodup_members element) hmember)
  rw [ofObject, hvalues]
  simp [h.ofValues_toValues, Except.toOption]

/-- Each field finds its value among the members. -/
theorem Lawful.mapM_ofMembers (h : form.Lawful) (element : α) :
    form.fields.mapM (ofMembers ((form.members element).map fun member =>
      (member.1, some member.2))) = .ok (form.toValues element) := by
  refine mapM_eq_pure ((h.forall₂_members element).imp fun field value hmember => ?_)
  have hfilter : ((form.members element).map fun member => (member.1, some member.2)).filter
      (fun member => member.1 == field.name) = [(field.name, some value)] := by
    rw [List.filter_map]
    exact congrArg (List.map _) (filter_key (h.nodup_members element) hmember)
  rw [ofMembers, hfilter]
  rfl

/-- An element is read from every spelling of its object. -/
theorem Lawful.readRecord_append (h : form.Lawful) {element : α} {text rest : List Char}
    (hfits : ∀ value ∈ form.toValues element, value.FitsIn (maxDepth - 1))
    (hspelled : Spelling (form.value element) text) :
    form.readRecord (text ++ rest) = .ok (element, rest) := by
  cases hspelled with
  | @object _ body listed =>
    have hfield (member : String × Value) (hmember : member ∈ form.members element)
        (text rest : List Char) (spelled : MemberSpelling member text) :
        EndsNumber rest → readField form.fields (maxDepth - 1) (text ++ rest) =
          .ok ((member.1, some member.2), rest) := by
      refine readField_append ?_ (hfits _ (List.of_mem_zip hmember).2) spelled
      simpa [List.any_eq_true] using (List.of_mem_zip hmember).1
    have hlist := readList_append (fun _ _ => MemberSpelling.startsItem) (.inr rfl) listed hfield
      rest
    have hmembers := h.mapM_ofMembers element
    rw [members] at hmembers
    rw [Form.readRecord, List.append_assoc, List.cons_append, List.singleton_append,
      Json.readRecord, hlist]
    dsimp only [bind, Except.bind]
    rw [hmembers]
    dsimp only
    rw [h.ofValues_toValues]

/-- Any spelling of an element reads back as the element, whatever blank space there is around
it. -/
theorem Lawful.read_append (h : form.Lawful) {element : α} {before text after : List Char}
    (hfits : ∀ value ∈ form.toValues element, value.FitsIn (maxDepth - 1))
    (blank : IsBlank before) (hspelled : Spelling (form.value element) text)
    (blank' : IsBlank after) : form.read (before ++ text ++ after) = .ok element :=
  readAll_append blank hspelled.startsItem blank' (h.readRecord_append hfits hspelled)

end Form

end NamedExports.Json

namespace NamedExports

/-- The name of a mode reads back as the mode. -/
theorem Mode.toWord_text (mode : Mode) : Json.toWord Mode.words (.string mode.text) = .ok mode := by
  cases mode <;> rfl

/-- The word for a kind of module value reads back as the kind. -/
theorem ModuleValue.Kind.toWord_word (kind : Kind) :
    Json.toWord ModuleValue.Kind.words (.string kind.word) = .ok kind := by
  cases kind <;> rfl

/-- The form of a request is lawful. -/
theorem Request.form_lawful : Request.form.Lawful where
  nodup := by decide
  length_toValues _ := rfl
  ofValues_toValues request := by
    simp [Request.form, Mode.toWord_text, Json.toPath, Json.toText]
    rfl

/-- The form of a module value is lawful. -/
theorem ModuleValue.form_lawful : ModuleValue.form.Lawful where
  nodup := by decide
  length_toValues _ := rfl
  ofValues_toValues value := by
    simp [ModuleValue.form, ModuleValue.Kind.toWord_word]
    rfl

/-- The form of an export list is lawful. -/
theorem ExportList.form_lawful : ExportList.form.Lawful where
  nodup := by decide
  length_toValues _ := rfl
  ofValues_toValues list := by
    simp [ExportList.form]
    rfl

end NamedExports
