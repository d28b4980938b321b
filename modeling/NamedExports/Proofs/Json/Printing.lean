import Mathlib.Tactic.SplitIfs
import NamedExports.Json.Printer
import NamedExports.Proofs.Json.Grammar

/-!
# What is printed is JSON

In either layout a printed value is one of its spellings, and the compact one has no line break and
no other control character.
-/

namespace NamedExports.Json

/-! ## Strings -/

/-- The digit that is printed for a number below sixteen is read as that number. -/
theorem mem_hexDigits_hexDigit : ∀ n < 16, (hexDigit n, n) ∈ hexDigits := by decide

/-- A control character that has no short escape. -/
theorem charSpelling_control {c : Char} (h : c < ' ') :
    CharSpelling c
      ['\\', 'u', '0', '0', hexDigit (c.toNat / 16), hexDigit (c.toNat % 16)] := by
  have hc : c.toNat < 32 := h
  have hunit := UnitSpelling.intro (mem_hexDigits_hexDigit 0 (by decide))
    (mem_hexDigits_hexDigit 0 (by decide)) (mem_hexDigits_hexDigit (c.toNat / 16) (by omega))
    (mem_hexDigits_hexDigit (c.toNat % 16) (by omega))
  have hvalue : ((0 * 16 + 0) * 16 + c.toNat / 16) * 16 + c.toNat % 16 = c.toNat := by omega
  rw [hvalue] at hunit
  exact .unit hunit

/-- A character is spelt by what is printed for it. -/
theorem charSpelling_escape (c : Char) : CharSpelling c (escape c) := by
  unfold escape
  simp only [beq_iff_eq]
  split_ifs
  -- the seven characters that have a letter of their own
  iterate 7
    · subst c
      exact .short (by decide)
  · exact charSpelling_control ‹_›
  · exact .plain (Char.not_lt.mp ‹_›) ‹_› ‹_›

/-- Characters are spelt by what is printed for them. -/
theorem charsSpelling_escape (chars : List Char) : CharsSpelling chars (chars.flatMap escape) := by
  induction chars with
  | nil => exact .nil
  | cons c rest ih => exact .cons (charSpelling_escape c) ih

/-- A text is spelt by what is printed between quotation marks. -/
theorem stringSpelling_quote (text : String) : StringSpelling text (quote text) :=
  .intro (charsSpelling_escape text.toList)

/-! ## Numbers -/

/-- A natural number is printed in digits. -/
theorem isDigits_repr (n : Nat) : IsDigits n.repr.toList := by
  rw [Nat.repr_eq_ofList_toDigits, String.toList_ofList]
  refine ⟨Nat.toDigits_ne_nil, fun c hc => ?_⟩
  have hdigit := Nat.isDigit_of_mem_toDigits (by decide) (by decide) hc
  simpa [Char.isDigit, Char.le_def] using hdigit

/-- The digits that are printed for a natural number are worth that number. -/
theorem accumulate_repr (n : Nat) : Number.accumulate 0 n.repr.toList = n := by
  have hread : Number.accumulate 0 (Nat.toDigits 10 n) =
      Nat.ofDigitChars 10 (Nat.toDigits 10 n) 0 := by
    rw [Number.accumulate, Nat.ofDigitChars_eq_foldl]
    congr 1
    funext value c
    rw [Nat.mul_comm]
  rw [Nat.repr_eq_ofList_toDigits, String.toList_ofList, hread,
    Nat.ofDigitChars_toDigits (by decide) (by decide)]

/-- An exponent is spelt by what is printed for it. -/
theorem exponentSpelling_toString (power : Int) :
    ExponentSpelling (some power) ('e' :: (toString power).toList) := by
  cases power with
  | ofNat n =>
    have hsign : (([], 1) : List Char × Int) ∈ exponentSigns := by decide
    have h := ExponentSpelling.some (.inl rfl) hsign (isDigits_repr n)
    rw [accumulate_repr, Int.one_mul] at h
    exact h
  | negSucc n =>
    have hsign : ((['-'], -1) : List Char × Int) ∈ exponentSigns := by decide
    have h := ExponentSpelling.some (.inl rfl) hsign (isDigits_repr (n + 1))
    rw [accumulate_repr, Int.neg_one_mul] at h
    have hrepr : (toString (Int.negSucc n)).toList = '-' :: (n + 1).repr.toList := by
      rw [Int.toString_eq_repr, Int.repr, String.toList_append]
      rfl
    rw [hrepr]
    exact h

/-- A number whose digits are digits. -/
structure Number.IsWellFormed (n : Number) : Prop where
  whole : IsWhole n.whole
  fraction : ∀ digits ∈ n.fraction, IsDigits digits

/-- A number is spelt by what is printed for it. -/
theorem numberSpelling_print {n : Number} (h : n.IsWellFormed) : NumberSpelling n n.print := by
  obtain ⟨negative, whole, fraction, exponent⟩ := n
  refine .intro h.whole ?_ ?_
  · cases fraction with
    | none => exact .none
    | some digits => exact .some (h.fraction digits rfl)
  · cases exponent with
    | none => exact .none
    | some power => exact exponentSpelling_toString power

/-! ## Values -/

/-- A value whose numbers are well formed. -/
inductive Value.IsWellFormed : Value → Prop
  | null : IsWellFormed .null
  | bool (value : Bool) : IsWellFormed (.bool value)
  | number {value : Number} (h : value.IsWellFormed) : IsWellFormed (.number value)
  | string (value : String) : IsWellFormed (.string value)
  | array {items : List Value} (h : ∀ item ∈ items, IsWellFormed item) :
      IsWellFormed (.array items)
  | object {members : List (String × Value)} (h : ∀ member ∈ members, IsWellFormed member.2) :
      IsWellFormed (.object members)

section

variable (layout : Layout) (depth : Nat)

/-- A new line with its indentation is blank. -/
theorem isBlank_newline : IsBlank (layout.newline depth) := by
  cases layout with
  | compact => exact .nil
  | indented =>
    intro c hc
    obtain rfl | hc := List.mem_cons.mp hc
    · exact .inr (.inr (.inl rfl))
    · exact .inl (List.eq_of_mem_replicate hc)

/-- A member at a depth. -/
def printMember (member : String × Value) : List Char :=
  quote member.1 ++ layout.colon ++ printAt layout depth member.2

/-- A member is spelt by what is printed for it, if its value is. -/
theorem memberSpelling_printMember {member : String × Value}
    (h : Spelling member.2 (printAt layout depth member.2)) :
    MemberSpelling member (printMember layout depth member) := by
  have hname := stringSpelling_quote member.1
  cases layout with
  | compact => simpa [printMember, Layout.colon] using MemberSpelling.intro hname .nil .nil h
  | indented =>
    have hspace : IsBlank [' '] := by
      intro c hc
      exact .inl (List.mem_singleton.mp hc)
    simpa [printMember, Layout.colon] using MemberSpelling.intro hname .nil hspace h

/-- What stands between brackets: each item on a line of its own, if the layout has lines. -/
def printListed {α : Type} (print : α → List Char) : List α → List Char
  | [] => []
  | first :: rest =>
    layout.newline (depth + 1) ++ print first ++
      (rest.flatMap fun item => ',' :: layout.newline (depth + 1) ++ print item) ++
      layout.newline depth

/-- Items behind the first one are printed each behind a comma. -/
theorem printItems_eq_flatMap (items : List Value) : printItems layout depth items =
    items.flatMap fun item => ',' :: layout.newline depth ++ printAt layout depth item := by
  induction items with
  | nil => rfl
  | cons first rest ih => rw [printItems, ih, List.flatMap_cons]

/-- Members behind the first one are printed each behind a comma. -/
theorem printMembers_eq_flatMap (members : List (String × Value)) :
    printMembers layout depth members = members.flatMap fun member =>
      ',' :: layout.newline depth ++ printMember layout depth member := by
  induction members with
  | nil => rfl
  | cons first rest ih =>
    rw [printMembers, ih, List.flatMap_cons, printMember]
    simp only [List.append_assoc]

/-- An array is printed as a list of its items between brackets. -/
theorem printAt_array (items : List Value) : printAt layout depth (.array items) =
    '[' :: printListed layout depth (printAt layout (depth + 1)) items ++ [']'] := by
  cases items with
  | nil => rfl
  | cons first rest =>
    rw [printAt, printItems_eq_flatMap, printListed]
    simp only [List.cons_append, List.append_assoc]

/-- An object is printed as a list of its members between braces. -/
theorem printAt_object (members : List (String × Value)) : printAt layout depth (.object members) =
    '\x7b' :: printListed layout depth (printMember layout (depth + 1)) members ++ ['\x7d'] := by
  cases members with
  | nil => rfl
  | cons first rest =>
    rw [printAt, printMembers_eq_flatMap, printListed, printMember]
    simp only [List.cons_append, List.append_assoc]

/-- A list is spelt by what is printed for it, if each item is. -/
theorem listed_printListed {α : Type} {Item : α → List Char → Prop} {print : α → List Char}
    {items : List α} (h : ∀ item ∈ items, Item item (print item)) :
    Listed Item items (printListed layout depth print items) := by
  have hline := isBlank_newline layout (depth + 1)
  have hlast := isBlank_newline layout depth
  cases items with
  | nil => exact .none .nil
  | cons first rest =>
    refine .some ?_
    rw [printListed]
    induction rest generalizing first with
    | nil =>
      rw [List.flatMap_nil, List.append_nil]
      exact .last hline (h first List.mem_cons_self) hlast
    | cons second others ih =>
      have hothers := ih second fun item hitem => h item (List.mem_cons_of_mem _ hitem)
      simpa using Separated.more hline (h first List.mem_cons_self) .nil hothers

end

/-- What is printed is one of a value's spellings. -/
theorem spelling_printAt (layout : Layout) {value : Value} (h : value.IsWellFormed)
    (depth : Nat) : Spelling value (printAt layout depth value) := by
  induction h generalizing depth with
  | null =>
    rw [printAt]
    exact .null
  | bool value =>
    cases value with
    | true =>
      rw [printAt]
      exact .true
    | false =>
      rw [printAt]
      exact .false
  | number h =>
    rw [printAt]
    exact .number (numberSpelling_print h)
  | string value =>
    rw [printAt]
    exact .string (stringSpelling_quote value)
  | array _ ih =>
    rw [printAt_array]
    exact .array (listed_printListed layout depth fun item hitem => ih item hitem (depth + 1))
  | object _ ih =>
    rw [printAt_object]
    exact .object (listed_printListed layout depth fun member hmember =>
      memberSpelling_printMember layout (depth + 1) (ih member hmember (depth + 1)))

/-! ## One line -/

/-- A text without line breaks and other control characters. -/
def HasNoControl (text : List Char) : Prop := ∀ c ∈ text, ' ' ≤ c

instance (text : List Char) : Decidable (HasNoControl text) :=
  List.decidableBAll (fun c => ' ' ≤ c) text

section

variable {text rest : List Char} {c : Char}

theorem HasNoControl.nil : HasNoControl [] := List.forall_mem_nil _

theorem HasNoControl.cons (h : ' ' ≤ c) (hrest : HasNoControl rest) : HasNoControl (c :: rest) :=
  List.forall_mem_cons.mpr ⟨h, hrest⟩

theorem HasNoControl.append (h : HasNoControl text) (hrest : HasNoControl rest) :
    HasNoControl (text ++ rest) :=
  List.forall_mem_append.mpr ⟨h, hrest⟩

theorem HasNoControl.flatMap {α : Type} {items : List α} {print : α → List Char}
    (h : ∀ item ∈ items, HasNoControl (print item)) : HasNoControl (items.flatMap print) := by
  intro c hc
  obtain ⟨item, hitem, hmem⟩ := List.mem_flatMap.mp hc
  exact h item hitem c hmem

/-- A text without control characters is a single line. -/
theorem HasNoControl.not_mem_newline (h : HasNoControl text) : '\n' ∉ text :=
  fun hmem => absurd (h '\n' hmem) (by decide)

end

/-- Digits are no control characters. -/
theorem IsDigits.hasNoControl {digits : List Char} (h : IsDigits digits) : HasNoControl digits :=
  fun c hc => Char.le_trans (by decide) (h.2 c hc).1

/-- No number is spelt with control characters. -/
theorem NumberSpelling.hasNoControl {number : Number} {text : List Char}
    (h : NumberSpelling number text) : HasNoControl text := by
  cases h with
  | @intro negative whole f e fraction exponent isWhole fractional exponential =>
    have hsign : HasNoControl (if negative then ['-'] else []) := by
      cases negative <;> decide
    have hfraction : HasNoControl f := by
      cases fractional with
      | none => exact .nil
      | some digital => exact .cons (by decide) digital.hasNoControl
    have hexponent : HasNoControl e := by
      cases exponential with
      | none => exact .nil
      | some lettered signed digital =>
        have hletter : HasNoControl ['e', 'E'] := by decide
        have hsigns : ∀ sign ∈ exponentSigns, HasNoControl sign.1 := by decide
        exact (HasNoControl.cons (hletter _ (by simpa using lettered)) (hsigns _ signed)).append
          digital.hasNoControl
    exact ((hsign.append isWhole.1.hasNoControl).append hfraction).append hexponent

/-- What is printed for a character has no control characters, whatever the character. -/
theorem hasNoControl_escape (c : Char) : HasNoControl (escape c) := by
  unfold escape
  split_ifs
  iterate 7
    · decide
  · have hdigit : ∀ n < 16, ' ' ≤ hexDigit n := by decide
    have hc : c.toNat < 32 := ‹c < ' '›
    have hfront : HasNoControl ['\\', 'u', '0', '0'] := by decide
    exact hfront.append (.cons (hdigit _ (by omega)) (.cons (hdigit _ (by omega)) .nil))
  · exact .cons (Char.not_lt.mp ‹_›) .nil

/-- What is printed for a text has no control characters. -/
theorem hasNoControl_quote (text : String) : HasNoControl (quote text) :=
  (HasNoControl.cons (by decide) (.flatMap fun c _ => hasNoControl_escape c)).append
    (.cons (by decide) .nil)

/-- In the compact layout a list has no control characters, if no item has. -/
theorem hasNoControl_printListed {α : Type} {print : α → List Char} {items : List α} (depth : Nat)
    (h : ∀ item ∈ items, HasNoControl (print item)) :
    HasNoControl (printListed .compact depth print items) := by
  cases items with
  | nil => exact .nil
  | cons first rest =>
    have hrest := HasNoControl.flatMap fun item hitem =>
      HasNoControl.cons (c := ',') (by decide) (h item (List.mem_cons_of_mem _ hitem))
    exact ((h first List.mem_cons_self).append hrest).append .nil

/-- A compact text is a single line. -/
theorem hasNoControl_printAt {value : Value} (h : value.IsWellFormed) (depth : Nat) :
    HasNoControl (printAt .compact depth value) := by
  induction h generalizing depth with
  | null =>
    rw [printAt]
    decide
  | bool value =>
    rw [printAt]
    cases value <;> decide
  | number h =>
    rw [printAt]
    exact (numberSpelling_print h).hasNoControl
  | string value =>
    rw [printAt]
    exact hasNoControl_quote value
  | array _ ih =>
    rw [printAt_array]
    have hitems := hasNoControl_printListed depth fun item hitem => ih item hitem (depth + 1)
    exact (HasNoControl.cons (by decide) hitems).append (.cons (by decide) .nil)
  | object _ ih =>
    rw [printAt_object]
    have hcolon : HasNoControl Layout.compact.colon := by decide
    have hmembers := hasNoControl_printListed depth fun member hmember =>
      ((hasNoControl_quote member.1).append hcolon).append (ih member hmember (depth + 1))
    exact (HasNoControl.cons (by decide) hmembers).append (.cons (by decide) .nil)

end NamedExports.Json
