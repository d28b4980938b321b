import Mathlib.Data.Sign.Defs
import NamedExports.Proofs.Scan.Condition

/-!
# Conditions in three values

A condition on the mode is evaluated in three values, of which unknown stands between false and
true: a conjunction is worth as little as the lesser of its sides, a disjunction as much as the
greater, and negation turns the order round.  `holdsIn?_three_valued` says that `Expr.holdsIn?` is
this evaluation, and that nothing more can be known: if what is unknown in a condition may come out
either way, place by place, then a condition has a value exactly if it always comes out the same.
-/

namespace NamedExports.Script

variable {mode : Mode}

/-! ## Strong Kleene evaluation -/

/-- Where nothing else is asked of free tests, every expression is a condition. -/
theorem isCondition (e : Expr) : IsCondition (fun _ => True) e := by
  -- the mode does not matter, only that the evaluation follows the parts of a condition
  fun_induction Expr.holdsIn? .production e with
  | case1 inner ih => exact .paren ih
  | case2 operand ih => exact .not ih
  | case3 left right ihleft ihright => exact .and ihleft ihright
  | case4 left right ihleft ihright => exact .or ihleft ihright
  | case5 op left right equal text htext hop => exact .compares (compares_iff.mpr ⟨hop, htext⟩)
  | case6 op left right hnone =>
    refine .free ⟨trivial, rfl, fun op' left' right' heq text equal h => ?_⟩
    obtain ⟨rfl, rfl, rfl⟩ := Expr.binary.inj heq
    obtain ⟨hop, htext⟩ := compares_iff.mp h
    exact hnone equal text hop htext
  | case7 e hparen hnot hand hor hbinary =>
    refine .free ⟨trivial, ?_, fun op left right heq => absurd heq (hbinary op left right)⟩
    rw [Expr.isCompound.eq_def]
    split
    · exact absurd rfl (hparen _)
    · exact absurd rfl (hnot _)
    · exact absurd rfl (hand _ _)
    · exact absurd rfl (hor _ _)
    · rfl

/-- What a truth value tells: `-1` is false and `1` is true, and `0` between them is unknown. -/
def known? : SignType → Option Bool
  | .neg => some false
  | .zero => none
  | .pos => some true

/-- The truth value of what is known to hold or not to hold. -/
def valueOf (holds : Bool) : SignType := if holds then 1 else -1

/-- The truth value of a condition in a mode, by strong Kleene evaluation. -/
inductive Kleene (mode : Mode) : Expr → SignType → Prop where
  | paren {inner : Expr} {value : SignType} (h : Kleene mode inner value) :
      Kleene mode (.paren inner) value
  | not {operand : Expr} {value : SignType} (h : Kleene mode operand value) :
      Kleene mode (.unary .not operand) (-value)
  | and {left right : Expr} {value value' : SignType} (hleft : Kleene mode left value)
      (hright : Kleene mode right value') :
      Kleene mode (.logical .and left right) (min value value')
  | or {left right : Expr} {value value' : SignType} (hleft : Kleene mode left value)
      (hright : Kleene mode right value') : Kleene mode (.logical .or left right) (max value value')
  | compares {op : BinaryOp} {left right : Expr} {text : String} {equal : Bool}
      (h : Compares op left right text equal) :
      Kleene mode (.binary op left right) (valueOf ((text == mode.text) == equal))
  | unknown {e : Expr} (h : IsFree (fun _ => True) e) : Kleene mode e 0

/-- The three values are told apart. -/
theorem known?_injective : Function.Injective known? := by
  intro value value' h
  cases value <;> cases value' <;> first | rfl | cases h

/-- A truth value is known. -/
theorem known?_valueOf (holds : Bool) : known? (valueOf holds) = some holds := by
  cases holds <;> rfl

/-- Negation on the three values is negation where something is known. -/
theorem known?_neg (value : SignType) : known? (-value) = (known? value).map (!·) := by
  cases value <;> rfl

/-- The lesser of two truth values is their conjunction. -/
theorem known?_min (value value' : SignType) :
    known? (min value value') = and? (known? value) (known? value') := by
  cases value <;> cases value' <;> rfl

/-- The greater of two truth values is their disjunction. -/
theorem known?_max (value value' : SignType) :
    known? (max value value') = or? (known? value) (known? value') := by
  cases value <;> cases value' <;> rfl

/-- The value by the strong Kleene tables is what the scan computes. -/
theorem holdsIn?_of_kleene {e : Expr} {value : SignType} (h : Kleene mode e value) :
    e.holdsIn? mode = known? value := by
  induction h with
  | paren h ih => rw [Expr.holdsIn?, ih]
  | not h ih => rw [Expr.holdsIn?, ih, known?_neg]
  | and hleft hright ihleft ihright => rw [Expr.holdsIn?, ihleft, ihright, known?_min]
  | or hleft hright ihleft ihright => rw [Expr.holdsIn?, ihleft, ihright, known?_max]
  | compares h => rw [holdsIn?_of_compares h, known?_valueOf]
  | unknown h => exact holdsIn?_of_isFree h

/-- Every expression has a truth value. -/
theorem exists_kleene (mode : Mode) (e : Expr) : ∃ value, Kleene mode e value := by
  induction isCondition e with
  | paren h ih => exact ih.imp fun _ => .paren
  | not h ih => exact ih.elim fun _ h => ⟨_, .not h⟩
  | and hleft hright ihleft ihright =>
    obtain ⟨value, hleft⟩ := ihleft
    obtain ⟨value', hright⟩ := ihright
    exact ⟨_, .and hleft hright⟩
  | or hleft hright ihleft ihright =>
    obtain ⟨value, hleft⟩ := ihleft
    obtain ⟨value', hright⟩ := ihright
    exact ⟨_, .or hleft hright⟩
  | compares h => exact ⟨_, .compares h⟩
  | free h => exact ⟨0, .unknown h⟩

/-- Each test has one value by the tables, so the two are the same. -/
theorem kleene_iff {e : Expr} {value : SignType} :
    Kleene mode e value ↔ e.holdsIn? mode = known? value := by
  refine ⟨holdsIn?_of_kleene, fun h => ?_⟩
  obtain ⟨value', h'⟩ := exists_kleene mode e
  rwa [known?_injective (h.symm.trans (holdsIn?_of_kleene h'))]

/-! ## Truth values of what is unknown -/

/-- A step from a condition to one of its parts. -/
inductive Side where
  | inside
  | left
  | right

/-- A truth value for each place in a condition, given the expression that stands there. -/
abbrev Valuation := List Side → Expr → Bool

namespace Valuation

/-- The truth values for the places in a part. -/
def below (v : Valuation) (side : Side) : Valuation := fun place => v (side :: place)

/-- The truth values of two parts, side by side. -/
def beside (v v' : Valuation) : Valuation
  | .right :: place => v' place
  | _ :: place => v place
  | [] => v []

/-- Comparisons have the truth values that they have in a mode. -/
def Agrees (mode : Mode) (v : Valuation) : Prop :=
  ∀ place op left right text equal, Compares op left right text equal →
    v place (.binary op left right) = ((text == mode.text) == equal)

variable {v v' : Valuation}

/-- A valuation that agrees with a mode does so inside a part of the test. -/
theorem Agrees.below (h : v.Agrees mode) (side : Side) : (v.below side).Agrees mode :=
  fun place => h (side :: place)

/-- Valuations of both sides that agree with a mode do so together. -/
theorem Agrees.beside (h : v.Agrees mode) (h' : v'.Agrees mode) :
    (v.beside v').Agrees mode := by
  rintro (_ | ⟨_ | _ | _, place⟩)
  · exact h []
  · exact h place
  · exact h place
  · exact h' place

/-- The truth values that are known, and one for all that is unknown. -/
def ofUnknown (mode : Mode) (holds : Bool) : Valuation := fun _ e => (e.holdsIn? mode).getD holds

/-- The valuation that decides all unknown parts alike agrees with the mode. -/
theorem agrees_ofUnknown (mode : Mode) (holds : Bool) : (ofUnknown mode holds).Agrees mode := by
  intro place op left right text equal h
  rw [ofUnknown, holdsIn?_of_compares h, Option.getD_some]

end Valuation

/-- How a condition comes out, if what is no condition made of others has the truth values given. -/
def Expr.truth : Expr → Valuation → Bool
  | .paren inner, v => inner.truth (v.below .inside)
  | .unary .not operand, v => !operand.truth (v.below .inside)
  | .logical .and left right, v => left.truth (v.below .left) && right.truth (v.below .right)
  | .logical .or left right, v => left.truth (v.below .left) || right.truth (v.below .right)
  | e, v => v [] e

section

variable {v : Valuation}

/-- The truth of an expression that is not taken apart is given by the valuation. -/
theorem truth_of_isCompound_eq_false {e : Expr} (h : e.isCompound = false) (v : Valuation) :
    e.truth v = v [] e := by
  unfold Expr.truth
  split <;> first | rfl | cases h

/-- An evaluation can take the truth values that are given for what it comes to. -/
theorem tests_truth (e : Expr) (hv : v.Agrees mode) :
    Tests (fun _ => True) mode e (e.truth v) := by
  induction isCondition e generalizing v with
  | paren h ih => exact .paren (ih (hv.below .inside))
  | not h ih => exact .not (ih (hv.below .inside))
  | @and left right hleft hright ihleft ihright =>
    have htest := ihleft (hv.below .left)
    rw [Expr.truth]
    cases hvalue : left.truth (v.below .left) with
    | false =>
      rw [hvalue] at htest
      exact .andSkips htest
    | true =>
      rw [hvalue] at htest
      exact .andGoesOn htest (ihright (hv.below .right))
  | @or left right hleft hright ihleft ihright =>
    have htest := ihleft (hv.below .left)
    rw [Expr.truth]
    cases hvalue : left.truth (v.below .left) with
    | false =>
      rw [hvalue] at htest
      exact .orGoesOn htest (ihright (hv.below .right))
    | true =>
      rw [hvalue] at htest
      exact .orSkips htest
  | compares h =>
    rw [truth_of_isCompound_eq_false rfl, hv _ _ _ _ _ _ h]
    exact .compares h
  | free h => exact .free h _

/-- For every way an evaluation goes there are truth values that make it go so. -/
theorem exists_truth_of_tests {e : Expr} {holds : Bool} (h : Tests (fun _ => True) mode e holds) :
    ∃ v : Valuation, v.Agrees mode ∧ e.truth v = holds := by
  have hunknown := Valuation.agrees_ofUnknown mode
  induction h with
  | paren h ih =>
    obtain ⟨v, hv, rfl⟩ := ih
    exact ⟨v.beside v, hv.beside hv, rfl⟩
  | not h ih =>
    obtain ⟨v, hv, rfl⟩ := ih
    exact ⟨v.beside v, hv.beside hv, rfl⟩
  | andSkips h ih =>
    -- what is skipped may have any truth value
    obtain ⟨v, hv, hfalse⟩ := ih
    exact ⟨v.beside _, hv.beside (hunknown true), congrArg (· && _) hfalse⟩
  | andGoesOn hleft hright ihleft ihright =>
    obtain ⟨v, hv, htrue⟩ := ihleft
    obtain ⟨v', hv', rfl⟩ := ihright
    exact ⟨v.beside v', hv.beside hv', congrArg (· && _) htrue⟩
  | orSkips h ih =>
    obtain ⟨v, hv, htrue⟩ := ih
    exact ⟨v.beside _, hv.beside (hunknown true), congrArg (· || _) htrue⟩
  | orGoesOn hleft hright ihleft ihright =>
    obtain ⟨v, hv, hfalse⟩ := ihleft
    obtain ⟨v', hv', rfl⟩ := ihright
    exact ⟨v.beside v', hv.beside hv', congrArg (· || _) hfalse⟩
  | compares h =>
    refine ⟨_, hunknown true, ?_⟩
    rw [truth_of_isCompound_eq_false rfl, hunknown true _ _ _ _ _ _ h]
  | free h holds =>
    refine ⟨_, hunknown holds, ?_⟩
    rw [truth_of_isCompound_eq_false h.simple, Valuation.ofUnknown, holdsIn?_of_isFree h,
      Option.getD_none]

/-- A condition can come out one way exactly if it is not known to come out the other. -/
theorem exists_truth_iff {e : Expr} {holds : Bool} :
    (∃ v : Valuation, v.Agrees mode ∧ e.truth v = holds) ↔ e.holdsIn? mode ≠ some (!holds) := by
  rw [← tests_iff (isCondition e)]
  refine ⟨?_, exists_truth_of_tests⟩
  rintro ⟨v, hv, rfl⟩
  exact tests_truth e hv

/-- A condition has a value exactly if it always comes out so. -/
theorem holdsIn?_eq_some_iff {e : Expr} {holds : Bool} :
    e.holdsIn? mode = some holds ↔ ∀ v : Valuation, v.Agrees mode → e.truth v = holds := by
  have hother : (∃ v : Valuation, v.Agrees mode ∧ e.truth v = !holds) ↔
      e.holdsIn? mode ≠ some holds := by
    rw [exists_truth_iff, Bool.not_not]
  rw [← not_iff_not, ← Ne, ← hother]
  push Not
  simp only [Bool.eq_not_iff]

/-- The value of a condition is unknown exactly if it can come out either way. -/
theorem holdsIn?_eq_none_iff {e : Expr} :
    e.holdsIn? mode = none ↔ ∀ holds, ∃ v : Valuation, v.Agrees mode ∧ e.truth v = holds := by
  simp only [exists_truth_iff, Bool.forall_bool]
  rcases e.holdsIn? mode with _ | _ | _ <;> decide

end

/-! ## Laws -/

/-- Conditions that De Morgan's laws and the law of double negation turn into each other, also where
what they apply to is only a part. -/
inductive SameByLaws : Expr → Expr → Prop where
  | refl (e : Expr) : SameByLaws e e
  | symm {e e' : Expr} (h : SameByLaws e e') : SameByLaws e' e
  | trans {e e' e'' : Expr} (h : SameByLaws e e') (h' : SameByLaws e' e'') : SameByLaws e e''
  | notNot (e : Expr) : SameByLaws (.unary .not (.unary .not e)) e
  | notAnd (left right : Expr) : SameByLaws (.unary .not (.logical .and left right))
      (.logical .or (.unary .not left) (.unary .not right))
  | notOr (left right : Expr) : SameByLaws (.unary .not (.logical .or left right))
      (.logical .and (.unary .not left) (.unary .not right))
  | paren (e : Expr) : SameByLaws (.paren e) e
  | insideNot {e e' : Expr} (h : SameByLaws e e') :
      SameByLaws (.unary .not e) (.unary .not e')
  | insideAnd {left left' right right' : Expr} (hleft : SameByLaws left left')
      (hright : SameByLaws right right') :
      SameByLaws (.logical .and left right) (.logical .and left' right')
  | insideOr {left left' right right' : Expr} (hleft : SameByLaws left left')
      (hright : SameByLaws right right') :
      SameByLaws (.logical .or left right) (.logical .or left' right')

/-- De Morgan's law for `&&`. -/
theorem not_and? (first second : Option Bool) :
    (and? first second).map (!·) = or? (first.map (!·)) (second.map (!·)) := by
  rcases first with _ | _ | _ <;> rcases second with _ | _ | _ <;> rfl

/-- De Morgan's law for `||`. -/
theorem not_or? (first second : Option Bool) :
    (or? first second).map (!·) = and? (first.map (!·)) (second.map (!·)) := by
  rcases first with _ | _ | _ <;> rcases second with _ | _ | _ <;> rfl

/-- What is equal by the laws has one value in every mode. -/
theorem SameByLaws.holdsIn?_eq {e e' : Expr} (h : SameByLaws e e') :
    e.holdsIn? mode = e'.holdsIn? mode := by
  induction h with
  | refl e => rfl
  | symm h ih => exact ih.symm
  | trans h h' ih ih' => exact ih.trans ih'
  | notNot e =>
    rw [Expr.holdsIn?, Expr.holdsIn?, Option.map_map]
    rcases e.holdsIn? mode with _ | _ | _ <;> rfl
  | notAnd left right => simp only [Expr.holdsIn?, not_and?]
  | notOr left right => simp only [Expr.holdsIn?, not_or?]
  | paren e => rw [Expr.holdsIn?]
  | insideNot h ih => rw [Expr.holdsIn?, ih, Expr.holdsIn?]
  | insideAnd hleft hright ihleft ihright => rw [Expr.holdsIn?, ihleft, ihright, Expr.holdsIn?]
  | insideOr hleft hright ihleft ihright => rw [Expr.holdsIn?, ihleft, ihright, Expr.holdsIn?]

/-- The evaluation of conditions is strong Kleene evaluation.  It knows a value exactly if the
condition comes out so whatever truth values stand for what is unknown in it, and no value exactly
if the condition comes out either way for some of them, and it respects De Morgan's laws and double
negation. -/
theorem holdsIn?_three_valued (mode : Mode) (e : Expr) :
    (∀ value, Kleene mode e value ↔ e.holdsIn? mode = known? value) ∧
      (∀ holds, e.holdsIn? mode = some holds ↔
        ∀ v : Valuation, v.Agrees mode → e.truth v = holds) ∧
      (e.holdsIn? mode = none ↔
        ∀ holds, ∃ v : Valuation, v.Agrees mode ∧ e.truth v = holds) ∧
      ∀ e', SameByLaws e e' → e'.holdsIn? mode = e.holdsIn? mode :=
  ⟨fun _ => kleene_iff, fun _ => holdsIn?_eq_some_iff, holdsIn?_eq_none_iff,
    fun _ h => h.holdsIn?_eq.symm⟩

/-- Two places may come out differently even if the same test stands in both. -/
example (name : String) :
    (Expr.logical .or (.ident name) (.unary .not (.ident name))).holdsIn? mode = none := rfl

end NamedExports.Script
