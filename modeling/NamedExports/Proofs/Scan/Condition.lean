import NamedExports.Proofs.Scan.Shape
import NamedExports.Scan.Condition

/-!
# Conditions and how they can come out

A condition is built from comparisons of `process.env.NODE_ENV` with texts and from free tests, of
which nothing is known but that they have no effect.  Each evaluation of a free test may come out
either way, also when the same test stands in a condition twice.  `tests_iff` says that
`Expr.holdsIn?` knows the outcome of a condition exactly if it can only come out one way.
-/

namespace NamedExports.Script

/-! ## Comparisons of the mode -/

/-- Whether an operator compares for equality, strictly or not, or for inequality. -/
inductive Equates : BinaryOp → Bool → Prop where
  | strictEqual : Equates .strictEqual true
  | equal : Equates .equal true
  | strictNotEqual : Equates .strictNotEqual false
  | notEqual : Equates .notEqual false

/-- The operators that compare are those that the scan takes for comparisons. -/
theorem equates_iff {op : BinaryOp} {equal : Bool} :
    Equates op equal ↔ op.comparesEqual? = some equal := by
  constructor
  · rintro (_ | _ | _ | _) <;> rfl
  · intro h
    cases op <;> cases h <;> constructor

/-- A comparison of `process.env.NODE_ENV` with a text, on either side of the operator. -/
inductive Compares : BinaryOp → Expr → Expr → String → Bool → Prop where
  | left {op : BinaryOp} {env literal : Expr} {text : String} {equal : Bool}
      (henv : env.dotted? = some ["process", "env", "NODE_ENV"])
      (htext : literal.withoutParens = .literal (.string text)) (hop : Equates op equal) :
      Compares op env literal text equal
  | right {op : BinaryOp} {env literal : Expr} {text : String} {equal : Bool}
      (htext : literal.withoutParens = .literal (.string text))
      (henv : env.dotted? = some ["process", "env", "NODE_ENV"]) (hop : Equates op equal) :
      Compares op literal env text equal

/-- A comparison with `process.env.NODE_ENV` has it on one side and a text on the other. -/
theorem comparedMode?_eq_some_iff {left right : Expr} {text : String} :
    comparedMode? left right = some text ↔
      left.isNodeEnv = true ∧ right.withoutParens = .literal (.string text) ∨
        left.withoutParens = .literal (.string text) ∧ right.isNodeEnv = true := by
  simp only [Expr.isNodeEnv_iff]
  rw [comparedMode?]
  split
  · rename_i found hright
    -- the text stands on the right, so `process.env.NODE_ENV` does not
    rw [Option.ite_none_right_eq_some, Expr.isNodeEnv_iff, Expr.dotted?_withoutParens,
      ← Expr.dotted?_withoutParens right, hright]
    simp [Expr.dotted?]
  · rename_i found hleft _
    rw [Option.ite_none_right_eq_some, Expr.isNodeEnv_iff, Expr.dotted?_withoutParens,
      ← Expr.dotted?_withoutParens left, hleft]
    simp [Expr.dotted?, and_comm]
  · rename_i hleft hright
    refine iff_of_false (by simp) ?_
    rintro (⟨-, htext⟩ | ⟨htext, -⟩)
    · exact hright text htext
    · exact hleft text htext

/-- The comparisons of the fragment are those that the scan sees. -/
theorem compares_iff {op : BinaryOp} {left right : Expr} {text : String} {equal : Bool} :
    Compares op left right text equal ↔
      op.comparesEqual? = some equal ∧ comparedMode? left right = some text := by
  rw [← equates_iff, comparedMode?_eq_some_iff, Expr.isNodeEnv_iff, Expr.isNodeEnv_iff]
  constructor
  · rintro (⟨henv, htext, hop⟩ | ⟨htext, henv, hop⟩)
    · exact ⟨hop, Or.inl ⟨henv, htext⟩⟩
    · exact ⟨hop, Or.inr ⟨htext, henv⟩⟩
  · rintro ⟨hop, ⟨henv, htext⟩ | ⟨htext, henv⟩⟩
    · exact .left henv htext hop
    · exact .right htext henv hop

/-! ## Conditions -/

/-- Whether an expression is a condition made of others. -/
def Expr.isCompound : Expr → Bool
  | .paren _ => true
  | .unary .not _ => true
  | .logical .and _ _ => true
  | .logical .or _ _ => true
  | _ => false

/-- A test without effect of which nothing else is known: it is not made of other conditions, and it
does not compare the mode. -/
structure IsFree (quiet : Expr → Prop) (e : Expr) : Prop where
  quiet : quiet e
  simple : e.isCompound = false
  uncompared : ∀ op left right, e = .binary op left right →
    ∀ text equal, ¬ Compares op left right text equal

variable {quiet : Expr → Prop} {mode : Mode}

/-- Conditions on the mode and on free tests, which are those that count as quiet. -/
inductive IsCondition (quiet : Expr → Prop) : Expr → Prop where
  | paren {inner : Expr} (h : IsCondition quiet inner) : IsCondition quiet (.paren inner)
  | not {operand : Expr} (h : IsCondition quiet operand) : IsCondition quiet (.unary .not operand)
  | and {left right : Expr} (hleft : IsCondition quiet left) (hright : IsCondition quiet right) :
      IsCondition quiet (.logical .and left right)
  | or {left right : Expr} (hleft : IsCondition quiet left) (hright : IsCondition quiet right) :
      IsCondition quiet (.logical .or left right)
  | compares {op : BinaryOp} {left right : Expr} {text : String} {equal : Bool}
      (h : Compares op left right text equal) : IsCondition quiet (.binary op left right)
  | free {e : Expr} (h : IsFree quiet e) : IsCondition quiet e

/-- How an evaluation of a condition can come out when `process.env.NODE_ENV` is the mode. -/
inductive Tests (quiet : Expr → Prop) (mode : Mode) : Expr → Bool → Prop where
  | paren {inner : Expr} {holds : Bool} (h : Tests quiet mode inner holds) :
      Tests quiet mode (.paren inner) holds
  | not {operand : Expr} {holds : Bool} (h : Tests quiet mode operand holds) :
      Tests quiet mode (.unary .not operand) (!holds)
  | andSkips {left right : Expr} (h : Tests quiet mode left false) :
      Tests quiet mode (.logical .and left right) false
  | andGoesOn {left right : Expr} {holds : Bool} (hleft : Tests quiet mode left true)
      (hright : Tests quiet mode right holds) : Tests quiet mode (.logical .and left right) holds
  | orSkips {left right : Expr} (h : Tests quiet mode left true) :
      Tests quiet mode (.logical .or left right) true
  | orGoesOn {left right : Expr} {holds : Bool} (hleft : Tests quiet mode left false)
      (hright : Tests quiet mode right holds) : Tests quiet mode (.logical .or left right) holds
  | compares {op : BinaryOp} {left right : Expr} {text : String} {equal : Bool}
      (h : Compares op left right text equal) :
      Tests quiet mode (.binary op left right) ((text == mode.text) == equal)
  | free {e : Expr} (h : IsFree quiet e) (holds : Bool) : Tests quiet mode e holds

/-- A test in parentheses is tested as it is without. -/
theorem tests_paren_iff {inner : Expr} {holds : Bool} :
    Tests quiet mode (.paren inner) holds ↔ Tests quiet mode inner holds := by
  constructor
  · intro h
    cases h with
    | paren h => exact h
    | free h => cases h.simple
  · exact .paren

/-- A negated test holds if the test does not. -/
theorem tests_not_iff {operand : Expr} {holds : Bool} :
    Tests quiet mode (.unary .not operand) holds ↔ Tests quiet mode operand (!holds) := by
  constructor
  · intro h
    cases h with
    | not h => rwa [Bool.not_not]
    | free h => cases h.simple
  · intro h
    rw [← Bool.not_not holds]
    exact .not h

/-- A conjunction ends with the first test that does not hold. -/
theorem tests_and_iff {left right : Expr} {holds : Bool} :
    Tests quiet mode (.logical .and left right) holds ↔
      holds = false ∧ Tests quiet mode left false ∨
        Tests quiet mode left true ∧ Tests quiet mode right holds := by
  constructor
  · intro h
    cases h with
    | andSkips h => exact Or.inl ⟨rfl, h⟩
    | andGoesOn hleft hright => exact Or.inr ⟨hleft, hright⟩
    | free h => cases h.simple
  · rintro (⟨rfl, h⟩ | ⟨hleft, hright⟩)
    · exact .andSkips h
    · exact .andGoesOn hleft hright

/-- A disjunction ends with the first test that holds. -/
theorem tests_or_iff {left right : Expr} {holds : Bool} :
    Tests quiet mode (.logical .or left right) holds ↔
      holds = true ∧ Tests quiet mode left true ∨
        Tests quiet mode left false ∧ Tests quiet mode right holds := by
  constructor
  · intro h
    cases h with
    | orSkips h => exact Or.inl ⟨rfl, h⟩
    | orGoesOn hleft hright => exact Or.inr ⟨hleft, hright⟩
    | free h => cases h.simple
  · rintro (⟨rfl, h⟩ | ⟨hleft, hright⟩)
    · exact .orSkips h
    · exact .orGoesOn hleft hright

/-- The scan decides a comparison by the mode. -/
theorem holdsIn?_of_compares {op : BinaryOp} {left right : Expr} {text : String} {equal : Bool}
    (h : Compares op left right text equal) :
    (Expr.binary op left right).holdsIn? mode = some ((text == mode.text) == equal) := by
  obtain ⟨hop, htext⟩ := compares_iff.mp h
  simp only [Expr.holdsIn?, hop, htext]

/-- The scan does not decide a test that has nothing to do with the mode. -/
theorem holdsIn?_of_isFree {e : Expr} (h : IsFree quiet e) : e.holdsIn? mode = none := by
  fun_cases Expr.holdsIn? mode e with
  | case5 op left right equal text htext hop =>
    exact absurd (compares_iff.mpr ⟨hop, htext⟩) (h.uncompared op left right rfl text equal)
  | case6 => rfl
  | case7 => rfl
  | _ => cases h.simple

/-- A comparison holds in a mode as the scan decides it. -/
theorem tests_compares_iff {op : BinaryOp} {left right : Expr} {text : String} {equal holds : Bool}
    (h : Compares op left right text equal) :
    Tests quiet mode (.binary op left right) holds ↔ holds = ((text == mode.text) == equal) := by
  constructor
  · intro htest
    cases htest with
    | compares h' =>
      exact Option.some.inj ((holdsIn?_of_compares h').symm.trans (holdsIn?_of_compares h))
    | free hfree => exact absurd h (hfree.uncompared _ _ _ rfl _ _)
  · rintro rfl
    exact .compares h

/-- A conjunction may fail where its left side may, or where that may hold and its right side may
fail; it may hold where both sides may. -/
theorem and?_ne_some_iff {left right : Option Bool} {holds : Bool} :
    and? left right ≠ some (!holds) ↔
      holds = false ∧ left ≠ some true ∨ left ≠ some false ∧ right ≠ some (!holds) := by
  rcases left with _ | _ | _ <;> rcases right with _ | _ | _ <;> cases holds <;> decide

/-- A disjunction may hold where its left side may, or where that may fail and its right side may
hold; it may fail where both sides may. -/
theorem or?_ne_some_iff {left right : Option Bool} {holds : Bool} :
    or? left right ≠ some (!holds) ↔
      holds = true ∧ left ≠ some false ∨ left ≠ some true ∧ right ≠ some (!holds) := by
  rcases left with _ | _ | _ <;> rcases right with _ | _ | _ <;> cases holds <;> decide

/-- A condition can come out one way exactly if it is not known to come out the other. -/
theorem tests_iff {test : Expr} (h : IsCondition quiet test) {holds : Bool} :
    Tests quiet mode test holds ↔ test.holdsIn? mode ≠ some (!holds) := by
  induction h generalizing holds with
  | paren h ih => rw [tests_paren_iff, ih, Expr.holdsIn?]
  | @not operand h ih =>
    -- in three values, negation swaps the two that are known
    rw [tests_not_iff, ih, Expr.holdsIn?]
    rcases operand.holdsIn? mode with _ | _ | _ <;> cases holds <;> decide
  | and hleft hright ihleft ihright =>
    rw [tests_and_iff, ihleft, ihleft, ihright, Expr.holdsIn?, and?_ne_some_iff]
    rfl
  | or hleft hright ihleft ihright =>
    rw [tests_or_iff, ihleft, ihleft, ihright, Expr.holdsIn?, or?_ne_some_iff]
    rfl
  | compares h =>
    rw [tests_compares_iff h, holdsIn?_of_compares h, Ne, Option.some.injEq]
    cases holds <;> simp
  | free h =>
    rw [holdsIn?_of_isFree h]
    exact iff_of_true (.free h holds) (by simp)

/-! ## Tests that do not depend on the mode -/

/-- The truth of a test that does not mention the mode does not follow from it. -/
theorem Expr.holdsIn?_eq_none {mode : Mode} {test : Expr}
    (h : ∀ e ∈ test.nodes, e.isNodeEnv = false) : test.holdsIn? mode = none := by
  fun_induction Expr.holdsIn? mode test with
  | case1 inner ih => exact ih fun e he => h e (List.mem_cons_of_mem _ he)
  | case2 operand ih => rw [ih fun e he => h e (List.mem_cons_of_mem _ he), Option.map_none]
  | case3 left right ihleft ihright =>
    rw [ihleft fun e he => h e (List.mem_cons_of_mem _ (List.mem_append_left _ he)),
      ihright fun e he => h e (List.mem_cons_of_mem _ (List.mem_append_right _ he))]
    rfl
  | case4 left right ihleft ihright =>
    rw [ihleft fun e he => h e (List.mem_cons_of_mem _ (List.mem_append_left _ he)),
      ihright fun e he => h e (List.mem_cons_of_mem _ (List.mem_append_right _ he))]
    rfl
  | case5 op left right equal text htext hop =>
    -- one of the two sides would be `process.env.NODE_ENV`
    rcases comparedMode?_eq_some_iff.mp htext with ⟨henv, -⟩ | ⟨-, henv⟩
    · have hleft : left ∈ (Expr.binary op left right).nodes :=
        List.mem_cons_of_mem _ (List.mem_append_left _ List.mem_cons_self)
      rw [h left hleft] at henv
      cases henv
    · have hright : right ∈ (Expr.binary op left right).nodes :=
        List.mem_cons_of_mem _ (List.mem_append_right _ List.mem_cons_self)
      rw [h right hright] at henv
      cases henv
  | case6 => rfl
  | case7 => rfl

end NamedExports.Script
