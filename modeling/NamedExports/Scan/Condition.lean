import NamedExports.Mode
import NamedExports.Scan.Shape

/-!
# Conditions on the mode

`Expr.holdsIn?` evaluates a condition over `process.env.NODE_ENV` in three values: true, false, and
unknown for whatever depends on more than the mode.
-/

namespace NamedExports.Script

/-- Conjunction in three values: false if either side is. -/
def and? : Option Bool → Option Bool → Option Bool
  | some false, _ => some false
  | _, some false => some false
  | some true, some true => some true
  | _, _ => none

/-- Disjunction in three values: true if either side is. -/
def or? : Option Bool → Option Bool → Option Bool
  | some true, _ => some true
  | _, some true => some true
  | some false, some false => some false
  | _, _ => none

/-- Whether an operator compares for equality or for inequality. -/
def BinaryOp.comparesEqual? : BinaryOp → Option Bool
  | .strictEqual | .equal => some true
  | .strictNotEqual | .notEqual => some false
  | _ => none

/-- The text that `process.env.NODE_ENV` is compared with, on either side. -/
def comparedMode? (left right : Expr) : Option String :=
  match left.withoutParens, right.withoutParens with
  | env, .literal (.string text) => if env.isNodeEnv then some text else none
  | .literal (.string text), env => if env.isNodeEnv then some text else none
  | _, _ => none

/-- The truth of a condition in a mode, when it follows from the mode alone. -/
def Expr.holdsIn? (mode : Mode) : Expr → Option Bool
  | .paren inner => inner.holdsIn? mode
  | .unary .not operand => (operand.holdsIn? mode).map (!·)
  | .logical .and left right => and? (left.holdsIn? mode) (right.holdsIn? mode)
  | .logical .or left right => or? (left.holdsIn? mode) (right.holdsIn? mode)
  | .binary op left right =>
    match op.comparesEqual?, comparedMode? left right with
    | some equal, some text => some ((text == mode.text) == equal)
    | _, _ => none
  | _ => none

end NamedExports.Script
