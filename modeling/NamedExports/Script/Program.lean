import NamedExports.Script.Reader.Statement

/-!
# Reading programs

`Program.read` reads program text.  The rules of the grammar contain each other, so they are tied
together with fuel: each level of nesting has less of it than the level around it, and the text's
length bounds how deep rules can nest.
-/

namespace NamedExports.Script

/-- The reader for each goal, for nesting up to the fuel. -/
def readers : Nat → {α : Type} → Goal α → Read α
  | 0, _, _ => Read.fail .nestingLimit
  | fuel + 1, _, goal =>
    let inner : Readers := fun goal => readers fuel goal
    match goal with
    | .assignment scope => Read.assignment inner fuel scope
    | .expression scope => Read.expression inner fuel scope
    | .binary scope level => Read.binary inner fuel scope level none
    | .unary scope => Read.unary inner fuel scope none
    | .constructed scope => Read.constructed inner fuel scope
    | .leftHandSide scope => Read.leftHandSide inner fuel scope none
    | .binding scope => Read.binding inner fuel scope
    | .statement scope single => Read.statement inner fuel scope single

/-- The statements up to the end of the text. -/
def Read.toEnd (read : Readers) : Nat → Read (List Stmt)
  | 0 => fail .nestingLimit
  | fuel + 1 => do
    if (← kind) == .endOfText then return []
    let first ← read (.statement Scope.top false)
    return first :: (← toEnd read fuel)

/-- Reads a program.  A shorthand initializer outside patterns makes the text no program. -/
def Program.read (text : List Char) : Except SyntaxError Program := do
  let token ← Token.first text
  let fuel := 8 * text.length + 64
  let (program, state) ← (Read.toEnd (readers fuel) fuel).run
    { token, initializers := 0, exported := [] }
  if state.initializers == 0 then return program else throw .coverInitializer

end NamedExports.Script
