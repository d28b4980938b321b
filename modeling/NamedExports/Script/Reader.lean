import NamedExports.Script.Pattern
import NamedExports.Script.Regex

/-!
# Reading with one token of lookahead

The state, moves and tests that the grammar is written with, and `Goal`, the parts of a program that
contain each other.  A grammar rule takes a reader for every goal as an argument; the rules are tied
together, each level of nesting with less fuel than the one around it, in
`NamedExports.Script.Program`.
-/

namespace NamedExports.Script

/-- Where in a program a rule is applied. -/
structure Scope where
  /-- Whether `in` is an operator here; it is not in the head of a `for`. -/
  allowIn : Bool
  /-- Whether this is the body of a generator, where `yield` is an operator. -/
  inGenerator : Bool
  /-- Whether this is the body of an async function, where `await` is an operator. -/
  inAsync : Bool
  /-- Whether `return` may stand here. -/
  allowReturn : Bool

namespace Scope

/-- The top of a program. -/
def top : Scope := ⟨true, false, false, true⟩

/-- Inside brackets. -/
def bracketed (scope : Scope) : Scope := { scope with allowIn := true }

/-- In the parameters and body of a function. -/
def ofFunction (async generator : Bool) : Scope := ⟨true, generator, async, true⟩

/-- In the initializer of a class field. -/
def ofField : Scope := ⟨true, false, false, false⟩

/-- In a static block of a class. -/
def ofStaticBlock : Scope := ⟨true, false, true, false⟩

end Scope

/-- What reading has come to. -/
structure ReadState where
  /-- The current token. -/
  token : Token
  /-- Shorthand initializers read so far that have not turned out to be in a pattern. -/
  initializers : Nat
  /-- The names given by export declarations so far, latest first. -/
  exported : List String

/-- A reader of part of a program. -/
abbrev Read (α : Type) := StateT ReadState (Except SyntaxError) α

/-- The parts of a program that contain each other. -/
inductive Goal : Type → Type where
  /-- An expression without commas at its top. -/
  | assignment (scope : Scope) : Goal Expr
  /-- An expression. -/
  | expression (scope : Scope) : Goal Expr
  /-- An expression of operators that bind tighter than the given level. -/
  | binary (scope : Scope) (level : Nat) : Goal Expr
  /-- An operand with the operators before and after it. -/
  | unary (scope : Scope) : Goal Expr
  /-- What `new` constructs. -/
  | constructed (scope : Scope) : Goal Expr
  /-- A name, member access or call. -/
  | leftHandSide (scope : Scope) : Goal Expr
  /-- A declared name or pattern. -/
  | binding (scope : Scope) : Goal Expr
  /-- A statement; `single` in a place that takes one statement and no declaration. -/
  | statement (scope : Scope) (single : Bool) : Goal Stmt

/-- A reader for every goal. -/
abbrev Readers := {α : Type} → Goal α → Read α

namespace Read

/-- The current token. -/
def token : Read Token := return (← get).token

/-- The current token's kind. -/
def kind : Read TokenKind := return (← get).token.kind

/-- Gives up. -/
def fail {α : Type} (reason : SyntaxError) : Read α := throw reason

/-- Gives up at the current token. -/
def unexpected {α : Type} : Read α := do
  match ← kind with
  | .endOfText => fail .unexpectedEnd
  | _ => fail .unexpectedToken

/-- Makes a token the current one. -/
def setToken (token : Token) : Read Unit := modify fun s => { s with token }

/-- Moves to the next token. -/
def advance : Read Unit := do
  setToken (← (← token).after)

/-- The token after the current one. -/
def peek : Read Token := do
  (← token).after

/-- Whether the current token is a punctuator. -/
def at_ (mark : Punct) : Read Bool := return (← kind) == .punct mark

/-- Moves past a punctuator if it is the current token. -/
def eat (mark : Punct) : Read Bool := do
  if ← at_ mark then
    advance
    return true
  else return false

/-- Moves past a punctuator that has to stand here. -/
def expect (mark : Punct) : Read Unit := do
  unless ← eat mark do unexpected

/-- Whether a token is a keyword. -/
def isKeyword (token : Token) (word : String) : Bool :=
  match token.kind with
  | .word name _ => name == word
  | _ => false

/-- Whether a token is a keyword written without escapes. -/
def isPlainKeyword (token : Token) (word : String) : Bool :=
  token.kind == .word word false

/-- Whether the current token is a keyword. -/
def atKeyword (word : String) : Read Bool := return isKeyword (← token) word

/-- Moves past the keyword that is the current token; keywords have no escapes. -/
def advanceKeyword : Read Unit := do
  match ← kind with
  | .word _ true => fail .escapedKeyword
  | _ => advance

/-- Moves past a keyword if it is the current token. -/
def eatKeyword (word : String) : Read Bool := do
  if ← atKeyword word then
    advanceKeyword
    return true
  else return false

/-- Moves past a keyword that has to stand here. -/
def expectKeyword (word : String) : Read Unit := do
  unless ← eatKeyword word do unexpected

/-- Whether a statement may end before the current token. -/
def atStatementEnd : Read Bool := do
  let token ← token
  return token.newlineBefore || token.kind == .punct .semicolon || token.kind == .punct .rightBrace
    || token.kind == .endOfText

/-- Ends a statement, with a semicolon or without. -/
def endStatement : Read Unit := do
  if ← atStatementEnd then
    let _ ← eat .semicolon
  else fail .missingSemicolon

/-- Accounts for the shorthand initializers of an expression that turned out to be a pattern. -/
def settle (initializers : Nat) : Read Unit :=
  modify fun s => { s with initializers := s.initializers - initializers }

/-- Requires that an expression can be assigned to, with `=`, `of` or `in`. -/
def requireTarget (e : Expr) : Read Expr :=
  match e with
  | .object _ | .other .array _ =>
    match e.asTarget? with
    | some count => do
      settle count
      return e
    | none => fail .invalidTarget
  | e => if e.isSimpleTarget then return e.withoutParens else fail .invalidTarget

/-- Requires that an expression is a name or member access. -/
def requireSimpleTarget (e : Expr) : Read Expr :=
  if e.isSimpleTarget then return e.withoutParens else fail .invalidTarget

/-- Requires that an expression can be declared as a parameter. -/
def requireBinding (scope : Scope) (e : Expr) : Read Unit :=
  match e.asBinding? with
  | some count =>
    if scope.inAsync && e.boundNames.contains "await" then fail .misplacedAwait else settle count
  | none => fail .invalidTarget

/-- Records a name that an export declaration gives. -/
def recordExport (name : String) : Read Unit := do
  if (← get).exported.contains name then fail .duplicateExport
  else modify fun s => { s with exported := name :: s.exported }

/-- Reads items up to a closing punctuator, separated by commas; a comma may follow the last. -/
def commaList {α : Type} (close : Punct) (item : Read α) : Nat → Read (List α)
  | 0 => fail .nestingLimit
  | fuel + 1 => do
    if ← eat close then return []
    let first ← item
    if ← eat close then return [first]
    expect .comma
    return first :: (← commaList close item fuel)

/-- Reads items up to a closing punctuator. -/
def untilMark {α : Type} (close : Punct) (item : Read α) : Nat → Read (List α)
  | 0 => fail .nestingLimit
  | fuel + 1 => do
    if ← eat close then return []
    return (← item) :: (← untilMark close item fuel)

end Read

/-! ## Names -/

/-- Words that are never names. -/
def reservedWords : List String :=
  ["break", "case", "catch", "class", "const", "continue", "debugger", "default", "delete", "do",
    "else", "enum", "export", "extends", "false", "finally", "for", "function", "if", "import",
    "in", "instanceof", "new", "null", "return", "super", "switch", "this", "throw", "true", "try",
    "typeof", "var", "void", "while", "with"]

/-- Whether a word can be a name in a scope. -/
def isNameIn (scope : Scope) (word : String) : Bool :=
  !reservedWords.contains word && !(scope.inGenerator && word == "yield") &&
    !(scope.inAsync && word == "await")

namespace Read

/-- Reads a name. -/
def name (scope : Scope) : Read String := do
  match ← kind with
  | .word word _ =>
    if isNameIn scope word then
      advance
      return word
    else unexpected
  | _ => unexpected

/-- Reads a word of any kind, as after a dot. -/
def anyWord : Read String := do
  match ← kind with
  | .word word _ =>
    advance
    return word
  | _ => unexpected

end Read

end NamedExports.Script
