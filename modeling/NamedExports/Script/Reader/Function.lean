import NamedExports.Script.Reader

/-!
# Functions and classes

Rules for parameters, function bodies, methods and classes.
-/

namespace NamedExports.Script.Read

/-! ## Functions -/

/-- A declared name or pattern, with an initializer if one follows. -/
def bindingElement (read : Readers) (scope : Scope) : Read Expr := do
  let target ← read (.binding scope)
  if ← eat (.assign .plain) then
    return .assign .plain target (← read (.assignment scope.bracketed))
  else return target

/-- Parameters after the opening parenthesis.  A rest parameter is the last, without a comma. -/
def parameters (read : Readers) (scope : Scope) : Nat → Read (List Expr)
  | 0 => fail .nestingLimit
  | fuel + 1 => do
    if ← eat .rightParen then return []
    if ← eat .ellipsis then
      let target ← read (.binding scope)
      expect .rightParen
      return [.spread target]
    let first ← bindingElement read scope
    if ← eat .rightParen then return [first]
    expect .comma
    return first :: (← parameters read scope fuel)

/-- Statements in braces. -/
def bracedStatements (read : Readers) (fuel : Nat) (scope : Scope) : Read (List Stmt) := do
  expect .leftBrace
  untilMark .rightBrace (read (.statement scope false)) fuel

/-- The parameters and body of a function. -/
def functionRest (read : Readers) (fuel : Nat) (name : Option String) (async generator : Bool) :
    Read Code := do
  let scope := Scope.ofFunction async generator
  expect .leftParen
  let params ← parameters read scope fuel
  let body ← bracedStatements read fuel scope
  return .mk name async generator params body

/-- A function from the keyword on.  The name of a function expression is read as inside it, that
of a declaration as outside. -/
def function (read : Readers) (fuel : Nat) (scope : Scope) (async isDeclaration : Bool) :
    Read Code := do
  expectKeyword "function"
  let generator ← eat (.binary .multiply)
  let nameScope := if isDeclaration then scope else Scope.ofFunction async generator
  let name ← if ← at_ .leftParen then pure none else some <$> name nameScope
  functionRest read fuel name async generator

/-! ## Properties and methods -/

/-- A property key: the static text it denotes when it is not computed, the key as an expression,
and the word it was written as. -/
structure Key where
  text : Option String
  expr : Expr
  word : Option Token

/-- A property key. -/
def key (read : Readers) (scope : Scope) : Read Key := do
  let token ← token
  match token.kind with
  | .word word _ => do
    advance
    return ⟨some word, .literal (.string word), some token⟩
  | .literal (.string text) => do
    advance
    return ⟨some text, .literal (.string text), none⟩
  | .literal (.number text) => do
    advance
    return ⟨some text, .literal (.number text), none⟩
  | .literal (.bigint text) => do
    advance
    return ⟨some text, .literal (.bigint text), none⟩
  | .punct .leftBracket => do
    advance
    let e ← read (.assignment scope.bracketed)
    expect .rightBracket
    return ⟨none, e, none⟩
  | _ => unexpected

/-- The kinds of method. -/
inductive MethodKind where
  | plain | getter | setter
  deriving DecidableEq

/-- The words before a property key that say what kind of property it is. -/
structure Modifiers where
  async : Bool
  generator : Bool
  kind : MethodKind

/-- Whether a token after a word means that the word is a key and no modifier. -/
def endsKey (token : Token) : Bool :=
  match token.kind with
  | .punct mark =>
    mark == .leftParen || mark == .comma || mark == .colon || mark == .rightBrace ||
      mark == .assign .plain || mark == .semicolon
  | .endOfText => true
  | _ => false

/-- Whether the current word is a modifier: a key follows it, and a line break does not where one
may not. -/
def atModifier (word : String) (sameLine : Bool) : Read Bool := do
  if ← atKeyword word then
    let following ← peek
    return !endsKey following && !(sameLine && following.newlineBefore)
  else return false

/-- Moves past a modifier, which has no escapes, if one stands here. -/
def eatModifier (word : String) (sameLine : Bool) : Read Bool := do
  if ← atModifier word sameLine then
    advanceKeyword
    return true
  else return false

/-- The modifiers before a key. -/
def modifiers : Read Modifiers := do
  if ← eatModifier "async" true then
    return ⟨true, ← eat (.binary .multiply), .plain⟩
  if ← eat (.binary .multiply) then return ⟨false, true, .plain⟩
  if ← at_ (.binary .multiply) then unexpected
  if ← eatAccessor "get" then return ⟨false, false, .getter⟩
  if ← eatAccessor "set" then return ⟨false, false, .setter⟩
  return ⟨false, false, .plain⟩
where
  /-- Moves past the word of an accessor; a generator has none. -/
  eatAccessor (word : String) : Read Bool := do
    if ← atKeyword word then
      let following ← peek
      if following.kind == .punct (.binary .multiply) then return false
    eatModifier word false

/-- The parameters and body of a method, an accessor with the right number of parameters. -/
def method (read : Readers) (fuel : Nat) (modifiers : Modifiers) : Read Expr := do
  let code ← functionRest read fuel none modifiers.async modifiers.generator
  match modifiers.kind, code with
  | .plain, _ => pure ()
  | .getter, .mk _ _ _ [] _ => pure ()
  | .setter, .mk _ _ _ [.spread _] _ => fail .invalidAccessor
  | .setter, .mk _ _ _ [_] _ => pure ()
  | _, _ => fail .invalidAccessor
  return .function code

/-! ## Classes -/

/-- Decorators, each an expression after an at sign. -/
def decorators (read : Readers) (scope : Scope) : Nat → Read (List Expr)
  | 0 => fail .nestingLimit
  | fuel + 1 => do
    if ← eat .at then
      let first ← read (.leftHandSide scope)
      return first :: (← decorators read scope fuel)
    else return []

/-- Whether the current word is a modifier of a class element. -/
def atElementModifier (word : String) (sameLine : Bool) : Read Bool := do
  if ← atKeyword word then
    let following ← peek
    if following.kind == .punct .leftBrace then return word == "static"
    return !endsKey following && !(sameLine && following.newlineBefore)
  else return false

/-- A class element's key, which may be private. -/
def elementKey (read : Readers) (scope : Scope) : Read Key := do
  match ← kind with
  | .privateWord name =>
    if name == "constructor" then fail .invalidClassElement
    advance
    return ⟨none, .other (.privateName name) [], none⟩
  | _ => key read scope

/-- Requires that the name of a class element fits what kind of element it is. -/
def checkElement (isStatic isMethod : Bool) (modifiers : Modifiers) (key : Key) : Read Unit := do
  if isStatic && key.text == some "prototype" then fail .invalidClassElement
  if !isStatic && isMethod && key.text == some "constructor" &&
      (modifiers.kind != .plain || modifiers.async || modifiers.generator) then
    fail .invalidClassElement
  if !isMethod && key.text == some "constructor" then fail .invalidClassElement

/-- The parts of one class element: decorators, key and value. -/
def classElement (read : Readers) (fuel : Nat) (scope : Scope) : Read (List Expr) := do
  if ← eat .semicolon then return []
  let marks ← decorators read scope fuel
  let isStatic ← if ← atElementModifier "static" false then do
      advanceKeyword
      pure true
    else pure false
  if ← (if isStatic then at_ .leftBrace else pure false) then
    let body ← bracedStatements read fuel Scope.ofStaticBlock
    return marks ++ [.function (.mk none false false [] body)]
  let _ ← if ← atElementModifier "accessor" true then do
      advanceKeyword
      pure true
    else pure false
  let modifiers ← modifiers
  let key ← elementKey read scope
  if ← at_ .leftParen then
    checkElement isStatic true modifiers key
    return marks ++ [key.expr, ← method read fuel modifiers]
  if modifiers.async || modifiers.generator || modifiers.kind != .plain then unexpected
  checkElement isStatic false modifiers key
  let value ← if ← eat (.assign .plain) then do
      pure [← read (.assignment Scope.ofField)]
    else pure []
  unless ← eat .semicolon do
    unless ← atStatementEnd do fail .missingSemicolon
  return marks ++ key.expr :: value

/-- A class from the keyword on: its name, its heritage and its elements. -/
def classRest (read : Readers) (fuel : Nat) (scope : Scope) :
    Read (Option String × List Expr) := do
  expectKeyword "class"
  let named ← match ← kind with
    | .word word _ => pure (word != "extends")
    | _ => pure false
  let name ← if named then some <$> name scope else pure none
  let heritage ← if ← eatKeyword "extends" then do
      pure [← read (.leftHandSide scope)]
    else pure []
  expect .leftBrace
  let elements ← untilMark .rightBrace (classElement read fuel scope.bracketed) fuel
  return (name, heritage ++ elements.flatten)

end NamedExports.Script.Read
