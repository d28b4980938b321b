import NamedExports.Script.Reader.Function

/-!
# Expressions

Rules for expressions, from literals up to assignments.  Where an arrow function may start, the
text before the arrow is read as an expression first: a parenthesized list, or the arguments of a
call of `async`.  A rule that continues such an expression takes it as the argument `given`.
-/

namespace NamedExports.Script.Read

/-! ## Literals and lists -/

/-- The pieces of a template after the current one: its texts and its substitutions. -/
def templateRest (read : Readers) (scope : Scope) (tagged : Bool) (text : Option String)
    (last : Bool) : Nat → Read (List Expr)
  | 0 => fail .nestingLimit
  | fuel + 1 => do
    if text.isNone && !tagged then fail .invalidEscape
    advance
    if last then return []
    let value ← read (.expression scope.bracketed)
    unless ← at_ .rightBrace do unexpected
    let piece ← (← token).asTemplate
    setToken piece
    match piece.kind with
    | .template text last => return value :: (← templateRest read scope tagged text last fuel)
    | _ => unexpected

/-- A template: a literal without substitutions, or its substitutions. -/
def template (read : Readers) (fuel : Nat) (scope : Scope) (tagged : Bool) (text : Option String)
    (last : Bool) : Read Expr := do
  let parts ← templateRest read scope tagged text last fuel
  match last, text with
  | true, some text => return .literal (.template text)
  | _, _ => return .other .template parts

/-- The elements of an array after the opening bracket.  A comma after a spread element leaves a
hole, so that the element is not the last. -/
def elements (read : Readers) (scope : Scope) : Nat → Read (List Expr)
  | 0 => fail .nestingLimit
  | fuel + 1 => do
    if ← eat .rightBracket then return []
    if ← eat .comma then return .other .hole [] :: (← elements read scope fuel)
    let isSpread ← eat .ellipsis
    let value ← read (.assignment scope)
    let first := if isSpread then .spread value else value
    if ← eat .rightBracket then return [first]
    expect .comma
    if isSpread && (← at_ .rightBracket) then
      advance
      return [first, .other .hole []]
    return first :: (← elements read scope fuel)

/-- A call argument. -/
def argument (read : Readers) (scope : Scope) : Read Expr := do
  if ← eat .ellipsis then return .spread (← read (.assignment scope.bracketed))
  else read (.assignment scope.bracketed)

/-- Call arguments after the opening parenthesis. -/
def arguments (read : Readers) (fuel : Nat) (scope : Scope) : Read (List Expr) :=
  commaList .rightParen (argument read scope) fuel

/-! ## Object literals -/

/-- One entry of an object literal. -/
def objectMember (read : Readers) (fuel : Nat) (scope : Scope) : Read Member := do
  if ← eat .ellipsis then return .spread (← read (.assignment scope))
  let modifiers ← modifiers
  let key ← key read scope
  if ← at_ .leftParen then return .property key.expr (← method read fuel modifiers)
  if modifiers.async || modifiers.generator || modifiers.kind != .plain then unexpected
  if ← eat .colon then return .property key.expr (← read (.assignment scope))
  match key.word with
  | none => unexpected
  | some token =>
    match token.kind with
    | .word word _ => do
      unless isNameIn scope word do unexpected
      if ← eat (.assign .plain) then
        let value ← read (.assignment scope)
        modify fun s => { s with initializers := s.initializers + 1 }
        return .property key.expr (.other .defaulted [.ident word, value])
      else return .property key.expr (.ident word)
    | _ => unexpected

/-- An object literal. -/
def objectLiteral (read : Readers) (fuel : Nat) (scope : Scope) : Read Expr := do
  expect .leftBrace
  return .object (← commaList .rightBrace (objectMember read fuel scope.bracketed) fuel)

/-! ## Parentheses and arrows -/

/-- What stands in parentheses that may be an expression or the parameters of an arrow function. -/
structure Parenthesized where
  items : List Expr
  /-- Whether only parameters are written like this: nothing at all, a rest parameter, or a comma
  at the end. -/
  onlyParameters : Bool

/-- What stands in parentheses, after the opening one. -/
def parenthesizedItems (read : Readers) (scope : Scope) : Nat → Read Parenthesized
  | 0 => fail .nestingLimit
  | fuel + 1 => do
    if ← eat .rightParen then return ⟨[], true⟩
    if ← eat .ellipsis then
      let target ← read (.binding scope)
      expect .rightParen
      return ⟨[.spread target], true⟩
    let first ← read (.assignment scope)
    if ← eat .rightParen then return ⟨[first], false⟩
    expect .comma
    let rest ← parenthesizedItems read scope fuel
    return ⟨first :: rest.items, rest.onlyParameters⟩

/-- Parenthesized items as an expression. -/
def Parenthesized.asExpr (list : Parenthesized) : Read Expr :=
  if list.onlyParameters then unexpected
  else
    match list.items with
    | [item] => return .paren item
    | items => return .paren (.sequence items)

/-- Requires that every item can be declared as a parameter; a rest parameter is the last. -/
def requireParameters (scope : Scope) : List Expr → Read Unit
  | [] => return ()
  | [.spread target] => requireBinding scope target
  | item :: rest => do
    requireBinding scope item
    requireParameters scope rest

/-- Whether an arrow stands here, on the line of the token before it. -/
def atArrow : Read Bool := do
  let token ← token
  return token.kind == .punct .arrow && !token.newlineBefore

/-- The arrow and body of an arrow function. -/
def arrowRest (read : Readers) (fuel : Nat) (scope : Scope) (async : Bool) (params : List Expr) :
    Read Expr := do
  requireParameters { scope with inAsync := async } params
  expect .arrow
  if ← at_ .leftBrace then
    let body ← bracedStatements read fuel (Scope.ofFunction async false)
    return .arrow (.mk none async false params body)
  else
    let value ← read (.assignment { scope with inAsync := async, inGenerator := false })
    return .arrowValue async params value

/-! ## Primary expressions -/

/-- `super`, which is followed by an access or a call. -/
def superBase : Read Expr := do
  advanceKeyword
  unless (← at_ .dot) || (← at_ .leftBracket) || (← at_ .leftParen) do unexpected
  return .other .super []

/-- `import(…)`, `import.meta`, or an import of another phase. -/
def importExpr (read : Readers) (fuel : Nat) (scope : Scope) : Read Expr := do
  advanceKeyword
  let isMeta ← if ← eat .dot then do
      if ← eatKeyword "meta" then pure true
      else if (← atKeyword "source") || (← atKeyword "defer") then do
        advanceKeyword
        pure false
      else unexpected
    else pure false
  if isMeta then return .other .importMeta []
  expect .leftParen
  let args ← arguments read fuel scope
  match args with
  | [] => unexpected
  | [.spread _] => unexpected
  | [_] | [_, _] => return .other .importCall args
  | _ => unexpected

/-- `new.target`, or `new` with what it constructs. -/
def newExpr (read : Readers) (fuel : Nat) (scope : Scope) : Read Expr := do
  advanceKeyword
  if ← eat .dot then
    if ← eatKeyword "target" then return .other .newTarget []
    else unexpected
  let callee ← read (.constructed scope)
  match callee with
  | .other .importCall _ => unexpected
  | _ => pure ()
  let args ← if ← eat .leftParen then arguments read fuel scope else pure []
  return .other .new (callee :: args)

/-- A regular expression that starts with the current slash. -/
def regexLiteral : Read Expr := do
  let token ← token
  let (pattern, flags, rest) ← token.asRegex
  unless Regex.isValid pattern flags do fail .invalidRegex
  let literal := Literal.regex (String.ofList pattern) (String.ofList flags)
  setToken { token with kind := .literal literal, rest }
  advance
  return .literal literal

/-- A literal, name, function, class, or bracketed expression. -/
def primary (read : Readers) (fuel : Nat) (scope : Scope) : Read Expr := do
  let token ← token
  match token.kind with
  | .literal value => do
    advance
    return .literal value
  | .template text last => template read fuel scope false text last
  | .punct .leftParen => do
    advance
    (← parenthesizedItems read scope.bracketed fuel).asExpr
  | .punct .leftBracket => do
    advance
    return .other .array (← elements read scope.bracketed fuel)
  | .punct .leftBrace => objectLiteral read fuel scope
  | .punct .slash => regexLiteral
  | .punct (.assign (.arithmetic .divide)) => regexLiteral
  | .punct .at => do
    let marks ← decorators read scope fuel
    let (name, parts) ← classRest read fuel scope
    return .other (.class name) (marks ++ parts)
  | .word word escaped =>
    match word with
    | "this" => do
      advanceKeyword
      return .other .this []
    | "null" => do
      advanceKeyword
      return .literal .null
    | "true" => do
      advanceKeyword
      return .literal (.boolean true)
    | "false" => do
      advanceKeyword
      return .literal (.boolean false)
    | "super" => superBase
    | "function" => return .function (← function read fuel scope false false)
    | "class" => do
      let (name, parts) ← classRest read fuel scope
      return .other (.class name) parts
    | "new" => newExpr read fuel scope
    | "import" => importExpr read fuel scope
    | _ => do
      if word == "async" && !escaped then
        let following ← peek
        if isKeyword following "function" && !following.newlineBefore then
          advance
          return .function (← function read fuel scope true false)
      return .ident (← name scope)
  | _ => unexpected

/-! ## Accesses and calls -/

/-- What follows a dot: a word or a private name. -/
def memberAfterDot (object : Expr) : Read Expr := do
  match ← kind with
  | .privateWord name => do
    advance
    return .other (.privateMember name) [object]
  | _ => return .member object (← anyWord)

/-- Accesses, calls and templates after an expression; `calls` is false in what `new`
constructs.  Answers also whether they form an optional chain. -/
def accesses (read : Readers) (scope : Scope) (calls : Bool) (inChain : Bool) (object : Expr) :
    Nat → Read (Expr × Bool)
  | 0 => fail .nestingLimit
  | fuel + 1 => do
    match ← kind with
    | .punct .dot => do
      advance
      accesses read scope calls inChain (← memberAfterDot object) fuel
    | .punct .questionDot => do
      unless calls do fail .optionalChainTarget
      advance
      match ← kind with
      | .punct .leftParen => do
        advance
        let args ← arguments read fuel scope
        accesses read scope calls true (.call object args) fuel
      | .punct .leftBracket => do
        advance
        let key ← read (.expression scope.bracketed)
        expect .rightBracket
        accesses read scope calls true (.index object key) fuel
      | .template _ _ => fail .optionalChainTarget
      | _ => accesses read scope calls true (← memberAfterDot object) fuel
    | .punct .leftBracket => do
      advance
      let key ← read (.expression scope.bracketed)
      expect .rightBracket
      accesses read scope calls inChain (.index object key) fuel
    | .punct .leftParen =>
      if calls then do
        advance
        let args ← arguments read fuel scope
        accesses read scope calls inChain (.call object args) fuel
      else return (object, inChain)
    | .template text last => do
      if inChain then fail .optionalChainTarget
      let quasi ← template read fuel scope true text last
      accesses read scope calls inChain (.other .tagged [object, quasi]) fuel
    | _ => return (object, inChain)

/-- What `new` constructs: a primary expression with accesses. -/
def constructed (read : Readers) (fuel : Nat) (scope : Scope) : Read Expr := do
  return (← accesses read scope false false (← primary read fuel scope) fuel).1

/-- A name, access or call, an optional chain as a whole. -/
def leftHandSide (read : Readers) (fuel : Nat) (scope : Scope) (given : Option Expr) :
    Read Expr := do
  let base ← match given with
    | some e => pure e
    | none => primary read fuel scope
  let (e, inChain) ← accesses read scope true false base fuel
  return if inChain then .chain e else e

/-! ## Operators -/

/-- The operator a token is before its operand. -/
def unaryOp? (token : Token) : Option UnaryOp :=
  match token.kind with
  | .punct .bang => some .not
  | .punct .tilde => some .complement
  | .punct .plus => some .plus
  | .punct .minus => some .negate
  | .word "typeof" _ => some .typeof
  | .word "void" _ => some .void
  | .word "delete" _ => some .delete
  | _ => none

/-- Whether a token after `await` on the same line makes it an operator even where it is none. -/
def looksAwaited (token : Token) : Bool :=
  !token.newlineBefore &&
    match token.kind with
    | .word _ _ => true
    | .literal (.string _) => true
    | .literal (.number _) => true
    | .literal (.bigint _) => true
    | _ => false

/-- An operand with an increment or decrement after it. -/
def postfixed (read : Readers) (fuel : Nat) (scope : Scope) (given : Option Expr) : Read Expr := do
  let e ← leftHandSide read fuel scope given
  let token ← token
  let isStep := token.kind == .punct .increment || token.kind == .punct .decrement
  if !token.newlineBefore && isStep then
    let target ← requireSimpleTarget e
    advance
    return .other .update [target]
  else return e

/-- An operand with the operators before and after it. -/
def unary (read : Readers) (fuel : Nat) (scope : Scope) (given : Option Expr) : Read Expr := do
  if given.isSome then return ← postfixed read fuel scope given
  let token ← token
  match unaryOp? token with
  | some op => do
    advanceKeyword
    return .unary op (← read (.unary scope))
  | none =>
    match token.kind with
    | .punct .increment | .punct .decrement => do
      advance
      return .other .update [← requireSimpleTarget (← read (.unary scope))]
    | .word "await" _ => do
      if scope.inAsync then
        advanceKeyword
        return .other .await [← read (.unary scope)]
      else if looksAwaited (← peek) then fail .misplacedAwait
      else postfixed read fuel scope none
    | _ => postfixed read fuel scope none

/-- An operator between two operands. -/
inductive InfixOp where
  | binary (op : BinaryOp)
  | logical (op : LogicalOp)

/-- How tightly an operator binds. -/
def InfixOp.level : InfixOp → Nat
  | .logical .coalesce => 1
  | .logical .or => 2
  | .logical .and => 3
  | .binary .bitOr => 4
  | .binary .bitXor => 5
  | .binary .bitAnd => 6
  | .binary .equal | .binary .notEqual | .binary .strictEqual | .binary .strictNotEqual => 7
  | .binary .less | .binary .lessOrEqual | .binary .greater | .binary .greaterOrEqual
  | .binary .within | .binary .instanceOf => 8
  | .binary .shiftLeft | .binary .shiftRight | .binary .shiftRightUnsigned => 9
  | .binary .add | .binary .subtract => 10
  | .binary .multiply | .binary .divide | .binary .remainder => 11
  | .binary .power => 12

/-- The operator a token is between operands. -/
def infixOp? (scope : Scope) (token : Token) : Option InfixOp :=
  match token.kind with
  | .punct (.binary op) => some (.binary op)
  | .punct (.logical op) => some (.logical op)
  | .punct .plus => some (.binary .add)
  | .punct .minus => some (.binary .subtract)
  | .punct .slash => some (.binary .divide)
  | .word "in" _ => if scope.allowIn then some (.binary .within) else none
  | .word "instanceof" _ => some (.binary .instanceOf)
  | _ => none

/-- Whether an operand is a logical expression that may not meet the operator without
parentheses. -/
def mixesWith (op : LogicalOp) : Expr → Bool
  | .logical other _ _ => (op == .coalesce) != (other == .coalesce)
  | _ => false

/-- Joins two operands. -/
def join (op : InfixOp) (left right : Expr) : Read Expr :=
  match op with
  | .logical op =>
    let operand := match right with
      | .logical _ _ _ => right
      | _ => left
    if mixesWith op operand then fail .mixedCoalesce else return .logical op left right
  | .binary op =>
    match op, left with
    | .power, .unary _ _ => fail .unaryBeforePower
    | .power, .other .await _ => fail .unaryBeforePower
    | op, left => return .binary op left right

/-- The operators after an operand that bind tighter than `level`. -/
def operatorsAfter (read : Readers) (scope : Scope) (level : Nat) (left : Expr) :
    Nat → Read Expr
  | 0 => fail .nestingLimit
  | fuel + 1 => do
    match infixOp? scope (← token) with
    | none => return left
    | some op => do
      let stops : Bool := match op with
        | .binary .power => op.level < level
        | _ => op.level ≤ level
      if stops then return left
      advanceKeyword
      let right ← read (.binary scope op.level)
      operatorsAfter read scope level (← join op left right) fuel

/-- Operands joined by operators that bind tighter than `level`. -/
def binary (read : Readers) (fuel : Nat) (scope : Scope) (level : Nat) (given : Option Expr) :
    Read Expr := do
  let left ← match given, ← kind with
    | none, .privateWord name => do
      advance
      unless scope.allowIn && (← atKeyword "in") do unexpected
      pure (.other (.privateName name) [])
    | given, _ => unary read fuel scope given
  operatorsAfter read scope level left fuel

/-- A conditional expression, after its test. -/
def conditionalRest (read : Readers) (scope : Scope) (test : Expr) : Read Expr := do
  if ← eat .question then
    let yes ← read (.assignment scope.bracketed)
    expect .colon
    return .conditional test yes (← read (.assignment scope))
  else return test

/-- An assignment or conditional expression, after its first operand. -/
def assignmentRest (read : Readers) (fuel : Nat) (scope : Scope) (left : Expr) : Read Expr := do
  let isName := match left with
    | .ident _ => true
    | _ => false
  if isName && (← atArrow) then return ← arrowRest read fuel scope false [left]
  match ← kind with
  | .punct (.assign op) => do
    let target ← if op == .plain then requireTarget left else requireSimpleTarget left
    advance
    return .assign op target (← read (.assignment scope))
  | _ => conditionalRest read scope left

/-- A `yield` expression, after the word. -/
def yieldRest (read : Readers) (scope : Scope) : Read Expr := do
  let token ← token
  if token.newlineBefore then return .other .yield []
  if ← eat (.binary .multiply) then return .other .yield [← read (.assignment scope)]
  let ends : Bool := match token.kind with
    | .endOfText => true
    | .punct mark =>
      mark == .semicolon || mark == .rightBrace || mark == .rightParen || mark == .rightBracket ||
        mark == .colon || mark == .comma
    | .word "in" _ => true
    | _ => false
  if ends then return .other .yield [] else return .other .yield [← read (.assignment scope)]

/-- What an assignment expression starts with: an arrow function, or an operand to go on from. -/
inductive Start where
  | done (e : Expr)
  | from_ (given : Option Expr)

/-- Reads what may turn out to be an arrow function: parentheses, or `async` with a parameter or
arguments on its line. -/
def start (read : Readers) (fuel : Nat) (scope : Scope) : Read Start := do
  let token ← token
  if token.kind == .punct .leftParen then
    advance
    let list ← parenthesizedItems read scope.bracketed fuel
    if ← atArrow then return .done (← arrowRest read fuel scope false list.items)
    else return .from_ (some (← list.asExpr))
  else if isPlainKeyword token "async" then
    let following ← peek
    if following.newlineBefore then return .from_ none
    match following.kind with
    | .word word _ => do
      let third ← following.after
      if third.kind == .punct .arrow && !third.newlineBefore && isNameIn scope word then
        advance
        advance
        return .done (← arrowRest read fuel scope true [.ident word])
      else return .from_ none
    | .punct .leftParen => do
      advance
      advance
      let args ← arguments read fuel scope
      if ← atArrow then return .done (← arrowRest read fuel scope true args)
      else return .from_ (some (.call (.ident "async") args))
    | _ => return .from_ none
  else return .from_ none

/-- An expression without commas at its top. -/
def assignment (read : Readers) (fuel : Nat) (scope : Scope) : Read Expr := do
  if scope.inGenerator && (← atKeyword "yield") then
    advanceKeyword
    yieldRest read scope
  else
    match ← start read fuel scope with
    | .done e => return e
    | .from_ given => do
      let left ← binary read fuel scope 0 given
      assignmentRest read fuel scope left

/-- The expressions after commas. -/
def afterCommas (read : Readers) (scope : Scope) : Nat → Read (List Expr)
  | 0 => fail .nestingLimit
  | fuel + 1 => do
    if ← eat .comma then
      let next ← read (.assignment scope)
      return next :: (← afterCommas read scope fuel)
    else return []

/-- An expression. -/
def expression (read : Readers) (fuel : Nat) (scope : Scope) : Read Expr := do
  let first ← read (.assignment scope)
  match ← afterCommas read scope fuel with
  | [] => return first
  | rest => return .sequence (first :: rest)

/-! ## Declared patterns -/

/-- The elements of a declared array pattern, after the opening bracket. -/
def bindingElements (read : Readers) (scope : Scope) : Nat → Read (List Expr)
  | 0 => fail .nestingLimit
  | fuel + 1 => do
    if ← eat .rightBracket then return []
    if ← eat .comma then return .other .hole [] :: (← bindingElements read scope fuel)
    if ← eat .ellipsis then
      let target ← read (.binding scope)
      expect .rightBracket
      return [.spread target]
    let first ← bindingElement read scope
    if ← eat .rightBracket then return [first]
    expect .comma
    return first :: (← bindingElements read scope fuel)

/-- The entries of a declared object pattern, after the opening brace. -/
def bindingMembers (read : Readers) (scope : Scope) : Nat → Read (List Member)
  | 0 => fail .nestingLimit
  | fuel + 1 => do
    if ← eat .rightBrace then return []
    if ← eat .ellipsis then
      let target ← name scope
      expect .rightBrace
      return [.spread (.ident target)]
    let key ← key read scope
    let first ← if ← eat .colon then do
        pure (Member.property key.expr (← bindingElement read scope))
      else
        match key.word.map Token.kind with
        | some (.word word _) => do
          unless isNameIn scope word do unexpected
          if ← eat (.assign .plain) then
            let value ← read (.assignment scope.bracketed)
            pure (.property key.expr (.assign .plain (.ident word) value))
          else pure (.property key.expr (.ident word))
        | _ => unexpected
    if ← eat .rightBrace then return [first]
    expect .comma
    return first :: (← bindingMembers read scope fuel)

/-- A declared name or pattern. -/
def binding (read : Readers) (fuel : Nat) (scope : Scope) : Read Expr := do
  if ← eat .leftBracket then return .other .array (← bindingElements read scope fuel)
  else if ← eat .leftBrace then return .object (← bindingMembers read scope fuel)
  else return .ident (← name scope)

end NamedExports.Script.Read
