import NamedExports.Script.Reader.Expression

/-!
# Statements

Rules for statements and declarations, imports and exports included.
-/

namespace NamedExports.Script.Read

/-! ## Declarations of variables -/

/-- Requires that a declared name has a value where one has to be given. -/
def checkInitializer (kind : DeclKind) (target : Expr) (init : Option Expr) : Read Unit :=
  match target, init with
  | _, some _ => return ()
  | .ident _, none =>
    if kind == .const || kind == .using then fail .missingInitializer else return ()
  | _, none => fail .missingInitializer

/-- Declared names and patterns with their initial values.  In the head of a `for` the values may
be missing. -/
def declarators (read : Readers) (scope : Scope) (kind : DeclKind) (inHead : Bool) :
    Nat → Read (List Declarator)
  | 0 => fail .nestingLimit
  | fuel + 1 => do
    let target ← read (.binding scope)
    let init ← if ← eat (.assign .plain) then some <$> read (.assignment scope) else pure none
    unless inHead do checkInitializer kind target init
    if ← eat .comma then
      return .mk target init :: (← declarators read scope kind inHead fuel)
    else return [.mk target init]

/-- A declaration of variables, from its keyword to its end. -/
def variableStatement (read : Readers) (fuel : Nat) (scope : Scope) (kind : DeclKind) :
    Read Stmt := do
  advanceKeyword
  let items ← declarators read scope kind false fuel
  endStatement
  return .declare kind items

/-- Whether `using` starts a declaration: a name follows on its line. -/
def declaresUsing (using_ following : Token) : Bool :=
  isPlainKeyword using_ "using" && !following.newlineBefore &&
    match following.kind with
    | .word word _ => !reservedWords.contains word && word != "of"
    | _ => false

/-- An expression in parentheses, as after `if`. -/
def parenthesized (read : Readers) (scope : Scope) : Read Expr := do
  expect .leftParen
  let e ← read (.expression scope.bracketed)
  expect .rightParen
  return e

/-! ## Loops -/

/-- The rest of a `for` with three parts, from the first semicolon on. -/
def forThree (read : Readers) (scope : Scope) (init : List Expr) (items : List Stmt) :
    Read Stmt := do
  expect .semicolon
  let test ← if ← at_ .semicolon then pure [] else pure [← read (.expression scope)]
  expect .semicolon
  let step ← if ← at_ .rightParen then pure [] else pure [← read (.expression scope)]
  expect .rightParen
  let body ← read (.statement scope true)
  return .other .for (init ++ test ++ step) (items ++ [body])

/-- The rest of a `for` after what is declared or assigned in it, which is a loop with `in` or `of`
when one of these words stands here. -/
def forRest (read : Readers) (scope : Scope) (isAwait : Bool) (init : List Expr)
    (items : List Stmt) : Read Stmt := do
  if ← atKeyword "in" then
    if isAwait then unexpected
    advanceKeyword
    let target ← read (.expression scope)
    expect .rightParen
    return .other .forIn (init ++ [target]) (items ++ [← read (.statement scope true)])
  else if ← atKeyword "of" then
    advanceKeyword
    let target ← read (.assignment scope)
    expect .rightParen
    return .other .forOf (init ++ [target]) (items ++ [← read (.statement scope true)])
  else
    if isAwait then unexpected
    forThree read scope init items

/-- What a `for` declares, if a declaration stands at its start. -/
def forDeclaration? (token following : Token) : Option DeclKind :=
  match token.kind with
  | .word "var" _ => some .var
  | .word "const" _ => some .const
  | .word "let" _ =>
    match following.kind with
    | .punct .leftBracket | .punct .leftBrace => some .let
    | .word word _ => if word == "in" then none else some .let
    | _ => none
  | _ => if declaresUsing token following then some .using else none

/-- A `for` statement. -/
def forStatement (read : Readers) (fuel : Nat) (scope : Scope) : Read Stmt := do
  let scope := scope.bracketed
  advanceKeyword
  let isAwait ← if ← atKeyword "await" then do
      unless scope.inAsync do fail .misplacedAwait
      advanceKeyword
      pure true
    else pure false
  expect .leftParen
  if ← at_ .semicolon then
    if isAwait then unexpected
    return ← forThree read scope [] []
  let token ← token
  let head := { scope with allowIn := false }
  match forDeclaration? token (← peek) with
  | some kind => do
    advanceKeyword
    let items ← declarators read head kind true fuel
    forRest read scope isAwait [] [.declare kind items]
  | none => do
    let init ← read (.expression head)
    if ← atKeyword "of" then
      let isAsync := match init with
        | .ident name => name == "async" && !isAwait && isPlainKeyword token "async"
        | _ => false
      if isAsync || isKeyword token "let" then unexpected
    if (← atKeyword "of") || (← atKeyword "in") then
      forRest read scope isAwait [← requireTarget init] []
    else forRest read scope isAwait [init] []

/-! ## Compound statements -/

/-- The clauses of a `switch`: tests and statements. -/
def switchClauses (read : Readers) (scope : Scope) : Nat → Read (List Expr × List Stmt)
  | 0 => fail .nestingLimit
  | fuel + 1 => do
    if ← eat .rightBrace then return ([], [])
    let test ← if ← eatKeyword "default" then pure []
      else do
        expectKeyword "case"
        pure [← read (.expression scope)]
    expect .colon
    let body ← clauseBody fuel
    let (tests, rest) ← switchClauses read scope fuel
    return (test ++ tests, body ++ rest)
where
  /-- The statements of one clause. -/
  clauseBody : Nat → Read (List Stmt)
    | 0 => fail .nestingLimit
    | fuel + 1 => do
      if (← at_ .rightBrace) || (← atKeyword "case") || (← atKeyword "default") then return []
      let first ← read (.statement scope false)
      return first :: (← clauseBody fuel)

/-- A `try` statement, with a handler, a finalizer or both. -/
def tryStatement (read : Readers) (fuel : Nat) (scope : Scope) : Read Stmt := do
  advanceKeyword
  let body ← bracedStatements read fuel scope
  let handled ← eatKeyword "catch"
  let param ← if ← (if handled then eat .leftParen else pure false) then do
      let param ← read (.binding scope)
      expect .rightParen
      pure (some param)
    else pure none
  let handler ← if handled then bracedStatements read fuel scope else pure []
  if ← eatKeyword "finally" then
    return .tryCatch body param handler (← bracedStatements read fuel scope)
  else if handled then return .tryCatch body param handler []
  else fail .missingHandler

/-- `break` or `continue`, with a label on the same line if any. -/
def jump (scope : Scope) (form : StmtForm) : Read Stmt := do
  advanceKeyword
  let label ← if ← atStatementEnd then pure [] else pure [Expr.ident (← name scope)]
  endStatement
  return .other form label []

/-! ## Imports and exports -/

/-- A name in an import or export list: a word or a string. -/
def moduleName : Read (String × Bool) := do
  match ← kind with
  | .word word _ => do
    advance
    return (word, isNameIn Scope.top word)
  | .literal (.string text) => do
    advance
    return (text, false)
  | _ => unexpected

/-- The module a declaration names, with its attributes if any. -/
def moduleSource (read : Readers) (fuel : Nat) (scope : Scope) : Read Expr := do
  match ← kind with
  | .literal (.string text) => do
    advance
    let token ← token
    if isKeyword token "with" || (isKeyword token "assert" && !token.newlineBefore) then
      advanceKeyword
      let _ ← objectLiteral read fuel scope
    return .literal (.string text)
  | _ => unexpected

/-- One entry of an import list: the name it declares. -/
def importEntry (scope : Scope) : Read Expr := do
  let (imported, isName) ← moduleName
  if ← eatKeyword "as" then return .ident (← name scope)
  else if isName then return .ident imported
  else unexpected

/-- The names an import declares, before `from`. -/
def importNames (fuel : Nat) (scope : Scope) : Read (List Expr) := do
  if ← eat (.binary .multiply) then
    expectKeyword "as"
    return [.ident (← name scope)]
  else
    expect .leftBrace
    commaList .rightBrace (importEntry scope) fuel

/-- An import declaration. -/
def importStatement (read : Readers) (fuel : Nat) (scope : Scope) : Read Stmt := do
  advanceKeyword
  let names ← match ← kind with
    | .literal _ => pure []
    | .word _ _ => do
      let first := Expr.ident (← name scope)
      if ← eat .comma then
        let rest ← importNames fuel scope
        expectKeyword "from"
        pure (first :: rest)
      else
        expectKeyword "from"
        pure [first]
    | _ => do
      let names ← importNames fuel scope
      expectKeyword "from"
      pure names
  let source ← moduleSource read fuel scope
  endStatement
  return .other .importFrom (names ++ [source]) []

/-- One entry of an export list: the local name, whether it can be one, and the exported name. -/
def exportEntry : Read (String × Bool × String) := do
  let (localName, isName) ← moduleName
  if ← eatKeyword "as" then return (localName, isName, (← moduleName).1)
  else return (localName, isName, localName)

/-- Records each name of a list as exported. -/
def recordExports : List String → Read Unit
  | [] => return ()
  | name :: rest => do
    recordExport name
    recordExports rest

/-- The names a statement declares. -/
def declaredNames : Stmt → List String
  | .declare _ items => items.flatMap fun | .mk target _ => target.boundNames
  | .function code => code.name.toList
  | .class name _ => name.toList
  | _ => []

/-- What `export default` exports, to its end. -/
def exportDefault (read : Readers) (fuel : Nat) (scope : Scope) : Read Stmt := do
  let token ← token
  let following ← peek
  let isAsync := isPlainKeyword token "async" && isKeyword following "function" &&
    !following.newlineBefore
  if isAsync then
    advance
    return .function (← function read fuel scope true true)
  else if isKeyword token "function" then
    return .function (← function read fuel scope false true)
  else
    let marks ← decorators read scope fuel
    if ← atKeyword "class" then
      let (name, parts) ← classRest read fuel scope
      return .class name (marks ++ parts)
    else
      unless marks.isEmpty do unexpected
      let value ← read (.assignment scope)
      endStatement
      return .expr value

/-- An export declaration. -/
def exportStatement (read : Readers) (fuel : Nat) (scope : Scope) : Read Stmt := do
  advanceKeyword
  if ← eat (.binary .multiply) then
    if ← eatKeyword "as" then recordExport (← moduleName).1
    expectKeyword "from"
    let source ← moduleSource read fuel scope
    endStatement
    return .other .exportFrom [source] []
  else if ← eat .leftBrace then
    let entries ← commaList .rightBrace exportEntry fuel
    let source ← if ← eatKeyword "from" then pure [← moduleSource read fuel scope]
      else do
        unless entries.all (·.2.1) do unexpected
        pure []
    endStatement
    recordExports (entries.map (·.2.2))
    return .other .exportFrom source []
  else if ← eatKeyword "default" then
    recordExport "default"
    return .other .exportFrom [] [← exportDefault read fuel scope]
  else
    let token ← token
    let declares := ["var", "let", "const", "function", "class", "async"].any (isKeyword token ·) ||
      token.kind == .punct .at
    unless declares do unexpected
    let declared ← read (.statement scope false)
    match declared with
    | .declare _ _ | .function _ | .class _ _ => pure ()
    | _ => unexpected
    recordExports (declaredNames declared)
    return .other .exportFrom [] [declared]

/-! ## Statements -/

/-- An expression statement, or a statement with a label. -/
def expressionStatement (read : Readers) (scope : Scope) : Read Stmt := do
  let e ← read (.expression scope)
  let label := match e with
    | .ident name => some name
    | _ => none
  match label with
  | some label => do
    if ← eat .colon then
      return .other (.labeled label) [] [← read (.statement scope true)]
    endStatement
    return .expr e
  | none => do
    endStatement
    return .expr e

/-- A statement that starts with `let`, which may be a name. -/
def letStatement (read : Readers) (fuel : Nat) (scope : Scope) (single : Bool) : Read Stmt := do
  let following ← peek
  let isOperand := match following.kind with
    | .punct .dot | .punct .leftParen | .punct .arrow | .punct .questionDot | .punct .question
    | .punct .colon | .punct .comma | .punct .increment | .punct .decrement => true
    | .punct (.assign _) | .punct (.binary _) | .punct (.logical _) => true
    | .punct .plus | .punct .minus | .punct .slash => true
    | .word "in" _ | .word "instanceof" _ => true
    | .punct .semicolon => true
    | _ => false
  let isBracket := following.kind == .punct .leftBracket
  if isOperand || (single && !isBracket) then expressionStatement read scope
  else if single then fail .misplacedDeclaration
  else variableStatement read fuel scope .let

/-- A function declaration.  Where a single statement stands it is neither async nor a
generator. -/
def functionDeclaration (read : Readers) (fuel : Nat) (scope : Scope) (async single : Bool) :
    Read Stmt := do
  let code ← function read fuel scope async true
  match code with
  | .mk none _ _ _ _ => unexpected
  | .mk _ isAsync isGenerator _ _ =>
    if single && (isAsync || isGenerator) then fail .misplacedDeclaration
    else return .function code

/-- A class declaration, with the decorators before it. -/
def classDeclaration (read : Readers) (fuel : Nat) (scope : Scope) (single : Bool)
    (marks : List Expr) : Read Stmt := do
  let (name, parts) ← classRest read fuel scope
  if name.isNone then unexpected
  if single then fail .misplacedDeclaration
  return .class name (marks ++ parts)

/-- A statement that starts with a word. -/
def wordStatement (read : Readers) (fuel : Nat) (scope : Scope) (single : Bool) (token : Token)
    (word : String) : Read Stmt := do
  match word with
  | "var" => variableStatement read fuel scope .var
  | "const" =>
    if single then fail .misplacedDeclaration else variableStatement read fuel scope .const
  | "if" => do
    advanceKeyword
    let test ← parenthesized read scope
    let yes ← read (.statement scope true)
    if ← eatKeyword "else" then return .ifThen test yes (some (← read (.statement scope true)))
    else return .ifThen test yes none
  | "for" => forStatement read fuel scope
  | "while" => do
    advanceKeyword
    let test ← parenthesized read scope
    return .other .while [test] [← read (.statement scope true)]
  | "do" => do
    advanceKeyword
    let body ← read (.statement scope true)
    expectKeyword "while"
    let test ← parenthesized read scope
    let _ ← eat .semicolon
    return .other .doWhile [test] [body]
  | "with" => do
    advanceKeyword
    let object ← parenthesized read scope
    return .other .with [object] [← read (.statement scope true)]
  | "switch" => do
    advanceKeyword
    let value ← parenthesized read scope
    expect .leftBrace
    let (tests, body) ← switchClauses read scope.bracketed fuel
    return .other .switch (value :: tests) body
  | "try" => tryStatement read fuel scope
  | "break" => jump scope .break
  | "continue" => jump scope .continue
  | "debugger" => do
    advanceKeyword
    endStatement
    return .other .debugger [] []
  | "return" => do
    unless scope.allowReturn do fail .misplacedReturn
    advanceKeyword
    let value ← if ← atStatementEnd then pure none else some <$> read (.expression scope)
    endStatement
    return .return value
  | "throw" => do
    advanceKeyword
    if (← Read.token).newlineBefore then fail .lineBreakAfterThrow
    let value ← read (.expression scope)
    endStatement
    return .other .throw [value] []
  | "function" => functionDeclaration read fuel scope false single
  | "class" => classDeclaration read fuel scope single []
  | "export" => exportStatement read fuel scope
  | _ => do
    let following ← peek
    if word == "import" && following.kind != .punct .leftParen && following.kind != .punct .dot then
      importStatement read fuel scope
    else if isPlainKeyword token "let" then letStatement read fuel scope single
    else if isPlainKeyword token "async" && isKeyword following "function" &&
        !following.newlineBefore then do
      advance
      functionDeclaration read fuel scope true single
    else if declaresUsing token following then
      if single then fail .misplacedDeclaration else variableStatement read fuel scope .using
    else expressionStatement read scope

/-- A statement. -/
def statement (read : Readers) (fuel : Nat) (scope : Scope) (single : Bool) : Read Stmt := do
  let scope := scope.bracketed
  let token ← token
  match token.kind with
  | .punct .leftBrace => return .block (← bracedStatements read fuel scope)
  | .punct .semicolon => do
    advance
    return .other .empty [] []
  | .punct .at => do
    let marks ← decorators read scope fuel
    if ← atKeyword "export" then
      let exported ← exportStatement read fuel scope
      match exported with
      | .other form exprs [.class name parts] =>
        return .other form exprs [.class name (marks ++ parts)]
      | _ => unexpected
    else classDeclaration read fuel scope single marks
  | .word word _ => wordStatement read fuel scope single token word
  | _ => expressionStatement read scope

end NamedExports.Script.Read
