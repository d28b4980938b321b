import NamedExports.Script.Syntax

/-!
# Tokens

What program text is read as before it has structure: words, punctuators and literals.  A token
remembers whether a line break stands before it, the text from its first character on, and the text
after it, so that a token read under one reading of `/` or `}` can be read again under the other.
-/

namespace NamedExports.Script

/-- Punctuators. -/
inductive Punct where
  | leftBrace | rightBrace | leftParen | rightParen | leftBracket | rightBracket
  | dot | ellipsis | semicolon | comma | question | questionDot | colon | arrow | at
  | plus | minus | slash | bang | tilde | increment | decrement
  | binary (op : BinaryOp) | logical (op : LogicalOp) | assign (op : AssignOp)
  deriving Repr, DecidableEq

namespace Punct

/-- Every punctuator's spelling, longer spellings before their beginnings. -/
def spellings : List (List Char × Punct) := [
  (">>>=".toList, .assign (.arithmetic .shiftRightUnsigned)),
  ("...".toList, .ellipsis),
  ("===".toList, .binary .strictEqual),
  ("!==".toList, .binary .strictNotEqual),
  ("**=".toList, .assign (.arithmetic .power)),
  ("<<=".toList, .assign (.arithmetic .shiftLeft)),
  (">>=".toList, .assign (.arithmetic .shiftRight)),
  (">>>".toList, .binary .shiftRightUnsigned),
  ("&&=".toList, .assign (.logical .and)),
  ("||=".toList, .assign (.logical .or)),
  ("??=".toList, .assign (.logical .coalesce)),
  ("=>".toList, .arrow),
  ("==".toList, .binary .equal),
  ("!=".toList, .binary .notEqual),
  ("<=".toList, .binary .lessOrEqual),
  (">=".toList, .binary .greaterOrEqual),
  ("&&".toList, .logical .and),
  ("||".toList, .logical .or),
  ("??".toList, .logical .coalesce),
  ("?.".toList, .questionDot),
  ("++".toList, .increment),
  ("--".toList, .decrement),
  ("+=".toList, .assign (.arithmetic .add)),
  ("-=".toList, .assign (.arithmetic .subtract)),
  ("*=".toList, .assign (.arithmetic .multiply)),
  ("/=".toList, .assign (.arithmetic .divide)),
  ("%=".toList, .assign (.arithmetic .remainder)),
  ("&=".toList, .assign (.arithmetic .bitAnd)),
  ("|=".toList, .assign (.arithmetic .bitOr)),
  ("^=".toList, .assign (.arithmetic .bitXor)),
  ("**".toList, .binary .power),
  ("<<".toList, .binary .shiftLeft),
  (">>".toList, .binary .shiftRight),
  (['\x7b'], .leftBrace), (['\x7d'], .rightBrace),
  (['('], .leftParen), ([')'], .rightParen),
  (['['], .leftBracket), ([']'], .rightBracket),
  (['.'], .dot), ([';'], .semicolon), ([','], .comma), (['?'], .question), ([':'], .colon),
  (['@'], .at), (['='], .assign .plain), (['!'], .bang), (['~'], .tilde),
  (['+'], .plus), (['-'], .minus), (['/'], .slash),
  (['*'], .binary .multiply), (['%'], .binary .remainder),
  (['<'], .binary .less), (['>'], .binary .greater),
  (['&'], .binary .bitAnd), (['|'], .binary .bitOr), (['^'], .binary .bitXor)]

/-- The longest punctuator that begins the text, with the rest of the text.  The pair `?.` before
a digit is a question mark. -/
def read? (text : List Char) : Option (Punct × List Char) :=
  match text with
  | '?' :: '.' :: c :: rest =>
    if c.isDigit then some (.question, '.' :: c :: rest) else some (.questionDot, c :: rest)
  | _ =>
    spellings.findSome? fun (spelling, punct) =>
      if spelling.isPrefixOf text then some (punct, text.drop spelling.length) else none

end Punct

/-- What a token is. -/
inductive TokenKind where
  /-- A name or keyword, with its escapes resolved, and whether it had any. -/
  | word (name : String) (escaped : Bool)
  /-- A name after `#`. -/
  | privateWord (name : String)
  | punct (mark : Punct)
  | literal (value : Literal)
  /-- A piece of a template: its text unless an escape in it is malformed, and whether the template
  ends with it. -/
  | template (text : Option String) (last : Bool)
  | endOfText
  deriving Repr, DecidableEq

/-- A token in its place. -/
structure Token where
  kind : TokenKind
  /-- Whether a line break stands between this token and the one before it. -/
  newlineBefore : Bool
  /-- The text from the token's first character on. -/
  start : List Char
  /-- The text after the token. -/
  rest : List Char
  deriving Repr

/-- Why a text is not a program. -/
inductive SyntaxError where
  | unterminatedComment | unterminatedString | unterminatedTemplate | unterminatedRegex
  | invalidCharacter (c : Char) | invalidEscape | invalidNumber | invalidRegex
  | unexpectedToken | unexpectedEnd | escapedKeyword | missingSemicolon | lineBreakAfterThrow
  | invalidTarget | coverInitializer | missingInitializer | mixedCoalesce
  | unaryBeforePower | misplacedAwait | misplacedReturn | misplacedDeclaration
  | optionalChainTarget | invalidAccessor | invalidClassElement | missingHandler
  | duplicateExport | nestingLimit
  deriving Repr, DecidableEq

/-- What a syntax error says. -/
def SyntaxError.message : SyntaxError → String
  | .unterminatedComment => "Unterminated comment"
  | .unterminatedString => "Unterminated string"
  | .unterminatedTemplate => "Unterminated template"
  | .unterminatedRegex => "Unterminated regular expression"
  | .invalidCharacter c => "Invalid character '" ++ toString c ++ "'"
  | .invalidEscape => "Invalid escape sequence"
  | .invalidNumber => "Invalid number"
  | .invalidRegex => "Invalid regular expression"
  | .unexpectedToken => "Unexpected token"
  | .unexpectedEnd => "Unexpected end of text"
  | .escapedKeyword => "Keywords cannot contain escapes"
  | .missingSemicolon => "Expected a semicolon"
  | .lineBreakAfterThrow => "Illegal line break after throw"
  | .invalidTarget => "Cannot assign to this expression"
  | .coverInitializer => "Invalid assignment in object literal"
  | .missingInitializer => "Missing initializer"
  | .mixedCoalesce => "Logical expressions and coalesce expressions cannot be mixed"
  | .unaryBeforePower => "Unexpected unary operator before power"
  | .misplacedAwait => "Await is only allowed in async functions"
  | .misplacedReturn => "Return is not allowed here"
  | .misplacedDeclaration => "A declaration is not allowed here"
  | .optionalChainTarget => "Optional chains are not allowed here"
  | .invalidAccessor => "Wrong number of accessor parameters"
  | .invalidClassElement => "Invalid class element"
  | .missingHandler => "Expected catch or finally"
  | .duplicateExport => "Duplicated export"
  | .nestingLimit => "Nesting too deep"

end NamedExports.Script
