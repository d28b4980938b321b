/-!
# Programs as trees

The tree of a JavaScript program, at the grain at which exports are looked for.  An expression or
statement that can say something about `exports` has a constructor of its own; every other
construct is kept whole as `Expr.other` or `Stmt.other`, with its form and its parts in source
order, so that no identifier or literal of the program is lost.

Three conventions hold throughout.

* Parentheses are nodes (`Expr.paren`), and so are optional chains (`Expr.chain`).  The target of
  an assignment is stored without the parentheses around it.
* A property key is an expression: the plain key in `{ a: 1 }` stands as the string literal `'a'`,
  and the computed key in `{ [e]: 1 }` as `e`.
* A destructuring pattern is stored as the expression it is written like.
-/

namespace NamedExports.Script

/-- Operators written before their operand. -/
inductive UnaryOp where
  | not | negate | plus | complement | typeof | void | delete
  deriving Repr, DecidableEq

/-- Operators between two operands that are always both evaluated. -/
inductive BinaryOp where
  | equal | notEqual | strictEqual | strictNotEqual
  | less | lessOrEqual | greater | greaterOrEqual | within | instanceOf
  | shiftLeft | shiftRight | shiftRightUnsigned
  | add | subtract | multiply | divide | remainder | power
  | bitOr | bitXor | bitAnd
  deriving Repr, DecidableEq

/-- Operators that may skip their right operand. -/
inductive LogicalOp where
  | and | or | coalesce
  deriving Repr, DecidableEq

/-- The forms of assignment: `=`, `+=` and its kin, `&&=` and its kin. -/
inductive AssignOp where
  | plain
  | arithmetic (op : BinaryOp)
  | logical (op : LogicalOp)
  deriving Repr, DecidableEq

/-- Literal values.  Strings and templates hold their text with escapes resolved; numbers hold
their value written in plain decimal, which is also how they are found as property keys. -/
inductive Literal where
  | string (value : String)
  | number (decimal : String)
  | bigint (decimal : String)
  | template (text : String)
  | boolean (value : Bool)
  | null
  | regex (pattern flags : String)
  deriving Repr, DecidableEq

/-- Expressions that are kept whole: which construct they are. -/
inductive ExprForm where
  | this | super | array | hole | template | tagged | new | newTarget | importMeta | importCall
  | update | yield | await | class (name : Option String) | privateMember (name : String)
  | privateName (name : String) | pattern | defaulted | rest
  deriving Repr, DecidableEq

/-- Statements that are kept whole: which construct they are. -/
inductive StmtForm where
  | empty | throw | while | doWhile | for | forIn | forOf | switch | labeled (label : String)
  | with | break | continue | debugger | importFrom | exportFrom
  deriving Repr, DecidableEq

/-- How a declaration introduces its names. -/
inductive DeclKind where
  | var | let | const | using
  deriving Repr, DecidableEq

mutual

/-- Expressions. -/
inductive Expr where
  | ident (name : String)
  | literal (value : Literal)
  | object (members : List Member)
  | function (code : Code)
  /-- An arrow function whose body is a block. -/
  | arrow (code : Code)
  /-- An arrow function whose body is one expression. -/
  | arrowValue (async : Bool) (params : List Expr) (value : Expr)
  | unary (op : UnaryOp) (operand : Expr)
  | binary (op : BinaryOp) (left right : Expr)
  | logical (op : LogicalOp) (left right : Expr)
  | conditional (test yes no : Expr)
  | assign (op : AssignOp) (target value : Expr)
  | sequence (items : List Expr)
  /-- `object.name` -/
  | member (object : Expr) (name : String)
  /-- `object[key]` -/
  | index (object key : Expr)
  | call (callee : Expr) (args : List Expr)
  /-- `...operand`, as a call argument or an array element. -/
  | spread (operand : Expr)
  | paren (inner : Expr)
  /-- An optional chain such as `a?.b.c`, around the member accesses and calls it is made of. -/
  | chain (inner : Expr)
  | other (form : ExprForm) (parts : List Expr)

/-- One entry of an object literal.  A method or accessor is a property whose value is a
function. -/
inductive Member where
  | property (key value : Expr)
  | spread (operand : Expr)

/-- What a function holds: its own name if it has one, parameters and body. -/
inductive Code where
  | mk (name : Option String) (async generator : Bool) (params : List Expr) (body : List Stmt)

/-- One declared name or pattern, with the value it starts from. -/
inductive Declarator where
  | mk (target : Expr) (init : Option Expr)

/-- Statements. -/
inductive Stmt where
  | expr (value : Expr)
  | declare (kind : DeclKind) (items : List Declarator)
  | function (code : Code)
  /-- A class declaration, with its heritage and the keys and values of its elements. -/
  | class (name : Option String) (parts : List Expr)
  | block (body : List Stmt)
  | ifThen (test : Expr) (yes : Stmt) (no : Option Stmt)
  /-- `try`, with the parameter and body of `catch` and the body of `finally`. -/
  | tryCatch (body : List Stmt) (param : Option Expr) (handler finalizer : List Stmt)
  | return (value : Option Expr)
  | other (form : StmtForm) (exprs : List Expr) (body : List Stmt)

end

instance : Inhabited Expr := ⟨.other .hole []⟩

instance : Inhabited Stmt := ⟨.other .empty [] []⟩

/-- A program is the list of its statements. -/
abbrev Program := List Stmt

namespace Code

/-- The function's own name. -/
def name : Code → Option String
  | mk name _ _ _ _ => name

/-- The statements of the body. -/
def body : Code → List Stmt
  | mk _ _ _ _ body => body

end Code

end NamedExports.Script
