import NamedExports.Proofs.Scan.Condition

/-!
# Executions that put names on the exports

How programs run that export by assignment and by definition: what is evaluated in which order,
which branch is taken, and which names are put on the exports object on the way.  A program has one
execution for every way in which its free tests can come out, and `ExecutesAll` relates it to what
each of them puts there.  What is put by a block behind `finally` is marked as such.

`exports`, `module`, `Object` and `process` are taken for the names they have where a module starts.
-/

namespace NamedExports.Script

/-! ## Values, targets and calls -/

mutual

/-- Values that can be had without effect: literals, names, `this`, and objects of such values. -/
inductive IsValue : Expr → Prop where
  | ident {name : String} : IsValue (.ident name)
  | literal {value : Literal} : IsValue (.literal value)
  | negative {value : Literal} : IsValue (.unary .negate (.literal value))
  | this : IsValue (.other .this [])
  | void {operand : Expr} (h : IsValue operand) : IsValue (.unary .void operand)
  | paren {inner : Expr} (h : IsValue inner) : IsValue (.paren inner)
  | object {members : List Member} (h : AreValues members) : IsValue (.object members)

/-- Entries of an object literal that are literal keys with values. -/
inductive AreValues : List Member → Prop where
  | nil : AreValues []
  | cons {key : Literal} {value : Expr} {rest : List Member} (h : IsValue value)
      (hrest : AreValues rest) : AreValues (.property (.literal key) value :: rest)

end

/-- An expression for the exports object: `exports` or `module.exports`. -/
def IsExports (e : Expr) : Prop :=
  e.dotted? = some ["exports"] ∨ e.dotted? = some ["module", "exports"]

/-- Targets whose assignment puts a key on the exports: `exports.key` and `exports['key']`. -/
inductive Places : Expr → String → Prop where
  | member {base : Expr} {key : String} (h : IsExports base) : Places (.member base key) key
  | index {base literal : Expr} {key : String} (h : IsExports base)
      (hkey : literal.withoutParens = .literal (.string key)) : Places (.index base literal) key

/-- Calls `Object.defineProperty(exports, 'key', value)`. -/
structure Defines (callee : Expr) (args : List Expr) (key : String) : Prop where
  callee : callee.dotted? = some ["Object", "defineProperty"]
  args : ∃ object value, args = [object, .literal (.string key), value] ∧ IsExports object ∧
    IsValue value

/-- The function with statements as its body that an expression is, parentheses set aside. -/
def Expr.function? : Expr → Option Code
  | .paren inner => inner.function?
  | .function code => some code
  | .arrow code => some code
  | _ => none

/-- The function that a callee runs where it is written, directly or with `.call` or `.apply`. -/
def Expr.invoked? : Expr → Option Code
  | .paren inner => inner.invoked?
  | .member owner name => if name = "call" ∨ name = "apply" then owner.function? else none
  | .function code => some code
  | .arrow code => some code
  | _ => none

/-- Whether a function is a generator. -/
def Code.isGenerator : Code → Bool
  | .mk _ _ generator _ _ => generator

/-- Calls that run the body of a function where it is written.  Calling a generator would not. -/
structure Invokes (callee : Expr) (args : List Expr) (code : Code) : Prop where
  function : callee.invoked? = some code
  plain : code.isGenerator = false
  args : ∀ arg ∈ args, IsValue arg

/-- A call runs at most one function where it is written. -/
theorem Invokes.unique {callee : Expr} {args : List Expr} {code other : Code}
    (h : Invokes callee args code) (h' : Invokes callee args other) : code = other :=
  Option.some.inj (h.function.symm.trans h'.function)

/-! ## Executions -/

/-- A name that an execution puts on the exports. -/
structure Put where
  key : String
  /-- Whether it is put by what follows `finally`. -/
  inFinally : Bool
  deriving DecidableEq

namespace Put

/-- A name that is put on the exports, not behind any `finally`. -/
def now (key : String) : Put := ⟨key, false⟩

/-- What is put there, behind a `finally`. -/
def underFinally (put : Put) : Put := { put with inFinally := true }

/-- Nothing that is put in a `finally` block is put outside of any. -/
theorem now_not_mem_map_underFinally (key : String) (puts : List Put) :
    now key ∉ puts.map underFinally := by
  intro hmem
  obtain ⟨put, -, hput⟩ := List.mem_map.mp hmem
  cases congrArg Put.inFinally hput

end Put

mutual

/-- An evaluation of an expression for its effect, and the names it puts on the exports. -/
inductive Evaluates (quiet : Expr → Prop) (mode : Mode) : Expr → List Put → Prop where
  | value {e : Expr} (h : IsValue e) : Evaluates quiet mode e []
  | paren {inner : Expr} {puts : List Put} (h : Evaluates quiet mode inner puts) :
      Evaluates quiet mode (.paren inner) puts
  | unary {op : UnaryOp} {operand : Expr} {puts : List Put}
      (h : Evaluates quiet mode operand puts) : Evaluates quiet mode (.unary op operand) puts
  /-- The right side is evaluated before the assignment is made. -/
  | assign {target right : Expr} {key : String} {puts : List Put} (htarget : Places target key)
      (hright : Evaluates quiet mode right puts) :
      Evaluates quiet mode (.assign .plain target right) (puts ++ [.now key])
  | define {callee : Expr} {args : List Expr} {key : String} (h : Defines callee args key) :
      Evaluates quiet mode (.call callee args) [.now key]
  | invoke {callee : Expr} {args : List Expr} {code : Code} {puts : List Put}
      (hcall : Invokes callee args code) (hbody : ExecutesAll quiet mode code.body puts) :
      Evaluates quiet mode (.call callee args) puts
  | sequence {items : List Expr} {puts : List Put} (h : EvaluatesAll quiet mode items puts) :
      Evaluates quiet mode (.sequence items) puts
  | yes {test yes no : Expr} {puts : List Put} (htest : Tests quiet mode test true)
      (h : Evaluates quiet mode yes puts) : Evaluates quiet mode (.conditional test yes no) puts
  | no {test yes no : Expr} {puts : List Put} (htest : Tests quiet mode test false)
      (h : Evaluates quiet mode no puts) : Evaluates quiet mode (.conditional test yes no) puts
  | andSkips {left right : Expr} (hleft : Tests quiet mode left false) :
      Evaluates quiet mode (.logical .and left right) []
  | andGoesOn {left right : Expr} {puts : List Put} (hleft : Tests quiet mode left true)
      (hright : Evaluates quiet mode right puts) :
      Evaluates quiet mode (.logical .and left right) puts
  | orSkips {left right : Expr} (hleft : Tests quiet mode left true) :
      Evaluates quiet mode (.logical .or left right) []
  | orGoesOn {left right : Expr} {puts : List Put} (hleft : Tests quiet mode left false)
      (hright : Evaluates quiet mode right puts) :
      Evaluates quiet mode (.logical .or left right) puts

/-- An evaluation of expressions in order. -/
inductive EvaluatesAll (quiet : Expr → Prop) (mode : Mode) : List Expr → List Put → Prop where
  | nil : EvaluatesAll quiet mode [] []
  | cons {first : Expr} {rest : List Expr} {puts others : List Put}
      (hfirst : Evaluates quiet mode first puts) (hrest : EvaluatesAll quiet mode rest others) :
      EvaluatesAll quiet mode (first :: rest) (puts ++ others)

/-- An evaluation of the initial values of declared variables in order. -/
inductive Initializes (quiet : Expr → Prop) (mode : Mode) :
    List Declarator → List Put → Prop where
  | nil : Initializes quiet mode [] []
  | bare {target : Expr} {rest : List Declarator} {puts : List Put}
      (hrest : Initializes quiet mode rest puts) :
      Initializes quiet mode (.mk target none :: rest) puts
  | init {target init : Expr} {rest : List Declarator} {puts others : List Put}
      (hinit : Evaluates quiet mode init puts) (hrest : Initializes quiet mode rest others) :
      Initializes quiet mode (.mk target (some init) :: rest) (puts ++ others)

/-- An execution of a statement in which nothing is thrown. -/
inductive Executes (quiet : Expr → Prop) (mode : Mode) : Stmt → List Put → Prop where
  | expr {e : Expr} {puts : List Put} (h : Evaluates quiet mode e puts) :
      Executes quiet mode (.expr e) puts
  | declare {kind : DeclKind} {items : List Declarator} {puts : List Put}
      (h : Initializes quiet mode items puts) : Executes quiet mode (.declare kind items) puts
  | block {body : List Stmt} {puts : List Put} (h : ExecutesAll quiet mode body puts) :
      Executes quiet mode (.block body) puts
  /-- The body throws nothing, so the handler is passed over. -/
  | tryCatch {body handler finalizer : List Stmt} {param : Option Expr}
      {puts others : List Put} (hbody : ExecutesAll quiet mode body puts)
      (hfinalizer : ExecutesAll quiet mode finalizer others) :
      Executes quiet mode (.tryCatch body param handler finalizer)
        (puts ++ others.map Put.underFinally)
  | yes {test : Expr} {yes : Stmt} {no : Option Stmt} {puts : List Put}
      (htest : Tests quiet mode test true) (h : Executes quiet mode yes puts) :
      Executes quiet mode (.ifThen test yes no) puts
  | no {test : Expr} {yes no : Stmt} {puts : List Put} (htest : Tests quiet mode test false)
      (h : Executes quiet mode no puts) : Executes quiet mode (.ifThen test yes (some no)) puts
  | skip {test : Expr} {yes : Stmt} (htest : Tests quiet mode test false) :
      Executes quiet mode (.ifThen test yes none) []

/-- An execution of statements in order. -/
inductive ExecutesAll (quiet : Expr → Prop) (mode : Mode) : List Stmt → List Put → Prop where
  | nil : ExecutesAll quiet mode [] []
  | cons {first : Stmt} {rest : List Stmt} {puts others : List Put}
      (hfirst : Executes quiet mode first puts) (hrest : ExecutesAll quiet mode rest others) :
      ExecutesAll quiet mode (first :: rest) (puts ++ others)

end

/-! ## What executions come from -/

section Inversion

variable {quiet : Expr → Prop} {mode : Mode} {puts : List Put}

/-- Values put nothing on the exports. -/
theorem eq_nil_of_evaluates :
    ∀ {e : Expr} {puts : List Put}, IsValue e → Evaluates quiet mode e puts → puts = []
  | _, _, .ident, .value _ => rfl
  | _, _, .literal, .value _ => rfl
  | _, _, .negative, .value _ => rfl
  | _, _, .negative, .unary (.value _) => rfl
  | _, _, .this, .value _ => rfl
  | _, _, .void _, .value _ => rfl
  | _, _, .void h, .unary heval => eq_nil_of_evaluates h heval
  | _, _, .paren _, .value _ => rfl
  | _, _, .paren h, .paren heval => eq_nil_of_evaluates h heval
  | _, _, .object _, .value _ => rfl

/-- A value puts nothing on the exports. -/
theorem evaluates_value_iff {e : Expr} (h : IsValue e) :
    Evaluates quiet mode e puts ↔ puts = [] := by
  constructor
  · exact eq_nil_of_evaluates h
  · rintro rfl
    exact .value h

/-- Parentheses change nothing. -/
theorem evaluates_paren_iff {inner : Expr} :
    Evaluates quiet mode (.paren inner) puts ↔ Evaluates quiet mode inner puts := by
  constructor
  · intro h
    cases h with
    | paren h => exact h
    | value h =>
      cases h with
      | paren h => exact .value h
  · exact .paren

/-- A unary operator evaluates its operand. -/
theorem evaluates_unary_iff {op : UnaryOp} {operand : Expr} :
    Evaluates quiet mode (.unary op operand) puts ↔ Evaluates quiet mode operand puts := by
  constructor
  · intro h
    cases h with
    | unary h => exact h
    | value h =>
      cases h with
      | negative => exact .value .literal
      | void h => exact .value h
  · exact .unary

/-- A target is at most one property of the exports. -/
theorem Places.unique {target : Expr} {key other : String} (h : Places target key)
    (h' : Places target other) : key = other := by
  cases h with
  | member h => cases h' with
    | member h' => rfl
  | index h hkey => cases h' with
    | index h' hother => simpa using hkey.symm.trans hother

/-- An assignment evaluates its right side, and then puts its key. -/
theorem evaluates_assign_iff {target right : Expr} {key : String} (htarget : Places target key) :
    Evaluates quiet mode (.assign .plain target right) puts ↔
      ∃ front, Evaluates quiet mode right front ∧ puts = front ++ [.now key] := by
  constructor
  · intro h
    cases h with
    | value h => cases h
    | @assign _ _ _ front hother hright =>
      rw [htarget.unique hother]
      exact ⟨front, hright, rfl⟩
  · rintro ⟨front, hright, rfl⟩
    exact .assign htarget hright

/-- A sequence evaluates its items. -/
theorem evaluates_sequence_iff {items : List Expr} :
    Evaluates quiet mode (.sequence items) puts ↔ EvaluatesAll quiet mode items puts := by
  constructor
  · intro h
    cases h with
    | value h => cases h
    | sequence h => exact h
  · exact .sequence

/-- A conditional expression evaluates the arm that its test selects. -/
theorem evaluates_conditional_iff {test yes no : Expr} :
    Evaluates quiet mode (.conditional test yes no) puts ↔
      Tests quiet mode test true ∧ Evaluates quiet mode yes puts ∨
        Tests quiet mode test false ∧ Evaluates quiet mode no puts := by
  constructor
  · intro h
    cases h with
    | value h => cases h
    | yes htest h => exact Or.inl ⟨htest, h⟩
    | no htest h => exact Or.inr ⟨htest, h⟩
  · rintro (⟨htest, h⟩ | ⟨htest, h⟩)
    · exact .yes htest h
    · exact .no htest h

/-- The right operand of `&&` is evaluated if the left one holds. -/
theorem evaluates_and_iff {left right : Expr} :
    Evaluates quiet mode (.logical .and left right) puts ↔
      Tests quiet mode left true ∧ Evaluates quiet mode right puts ∨
        Tests quiet mode left false ∧ puts = [] := by
  constructor
  · intro h
    cases h with
    | value h => cases h
    | andSkips hleft => exact Or.inr ⟨hleft, rfl⟩
    | andGoesOn hleft hright => exact Or.inl ⟨hleft, hright⟩
  · rintro (⟨hleft, hright⟩ | ⟨hleft, rfl⟩)
    · exact .andGoesOn hleft hright
    · exact .andSkips hleft

/-- The right operand of `||` is evaluated if the left one does not hold. -/
theorem evaluates_or_iff {left right : Expr} :
    Evaluates quiet mode (.logical .or left right) puts ↔
      Tests quiet mode left true ∧ puts = [] ∨
        Tests quiet mode left false ∧ Evaluates quiet mode right puts := by
  constructor
  · intro h
    cases h with
    | value h => cases h
    | orSkips hleft => exact Or.inl ⟨hleft, rfl⟩
    | orGoesOn hleft hright => exact Or.inr ⟨hleft, hright⟩
  · rintro (⟨hleft, rfl⟩ | ⟨hleft, hright⟩)
    · exact .orSkips hleft
    · exact .orGoesOn hleft hright

/-- A call that defines a property is not one that runs a function where it is written. -/
theorem invoked?_of_dotted? {callee : Expr}
    (h : callee.dotted? = some ["Object", "defineProperty"]) : callee.invoked? = none := by
  fun_induction Expr.invoked? callee with
  | case1 inner ih => exact ih h
  | case2 owner name hname =>
    obtain ⟨base, hshape, -⟩ := Expr.exists_member_of_isMemberOf (Expr.dotted?_eq_pair_iff.mp h)
    obtain ⟨-, rfl⟩ := Expr.member.inj hshape
    simp at hname
  | case3 => rfl
  | case4 code => simp [Expr.dotted?] at h
  | case5 code => simp [Expr.dotted?] at h
  | case6 => rfl

/-- A call that defines a property runs no function where it is written. -/
theorem Defines.not_invokes {callee : Expr} {args : List Expr} {key : String} {code : Code}
    (h : Defines callee args key) : ¬ Invokes callee args code := by
  intro hcall
  have hfunction := hcall.function
  rw [invoked?_of_dotted? h.callee] at hfunction
  cases hfunction

/-- A call that defines a property puts its key. -/
theorem evaluates_define_iff {callee : Expr} {args : List Expr} {key : String}
    (hdefine : Defines callee args key) :
    Evaluates quiet mode (.call callee args) puts ↔ puts = [.now key] := by
  constructor
  · intro h
    cases h with
    | value h => cases h
    | define hother =>
      obtain ⟨_, _, hargs, -⟩ := hdefine.args
      obtain ⟨_, _, hothers, -⟩ := hother.args
      simp_all
    | invoke hcall hbody => exact absurd hcall hdefine.not_invokes
  · rintro rfl
    exact .define hdefine

/-- A call of a function executes its body. -/
theorem evaluates_invoke_iff {callee : Expr} {args : List Expr} {code : Code}
    (hcall : Invokes callee args code) :
    Evaluates quiet mode (.call callee args) puts ↔ ExecutesAll quiet mode code.body puts := by
  constructor
  · intro h
    cases h with
    | value h => cases h
    | define hdefine => exact absurd hcall hdefine.not_invokes
    | invoke hother hbody => rwa [hcall.unique hother]
  · exact .invoke hcall

theorem evaluatesAll_nil_iff : EvaluatesAll quiet mode [] puts ↔ puts = [] := by
  constructor
  · intro h
    cases h
    rfl
  · rintro rfl
    exact .nil

/-- Several expressions are evaluated one after the other. -/
theorem evaluatesAll_cons_iff {first : Expr} {rest : List Expr} :
    EvaluatesAll quiet mode (first :: rest) puts ↔ ∃ front back,
      Evaluates quiet mode first front ∧ EvaluatesAll quiet mode rest back ∧
        puts = front ++ back := by
  constructor
  · intro h
    cases h with
    | cons hfirst hrest => exact ⟨_, _, hfirst, hrest, rfl⟩
  · rintro ⟨front, back, hfirst, hrest, rfl⟩
    exact .cons hfirst hrest

theorem initializes_nil_iff : Initializes quiet mode [] puts ↔ puts = [] := by
  constructor
  · intro h
    cases h
    rfl
  · rintro rfl
    exact .nil

/-- Initial values are evaluated one after the other. -/
theorem initializes_init_iff {target init : Expr} {rest : List Declarator} :
    Initializes quiet mode (.mk target (some init) :: rest) puts ↔ ∃ front back,
      Evaluates quiet mode init front ∧ Initializes quiet mode rest back ∧
        puts = front ++ back := by
  constructor
  · intro h
    cases h with
    | init hinit hrest => exact ⟨_, _, hinit, hrest, rfl⟩
  · rintro ⟨front, back, hinit, hrest, rfl⟩
    exact .init hinit hrest

theorem initializes_bare_iff {target : Expr} {rest : List Declarator} :
    Initializes quiet mode (.mk target none :: rest) puts ↔ Initializes quiet mode rest puts := by
  constructor
  · intro h
    cases h with
    | bare hrest => exact hrest
  · exact .bare

/-- An expression statement evaluates its expression. -/
theorem executes_expr_iff {e : Expr} :
    Executes quiet mode (.expr e) puts ↔ Evaluates quiet mode e puts := by
  constructor
  · intro h
    cases h with
    | expr h => exact h
  · exact .expr

/-- A declaration evaluates its initial values. -/
theorem executes_declare_iff {kind : DeclKind} {items : List Declarator} :
    Executes quiet mode (.declare kind items) puts ↔ Initializes quiet mode items puts := by
  constructor
  · intro h
    cases h with
    | declare h => exact h
  · exact .declare

/-- A block executes its statements. -/
theorem executes_block_iff {body : List Stmt} :
    Executes quiet mode (.block body) puts ↔ ExecutesAll quiet mode body puts := by
  constructor
  · intro h
    cases h with
    | block h => exact h
  · exact .block

/-- A `try` statement executes its block and, whatever handler there is, its `finally` block. -/
theorem executes_tryCatch_iff {body handler finalizer : List Stmt} {param : Option Expr} :
    Executes quiet mode (.tryCatch body param handler finalizer) puts ↔ ∃ front back,
      ExecutesAll quiet mode body front ∧ ExecutesAll quiet mode finalizer back ∧
        puts = front ++ back.map Put.underFinally := by
  constructor
  · intro h
    cases h with
    | tryCatch hbody hfinalizer => exact ⟨_, _, hbody, hfinalizer, rfl⟩
  · rintro ⟨front, back, hbody, hfinalizer, rfl⟩
    exact .tryCatch hbody hfinalizer

/-- An `if` executes its branch if its test holds. -/
theorem executes_ifThen_iff {test : Expr} {yes : Stmt} :
    Executes quiet mode (.ifThen test yes none) puts ↔
      Tests quiet mode test true ∧ Executes quiet mode yes puts ∨
        Tests quiet mode test false ∧ puts = [] := by
  constructor
  · intro h
    cases h with
    | yes htest h => exact Or.inl ⟨htest, h⟩
    | skip htest => exact Or.inr ⟨htest, rfl⟩
  · rintro (⟨htest, h⟩ | ⟨htest, rfl⟩)
    · exact .yes htest h
    · exact .skip htest

/-- An `if` with an `else` executes the branch that its test selects. -/
theorem executes_ifElse_iff {test : Expr} {yes no : Stmt} :
    Executes quiet mode (.ifThen test yes (some no)) puts ↔
      Tests quiet mode test true ∧ Executes quiet mode yes puts ∨
        Tests quiet mode test false ∧ Executes quiet mode no puts := by
  constructor
  · intro h
    cases h with
    | yes htest h => exact Or.inl ⟨htest, h⟩
    | no htest h => exact Or.inr ⟨htest, h⟩
  · rintro (⟨htest, h⟩ | ⟨htest, h⟩)
    · exact .yes htest h
    · exact .no htest h

theorem executesAll_nil_iff : ExecutesAll quiet mode [] puts ↔ puts = [] := by
  constructor
  · intro h
    cases h
    rfl
  · rintro rfl
    exact .nil

/-- Several statements are executed one after the other. -/
theorem executesAll_cons_iff {first : Stmt} {rest : List Stmt} :
    ExecutesAll quiet mode (first :: rest) puts ↔ ∃ front back,
      Executes quiet mode first front ∧ ExecutesAll quiet mode rest back ∧
        puts = front ++ back := by
  constructor
  · intro h
    cases h with
    | cons hfirst hrest => exact ⟨_, _, hfirst, hrest, rfl⟩
  · rintro ⟨front, back, hfirst, hrest, rfl⟩
    exact .cons hfirst hrest

end Inversion

/-! ## The fragment -/

/-- A variable that hides neither `exports` nor `module`. -/
def IsVariable (e : Expr) : Prop :=
  ∃ name, e = .ident name ∧ name ≠ "exports" ∧ name ≠ "module"

/-- No variable of a function hides `exports` or `module`: not its own name and no parameter. -/
def Code.HidesNothing : Code → Prop
  | .mk name _ _ params _ =>
    name ≠ some "exports" ∧ name ≠ some "module" ∧ ∀ param ∈ params, IsVariable param

/-- Values, and chains of assignments that end in one. -/
inductive IsChain : Expr → Prop where
  | value {e : Expr} (h : IsValue e) : IsChain e
  | paren {inner : Expr} (h : IsChain inner) : IsChain (.paren inner)
  | assign {target right : Expr} {key : String} (htarget : Places target key)
      (hright : IsChain right) : IsChain (.assign .plain target right)

mutual

/-- Expressions of the fragment. -/
inductive IsEffect (quiet : Expr → Prop) : Expr → Prop where
  | chain {e : Expr} (h : IsChain e) : IsEffect quiet e
  | define {callee : Expr} {args : List Expr} {key : String} (h : Defines callee args key) :
      IsEffect quiet (.call callee args)
  | invoke {callee : Expr} {args : List Expr} {code : Code} (hcall : Invokes callee args code)
      (hnames : code.HidesNothing) (hbody : AreStatements quiet code.body) :
      IsEffect quiet (.call callee args)
  | paren {inner : Expr} (h : IsEffect quiet inner) : IsEffect quiet (.paren inner)
  | unary {op : UnaryOp} {operand : Expr} (h : IsEffect quiet operand) :
      IsEffect quiet (.unary op operand)
  | sequence {items : List Expr} (h : AreEffects quiet items) :
      IsEffect quiet (.sequence items)
  | conditional {test yes no : Expr} (htest : IsCondition quiet test)
      (hyes : IsEffect quiet yes) (hno : IsEffect quiet no) :
      IsEffect quiet (.conditional test yes no)
  | and {left right : Expr} (hleft : IsCondition quiet left) (hright : IsEffect quiet right) :
      IsEffect quiet (.logical .and left right)
  | or {left right : Expr} (hleft : IsCondition quiet left) (hright : IsEffect quiet right) :
      IsEffect quiet (.logical .or left right)

/-- Lists of expressions of the fragment. -/
inductive AreEffects (quiet : Expr → Prop) : List Expr → Prop where
  | nil : AreEffects quiet []
  | cons {first : Expr} {rest : List Expr} (hfirst : IsEffect quiet first)
      (hrest : AreEffects quiet rest) : AreEffects quiet (first :: rest)

/-- Declared variables of the fragment. -/
inductive AreDeclarators (quiet : Expr → Prop) : List Declarator → Prop where
  | nil : AreDeclarators quiet []
  | bare {target : Expr} {rest : List Declarator} (htarget : IsVariable target)
      (hrest : AreDeclarators quiet rest) :
      AreDeclarators quiet (.mk target none :: rest)
  | init {target init : Expr} {rest : List Declarator} (htarget : IsVariable target)
      (hinit : IsEffect quiet init) (hrest : AreDeclarators quiet rest) :
      AreDeclarators quiet (.mk target (some init) :: rest)

/-- Statements of the fragment. -/
inductive IsStatement (quiet : Expr → Prop) : Stmt → Prop where
  | expr {e : Expr} (h : IsEffect quiet e) : IsStatement quiet (.expr e)
  | declare {kind : DeclKind} {items : List Declarator} (h : AreDeclarators quiet items) :
      IsStatement quiet (.declare kind items)
  | block {body : List Stmt} (h : AreStatements quiet body) :
      IsStatement quiet (.block body)
  | tryCatch {body handler finalizer : List Stmt} {param : Option Expr}
      (hbody : AreStatements quiet body) (hparam : ∀ e ∈ param, IsVariable e)
      (hhandler : AreStatements quiet handler) (hfinalizer : AreStatements quiet finalizer) :
      IsStatement quiet (.tryCatch body param handler finalizer)
  | ifThen {test : Expr} {yes : Stmt} (htest : IsCondition quiet test)
      (hyes : IsStatement quiet yes) : IsStatement quiet (.ifThen test yes none)
  | ifElse {test : Expr} {yes no : Stmt} (htest : IsCondition quiet test)
      (hyes : IsStatement quiet yes) (hno : IsStatement quiet no) :
      IsStatement quiet (.ifThen test yes (some no))

/-- Programs of the fragment. -/
inductive AreStatements (quiet : Expr → Prop) : List Stmt → Prop where
  | nil : AreStatements quiet []
  | cons {first : Stmt} {rest : List Stmt} (hfirst : IsStatement quiet first)
      (hrest : AreStatements quiet rest) : AreStatements quiet (first :: rest)

end

end NamedExports.Script
