import NamedExports.Proofs.Scan.Emission
import NamedExports.Proofs.Scan.Exactness

/-!
# Modules that are called

A module that is required in order to be called gives to `module.exports` what is called: another
module, to which the call is passed on, or a factory, which answers it.  What is given can be
written on the spot, stand behind a name, in a helper that wraps modules, or in the branch that the
mode takes.  What else the module puts on its exports does not matter to the call: a scan for the
call finds what is given and nothing else.
-/

namespace NamedExports.Script

/-! ## What is given -/

/-- What is called: another module, or a factory of objects with known keys. -/
inductive Given where
  | module (specifier : String)
  | factory (keys : List String)

namespace Given

/-- What a scan for the call finds in it. -/
def findings : Given → Findings
  | module specifier => .reexport specifier true
  | factory keys => .names keys

/-- What is known of a name that holds it: the module that it requires, and the keys that calling it
returns. -/
def known : Given → Option String × List String
  | module specifier => (some specifier, [])
  | factory keys => (none, keys)

end Given

/-- What is called is a helper that wraps a required module for interoperation. -/
def IsHelper (callee : Expr) : Prop :=
  ∃ name, callee.calleeName? = some name ∧ isInteropHelper name = true

/-- A value is an object literal, whose static keys are these. -/
def Expr.IsObject (e : Expr) (keys : List String) : Prop :=
  ∃ members, e.withoutParens = .object members ∧ staticKeys members = keys

/-- A body only returns an object literal. -/
def Code.ReturnsOnly (code : Code) (keys : List String) : Prop :=
  ∃ value, code.body = [.return (some value)] ∧ value.IsObject keys

/-- An expression makes what is called on the spot. -/
inductive Expr.Makes : Given → Expr → Prop
  | require {specifier : String} : Makes (.module specifier) (requireCall specifier)
  | wrapped {specifier : String} {callee : Expr} {rest : List Expr} (helper : IsHelper callee) :
      Makes (.module specifier) (.call callee (requireCall specifier :: rest))
  | function {keys : List String} {code : Code} (returns : code.ReturnsOnly keys) :
      Makes (.factory keys) (.function code)
  | arrow {keys : List String} {code : Code} (returns : code.ReturnsOnly keys) :
      Makes (.factory keys) (.arrow code)
  | arrowValue {keys : List String} {async : Bool} {params : List Expr} {value : Expr}
      (object : value.IsObject keys) : Makes (.factory keys) (.arrowValue async params value)
  | paren {given : Given} {inner : Expr} (made : Makes given inner) : Makes given (.paren inner)

/-- An expression comes to what is called in a mode, where names are known to hold some of it. -/
inductive Expr.Gives (mode : Mode) (held : String → Option Given) (given : Given) : Expr → Prop
  | made {e : Expr} (makes : e.Makes given) : Gives mode held given e
  | name {name : String} (holds : held name = some given) : Gives mode held given (.ident name)
  | wrapped {callee value : Expr} {rest : List Expr} (helper : IsHelper callee)
      (gives : Gives mode held given value) : Gives mode held given (.call callee (value :: rest))
  | whenTrue {test yes no : Expr} (holds : test.holdsIn? mode = some true)
      (gives : Gives mode held given yes) : Gives mode held given (.conditional test yes no)
  | whenFalse {test yes no : Expr} (fails : test.holdsIn? mode = some false)
      (gives : Gives mode held given no) : Gives mode held given (.conditional test yes no)
  | paren {inner : Expr} (gives : Gives mode held given inner) :
      Gives mode held given (.paren inner)

/-- `module.exports = value` -/
def exporting (value : Expr) : Expr := .assign .plain (.member (.ident "module") "exports") value

/-- A statement gives it to `module.exports`, alone or in the branch that the mode takes. -/
inductive Stmt.Gives (mode : Mode) (held : String → Option Given) (given : Given) : Stmt → Prop
  | assign {value : Expr} (gives : value.Gives mode held given) :
      Gives mode held given (.expr (exporting value))
  | block {s : Stmt} (gives : Gives mode held given s) : Gives mode held given (.block [s])
  | whenTrue {test : Expr} {yes : Stmt} {no : Option Stmt} (holds : test.holdsIn? mode = some true)
      (gives : Gives mode held given yes) : Gives mode held given (.ifThen test yes no)
  | whenFalse {test : Expr} {yes no : Stmt} (fails : test.holdsIn? mode = some false)
      (gives : Gives mode held given no) : Gives mode held given (.ifThen test yes (some no))

/-! ## What stands beside it -/

/-- A statement beside the one that gives what is called. -/
inductive Aside where
  /-- `'use strict';` -/
  | directive (value : Literal)
  /-- `exports.key = value;` or `module.exports.key = value;` -/
  | property (target : Expr) (key : String) (value : Literal) (places : Places target key)
  /-- `var name = require('specifier');`, and the like for a factory. -/
  | holder (kind : DeclKind) (name : String) (value : Expr) (given : Given)
      (makes : value.Makes given)
  /-- `function name() { return { … }; }` -/
  | factory (code : Code) (name : String) (keys : List String) (named : code.name = some name)
      (returns : code.ReturnsOnly keys)

namespace Aside

/-- The statement that it is. -/
def statement : Aside → Stmt
  | directive value => .expr (.literal value)
  | property target _ value _ => .expr (.assign .plain target (.literal value))
  | holder kind name value _ _ => .declare kind [.mk (.ident name) (some value)]
  | factory code _ _ _ _ => .function code

/-- What it makes a name hold. -/
def given? : Aside → String → Option Given
  | holder _ name _ given _, x => if x == name then some given else none
  | factory _ name keys _ _, x => if x == name then some (.factory keys) else none
  | _, _ => none

/-- What the last of several makes a name hold. -/
def held : List Aside → String → Option Given
  | [], _ => none
  | first :: rest, name => (held rest name).or (first.given? name)

/-- What the last of several statements makes a name hold counts. -/
theorem held_append (front back : List Aside) (name : String) :
    held (front ++ back) name = (held back name).or (held front name) := by
  induction front with
  | nil => exact Option.or_none.symm
  | cons first rest ih => rw [List.cons_append, held, ih, held, Option.or_assoc]

end Aside

/-- A program gives what is called to `module.exports` once, besides statements that do not matter
to the call. -/
def Program.Gives (mode : Mode) (given : Given) (program : Program) : Prop :=
  ∃ before s after, program = before.map Aside.statement ++ s :: after.map Aside.statement ∧
    s.Gives mode (Aside.held (before ++ after)) given

/-- A program exports what calling another module returns, and nothing else. -/
def Program.Calls (mode : Mode) (specifier : String) (program : Program) : Prop :=
  ∃ before args after,
    program = before ++ .expr (exporting (.call (requireCall specifier) args)) :: after ∧
      ∀ rest ∈ [before, after],
        Context.stmts ⟨mode, false, .ofProgram mode program⟩ rest = ∅

/-! ## Helpers -/

namespace IsHelper

variable {callee : Expr} {args : List Expr} {name property : String}

/-- The name of a helper is none of those that mean something else. -/
theorem calleeName?_ne (h : IsHelper callee) (hname : isInteropHelper name = false) :
    callee.calleeName? ≠ some name := by
  obtain ⟨helper, hcallee, hhelper⟩ := h
  rw [hcallee]
  intro e
  rw [Option.some.inj e, hname] at hhelper
  cases hhelper

/-- A helper's callee is no member of a name that could be taken for another function. -/
theorem isMemberOf_eq_false (h : IsHelper callee) (hname : isInteropHelper property = false) :
    callee.isMemberOf name property = false := by
  rw [← Bool.not_eq_true]
  exact fun hmember => h.calleeName?_ne hname (Expr.calleeName?_of_isMemberOf hmember)

/-- A call of a helper is no call of `require`. -/
theorem requiredSpecifier?_call (h : IsHelper callee) :
    (Expr.call callee args).requiredSpecifier? = none := by
  rw [Expr.requiredSpecifier?]
  split
  · rename_i found specifier hshape
    obtain ⟨rfl, -⟩ := Expr.call.inj hshape
    refine if_neg fun hrequire => ?_
    exact h.calleeName?_ne (by decide) (Expr.calleeName?_of_identName? (beq_iff_eq.mp hrequire))
  · rfl

/-- A helper is not what a call of `require` returns. -/
theorem requiredSpecifier?_callee (h : IsHelper callee) : callee.requiredSpecifier? = none := by
  rw [Option.eq_none_iff_forall_ne_some]
  intro specifier hspecifier
  obtain ⟨helper, hcallee, -⟩ := h
  rw [Expr.calleeName?_of_requiredSpecifier? hspecifier] at hcallee
  cases hcallee

/-- A helper's call with a value to wrap is one for interoperation. -/
theorem isInteropCall (h : IsHelper callee) {value : Expr} {rest : List Expr}
    (hvalue : value.asValue? = some value) : isInteropCall callee (value :: rest) = true := by
  obtain ⟨helper, hcallee, hhelper⟩ := h
  rw [Script.isInteropCall, hcallee]
  simp [hhelper, firstValue?, hvalue]

/-- A helper is no function that is run where it is written. -/
theorem invoked?_eq_none (h : IsHelper callee) : callee.invoked? = none := by
  fun_induction Expr.invoked? callee with
  | case1 inner ih => exact ih h
  | case2 owner name hname =>
    obtain ⟨helper, hcallee, hhelper⟩ := h
    rw [Expr.calleeName?] at hcallee
    obtain rfl := Option.some.inj hcallee
    rcases hname with rfl | rfl
    · exact absurd hhelper (by decide)
    · exact absurd hhelper (by decide)
  | case3 => rfl
  | case4 code => exact absurd h (by simp [IsHelper, Expr.calleeName?])
  | case5 code => exact absurd h (by simp [IsHelper, Expr.calleeName?])
  | case6 => rfl

end IsHelper

/-! ## What becomes known -/

/-- What is known of a name, apart from keys. -/
def Bindings.known (b : Bindings) (name : String) : Option (Option String × List String) :=
  (b.get? name).map fun binding => (binding.required, binding.returns)

section

variable {given : Given} {value : Expr} {keys : List String}

/-- A function that only returns one object has that object's keys. -/
theorem returnedKeys_of_returnsOnly {code : Code} (h : code.ReturnsOnly keys) :
    code.returnedKeys = keys := by
  obtain ⟨value, hbody, members, hshape, rfl⟩ := h
  rw [Code.returnedKeys, hbody]
  show (Returns.start.value value).keys = _
  rw [Returns.value, hshape]
  rfl

/-- An object's keys are known without running the program. -/
theorem valueKeys_of_isObject (h : value.IsObject keys) : value.valueKeys = keys := by
  obtain ⟨members, hshape, rfl⟩ := h
  rw [Expr.valueKeys, hshape]

/-- A variable that starts from what is called holds it. -/
theorem ofValue_of_makes (h : value.Makes given) :
    ((Binding.ofValue value).required, (Binding.ofValue value).returns) = given.known := by
  induction h with
  | require => rfl
  | wrapped helper =>
    rw [Binding.ofValue, helper.requiredSpecifier?_call, helper.isInteropCall rfl]
    rfl
  | function returns =>
    rw [Binding.ofValue, returnedKeys_of_returnsOnly returns]
    rfl
  | arrow returns =>
    rw [Binding.ofValue, returnedKeys_of_returnsOnly returns]
    rfl
  | arrowValue object =>
    rw [Binding.ofValue, valueKeys_of_isObject object]
    rfl
  | paren made ih => exact ih

end

namespace Bindings

variable {nodes : List Expr} {follow : Bindings → Bindings} {mode : Mode} {name : String}
  {held : String → Option Given} {given : Given}

/-- What a piece of a program makes known of a name replaces what was known. -/
theorem Changes.known_eq (h : Changes nodes follow) (b : Bindings) (name : String) :
    (follow b).known name = ((follow empty).known name).or (b.known name) := by
  obtain ⟨change, hchange, -⟩ := h name
  rw [known, known, hchange, hchange, known]
  cases change with
  | add keys => cases b.get? name <;> rfl
  | replace binding => rfl

/-- What is known after two lists of statements is what the second makes known, or else the
first. -/
theorem known_stmts_append (front back : List Stmt) (name : String) :
    (stmts mode empty (front ++ back)).known name =
      ((stmts mode empty back).known name).or ((stmts mode empty front).known name) := by
  rw [stmts_append, (stmts_changes mode back).known_eq]

/-- Nothing becomes known by an assignment where nothing is known. -/
theorem get?_assign_empty (target : Expr) : (empty.assign target).get? name = none := by
  rw [assign]
  split
  · split
    · exact get?_addKeys_of_none rfl
    · rfl
  · rfl

/-- Nothing becomes known by a call where nothing is known. -/
theorem get?_call_empty (callee : Expr) (args : List Expr) :
    (empty.call callee args).get? name = none := by
  simp only [call]
  split
  · rfl
  · split
    · split
      · exact get?_addKeys_of_none rfl
      · rfl
    · split
      · exact get?_addKeys_of_none rfl
      · rfl
    · rfl

/-- A name that is recorded holds what is recorded. -/
theorem known_set (b : Bindings) (binding : Binding) (x : String) :
    (b.set x binding).known name =
      if name == x then some (binding.required, binding.returns) else b.known name := by
  exact apply_ite (Option.map _) _ _ _

/-- A statement that stands aside makes known what the name holds by it. -/
theorem known_statement (aside : Aside) (name : String) :
    (stmt mode empty aside.statement).known name = (aside.given? name).map Given.known := by
  cases aside with
  | directive value => rfl
  | property target key value places =>
    show ((empty.assign target).get? name).map _ = none
    rw [get?_assign_empty, Option.map_none]
  | holder kind holder value given makes =>
    show (empty.set holder (.ofValue value)).known name = _
    rw [known_set, ofValue_of_makes makes, Aside.given?]
    split <;> rfl
  | factory code holder keys hname returns =>
    show (stmt mode empty (.function code)).known name = _
    rw [stmt, hname, known_set, returnedKeys_of_returnsOnly returns, Aside.given?]
    split <;> rfl

/-- What several statements make known of a name is what the last of them makes it hold. -/
theorem known_statements (asides : List Aside) (name : String) :
    (stmts mode empty (asides.map Aside.statement)).known name =
      (Aside.held asides name).map Given.known := by
  induction asides with
  | nil => rfl
  | cons first rest ih =>
    show (stmts mode (stmt mode empty first.statement) (rest.map _)).known name = _
    rw [(stmts_changes mode _).known_eq, ih, known_statement, Aside.held, Option.map_or]

/-- A call of a helper makes nothing known. -/
theorem get?_helperCall {callee : Expr} {args : List Expr} (h : IsHelper callee) :
    (expr mode empty (.call callee args)).get? name = none := by
  rw [expr, invoked_eq_map, h.invoked?_eq_none]
  exact get?_call_empty callee args

/-- A value that makes what is called records no name itself. -/
theorem get?_of_makes {value : Expr} (h : value.Makes given) :
    (expr mode empty value).get? name = none := by
  induction h with
  | wrapped helper => exact get?_helperCall helper
  | paren made ih => exact ih
  | _ => rfl

/-- A value that gives what is called records no name itself. -/
theorem get?_of_gives {value : Expr} (h : value.Gives mode held given) :
    (expr mode empty value).get? name = none := by
  induction h with
  | made makes => exact get?_of_makes makes
  | wrapped helper gives ih => exact get?_helperCall helper
  | paren gives ih => exact ih
  | _ => rfl

/-- A statement that gives what is called records no name either. -/
theorem get?_of_stmtGives {s : Stmt} (h : s.Gives mode held given) :
    (stmt mode empty s).get? name = none := by
  induction h with
  | @assign value gives =>
    show (expr mode (empty.assign _) value).get? name = none
    rw [(expr_changes mode value).get?_of_unknown (get?_assign_empty _), get?_of_gives gives]
  | block gives ih => exact ih
  | @whenTrue test yes no holds gives ih =>
    cases no with
    | none => simpa [stmt, holds] using ih
    | some no => simpa [stmt, holds] using ih
  | whenFalse fails gives ih => simpa [stmt, fails] using ih

/-- A name holds in a program what the last statement beside the one that gives makes it hold. -/
theorem known_program {before after : List Aside} {s : Stmt} (h : s.Gives mode held given) :
    (ofProgram mode (before.map Aside.statement ++ s :: after.map Aside.statement)).known name =
      (Aside.held (before ++ after) name).map Given.known := by
  -- the statement between the others makes no name known
  have hmiddle : (stmts mode empty [s]).known name = none := by
    show ((stmt mode empty s).get? name).map _ = none
    rw [get?_of_stmtGives h, Option.map_none]
  rw [ofProgram, ← List.singleton_append, known_stmts_append, known_stmts_append, hmiddle,
    Option.or_none, known_statements, known_statements, Aside.held_append, Option.map_or]

end Bindings

/-! ## What is found -/

namespace Context

variable {c : Context} {callee value e : Expr} {args rest : List Expr} {s : Stmt} {given : Given}
  {held : String → Option Given} {specifier : String}

/-- The scan sees through a helper. -/
theorem value_helperCall (h : IsHelper callee) (hvalue : value.asValue? = some value)
    (called : Bool) : c.value called (.call callee (value :: rest)) = c.value called value := by
  -- the helper is neither `require`, nor what it returns, nor `Object.assign`
  rw [Context.value, h.requiredSpecifier?_call, h.requiredSpecifier?_callee]
  show (if callee.isMemberOf "Object" "assign" then _ else _) = _
  rw [h.isMemberOf_eq_false (by decide), if_neg Bool.false_ne_true, h.isInteropCall hvalue,
    Bool.or_true, if_pos rfl, firstValue]

/-- A call of a helper exports nothing by itself. -/
theorem expr_helperCall (h : IsHelper callee) : c.expr (.call callee args) = ∅ := by
  have hiterated : iteratedKeys? callee = none := by
    rw [Option.eq_none_iff_forall_ne_some]
    exact fun source hsource =>
      h.calleeName?_ne (by decide) (Expr.calleeName?_of_iteratedKeys? hsource)
  have hhelper : callee.calleeName?.any reexportHelpers.contains = false := by
    obtain ⟨helper, hcallee, hhelper⟩ := h
    rw [hcallee, Option.any_some, ← Bool.not_eq_true, List.contains_iff_mem]
    intro hmem
    simp only [reexportHelpers, List.mem_cons, List.not_mem_nil, or_false] at hmem
    rcases hmem with rfl | rfl | rfl <;> exact absurd hhelper (by decide)
  rw [expr, invoked_eq_map, h.invoked?_eq_none]
  show c.call callee args = ∅
  rw [call, h.isMemberOf_eq_false (by decide), h.isMemberOf_eq_false (by decide), hhelper,
    hiterated]
  rfl

/-- Called, such a value exports what is called. -/
theorem value_of_makes (h : value.Makes given) : c.value true value = given.findings := by
  induction h with
  | require => rfl
  | wrapped helper => exact value_helperCall helper rfl true
  | function returns =>
    rw [Context.value, returnedKeys_of_returnsOnly returns]
    rfl
  | arrow returns =>
    rw [Context.value, returnedKeys_of_returnsOnly returns]
    rfl
  | arrowValue object =>
    rw [Context.value, valueKeys_of_isObject object]
    rfl
  | paren made ih =>
    rw [Context.value]
    exact ih

/-- Evaluated for its effect, it exports nothing. -/
theorem expr_of_makes (h : value.Makes given) : c.expr value = ∅ := by
  induction h with
  | wrapped helper => exact expr_helperCall helper
  | paren made ih =>
    rw [expr]
    exact ih
  | _ => rfl

/-- Called, a name that holds it exports what is called. -/
theorem named_of_known {name : String} (h : c.bindings.known name = some given.known) :
    c.named true name = given.findings := by
  obtain ⟨⟨keys, reexports, required, returns⟩, hbinding, hknown⟩ :=
    Option.map_eq_some_iff.mp h
  rw [named, lookup, hbinding]
  cases given with
  | module specifier =>
    obtain ⟨rfl, -⟩ := Prod.mk.inj hknown
    rfl
  | factory keys =>
    obtain ⟨rfl, rfl⟩ := Prod.mk.inj hknown
    rfl

/-- It is a value in a list of arguments. -/
theorem asValue?_of_makes (h : value.Makes given) : value.asValue? = some value := by
  cases h <;> rfl

/-- So is a value that gives what is called. -/
theorem asValue?_of_gives {mode : Mode} (h : value.Gives mode held given) :
    value.asValue? = some value := by
  cases h with
  | made makes => exact asValue?_of_makes makes
  | _ => rfl

/-- It is no assignment to the exports. -/
theorem assignsExports_of_makes (h : value.Makes given) : value.assignsExports = false := by
  induction h with
  | paren made ih => exact ih
  | _ => rfl

/-- Nor is a value that gives what is called. -/
theorem assignsExports_of_gives {mode : Mode} (h : value.Gives mode held given) :
    value.assignsExports = false := by
  induction h with
  | made makes => exact assignsExports_of_makes makes
  | paren gives ih => exact ih
  | _ => rfl

section

variable (hheld : ∀ name given, held name = some given →
    c.bindings.known name = some given.known)

include hheld

/-- Called, a value that gives what is called exports it. -/
theorem value_of_gives (h : value.Gives c.mode held given) :
    c.value true value = given.findings := by
  induction h with
  | made makes => exact value_of_makes makes
  | name holds =>
    rw [Context.value]
    exact named_of_known (hheld _ _ holds)
  | wrapped helper gives ih =>
    rw [value_helperCall helper (asValue?_of_gives gives), ih]
  | whenTrue holds gives ih => rw [Context.value, holds, ih]
  | whenFalse fails gives ih => rw [Context.value, fails, ih]
  | paren gives ih => rw [Context.value, ih]

/-- A statement that gives what is called exports it to a scan for a call. -/
theorem stmt_of_gives (hcalled : c.called = true) (h : s.Gives c.mode held given) :
    c.stmt s = given.findings := by
  induction h with
  | @assign value gives =>
    show c.value c.called value ++ c.chain value = _
    rw [hcalled, value_of_gives hheld gives,
      chain_of_not_assignsExports (assignsExports_of_gives gives), Findings.append_empty]
  | block gives ih =>
    show c.stmt _ ++ ∅ = _
    rw [ih, Findings.append_empty]
  | @whenTrue test yes no holds gives ih =>
    cases no with
    | none => simpa [stmt, holds] using ih
    | some no => simpa [stmt, holds] using ih
  | whenFalse fails gives ih => simpa [stmt, fails] using ih

end

/-- Beside what is given nothing counts when a module is called. -/
theorem stmt_statement (hcalled : c.called = true) (aside : Aside) :
    c.stmt aside.statement = ∅ := by
  cases aside with
  | directive value => rfl
  | property target key value places =>
    obtain ⟨base, hproperty, -⟩ := propertyTarget?_of_places places
    show c.assign target (.literal value) ++ c.chain (.literal value) = ∅
    rw [assign, isModuleExportsTarget_of_places places, if_neg Bool.false_ne_true, hproperty]
    show (if !c.called && _ then _ else _) ++ ∅ = ∅
    rw [hcalled]
    rfl
  | holder kind name value given makes =>
    show c.expr value ++ ∅ = ∅
    rw [expr_of_makes makes]
    rfl
  | factory code name keys named returns => rfl

/-- Statements that stand aside export nothing to a scan for a call. -/
theorem stmts_statements_of_called (hcalled : c.called = true) (asides : List Aside) :
    c.stmts (asides.map Aside.statement) = ∅ := by
  induction asides with
  | nil => rfl
  | cons first rest ih =>
    show c.stmt first.statement ++ c.stmts (rest.map _) = ∅
    rw [stmt_statement hcalled, ih]
    rfl

end Context

/-- A scan for the call of a program finds what the program gives, and nothing else. -/
theorem Program.findings_of_gives {mode : Mode} {given : Given} {program : Program}
    (h : program.Gives mode given) : program.findings mode true = given.findings := by
  obtain ⟨before, s, after, hprogram, hs⟩ := h
  have hheld : ∀ name given, Aside.held (before ++ after) name = some given →
      (Bindings.ofProgram mode program).known name = some given.known := by
    intro name given hname
    rw [hprogram, Bindings.known_program hs, hname, Option.map_some]
  have hfound : Context.stmt ⟨mode, true, .ofProgram mode program⟩ s = given.findings :=
    Context.stmt_of_gives hheld rfl hs
  have hbeside := @Context.stmts_statements_of_called ⟨mode, true, .ofProgram mode program⟩ rfl
  calc program.findings mode true
      = Context.stmts ⟨mode, true, .ofProgram mode program⟩
          (before.map Aside.statement ++ s :: after.map Aside.statement) :=
        congrArg _ hprogram
    _ = ∅ ++ (given.findings ++ ∅) := by
        rw [Context.stmts_append, hbeside]
        show ∅ ++ (Context.stmt _ s ++ Context.stmts _ (after.map Aside.statement)) = _
        rw [hfound, hbeside]
    _ = given.findings := by rw [Findings.empty_append, Findings.append_empty]

/-- A call of what `require` returns is no call of `require`. -/
theorem requiredSpecifier?_requireCall_call {specifier : String} {args : List Expr} :
    (Expr.call (requireCall specifier) args).requiredSpecifier? = none := by
  rw [Expr.requiredSpecifier?]
  split
  · rename_i callee found hshape
    obtain ⟨rfl, -⟩ := Expr.call.inj hshape
    rfl
  · rfl

/-- A scan of a program that exports what calling another module returns finds the call. -/
theorem Program.findings_of_calls {mode : Mode} {specifier : String} {program : Program}
    (h : program.Calls mode specifier) :
    program.findings mode false = .reexport specifier true := by
  obtain ⟨before, args, after, hprogram, hquiet⟩ := h
  have hcall : Context.stmt ⟨mode, false, .ofProgram mode program⟩
      (.expr (exporting (.call (requireCall specifier) args))) = .reexport specifier true := by
    show Context.value _ false (.call (requireCall specifier) args) ++ ∅ = _
    rw [Context.value, requiredSpecifier?_requireCall_call]
    rfl
  calc program.findings mode false
      = Context.stmts ⟨mode, false, .ofProgram mode program⟩
          (before ++ .expr (exporting (.call (requireCall specifier) args)) :: after) :=
        congrArg _ hprogram
    _ = ∅ ++ (.reexport specifier true ++ ∅) := by
        rw [Context.stmts_append, hquiet before (by simp)]
        show ∅ ++ (Context.stmt _ _ ++ Context.stmts _ after) = _
        rw [hcall, hquiet after (by simp)]
    _ = .reexport specifier true := by rw [Findings.empty_append, Findings.append_empty]

end NamedExports.Script
