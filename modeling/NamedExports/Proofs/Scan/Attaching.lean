import NamedExports.Proofs.Scan.Immediate
import NamedExports.Proofs.Script.Renaming

/-!
# Statements that assign properties to the exports

`StmtsAttach` holds of statements that put properties on `exports` by assignment and in no other
way, so that another name can stand for `exports` in them.  `stmtsFollowed` leaves of statements
what the first look at a program follows.  It passes over conditional and logical expressions, over
the initial values of variables, and over operands in which no function is called where it is
written; and it follows whatever is assigned to a property.
-/

namespace NamedExports.Script

/-- Whether calls of an expression define or copy properties. -/
def Expr.isExporter (callee : Expr) : Bool :=
  callee.isMemberOf "Object" "defineProperty" || callee.isMemberOf "Object" "assign" ||
    callee.calleeName?.any reexportHelpers.contains || (Context.iteratedKeys? callee).isSome

/-- Whether neither look has anything to do with an expression. -/
def Expr.isInert : Expr → Bool
  | .paren _ | .unary _ _ | .logical _ _ _ | .conditional _ _ _ | .assign _ _ _ | .sequence _ =>
    false
  | .call callee _ => callee.invoked?.isNone && !callee.isExporter
  | _ => true

/-- If a target is a property, it is one of the object that goes by a name. -/
def Expr.PropertyOf (owner : String) (target : Expr) : Prop :=
  ∀ base key, target.propertyTarget? = some (base, key) → base.identName? = some owner

/-- A declared name is neither `exports` nor the given one. -/
structure Apart (name other : String) : Prop where
  ne_exports : other ≠ "exports"
  ne_name : other ≠ name

mutual

/-- An expression puts properties on its exports by assignment, and only so.  It declares neither
`exports` nor a given name. -/
inductive Expr.Attaches (name : String) : Expr → Prop where
  | inert {e : Expr} (h : e.isInert = true) : Expr.Attaches name e
  | paren {inner : Expr} (h : inner.Attaches name) : Expr.Attaches name (.paren inner)
  | unary {op : UnaryOp} {operand : Expr} (h : operand.Attaches name) :
      Expr.Attaches name (.unary op operand)
  | logical {op : LogicalOp} {left right : Expr} (hright : right.Attaches name) :
      Expr.Attaches name (.logical op left right)
  | conditional {test yes no : Expr} (hyes : yes.Attaches name) (hno : no.Attaches name) :
      Expr.Attaches name (.conditional test yes no)
  | sequence {items : List Expr} (h : ExprsAttach name items) :
      Expr.Attaches name (.sequence items)
  /-- The only properties that are assigned are those of `exports`. -/
  | assign {op : AssignOp} {target value : Expr} (htarget : target.PropertyOf "exports")
      (hvalue : value.Attaches name) : Expr.Attaches name (.assign op target value)
  | invoke {callee : Expr} {args : List Expr} {code : Code} (hcall : callee.invoked? = some code)
      (hbody : StmtsAttach name code.body) : Expr.Attaches name (.call callee args)

/-- Expressions that only put properties on their exports by assignment. -/
inductive ExprsAttach (name : String) : List Expr → Prop where
  | nil : ExprsAttach name []
  | cons {first : Expr} {rest : List Expr} (hfirst : first.Attaches name)
      (hrest : ExprsAttach name rest) : ExprsAttach name (first :: rest)

/-- Declared variables whose initial values only put properties on the exports by assignment. -/
inductive DeclaratorsAttach (name : String) : List Declarator → Prop where
  | nil : DeclaratorsAttach name []
  | bare {target : Expr} {rest : List Declarator} (hrest : DeclaratorsAttach name rest) :
      DeclaratorsAttach name (.mk target none :: rest)
  | init {target init : Expr} {rest : List Declarator}
      (htarget : ∀ other, target = .ident other → Apart name other) (hinit : init.Attaches name)
      (hrest : DeclaratorsAttach name rest) :
      DeclaratorsAttach name (.mk target (some init) :: rest)

/-- A statement that only puts properties on its exports by assignment.  Of statements that neither
look goes into nothing is asked. -/
inductive Stmt.Attaches (name : String) : Stmt → Prop where
  | expr {e : Expr} (h : e.Attaches name) : Stmt.Attaches name (.expr e)
  | declare {kind : DeclKind} {items : List Declarator} (h : DeclaratorsAttach name items) :
      Stmt.Attaches name (.declare kind items)
  | function {code : Code} (h : ∀ other ∈ code.name, Apart name other) :
      Stmt.Attaches name (.function code)
  | class {own : Option String} {parts : List Expr} (h : ∀ other ∈ own, Apart name other) :
      Stmt.Attaches name (.class own parts)
  | block {body : List Stmt} (h : StmtsAttach name body) : Stmt.Attaches name (.block body)
  | ifThen {test : Expr} {yes : Stmt} (hyes : yes.Attaches name) :
      Stmt.Attaches name (.ifThen test yes none)
  | ifElse {test : Expr} {yes no : Stmt} (hyes : yes.Attaches name) (hno : no.Attaches name) :
      Stmt.Attaches name (.ifThen test yes (some no))
  | tryCatch {body handler finalizer : List Stmt} {param : Option Expr}
      (hbody : StmtsAttach name body) :
      Stmt.Attaches name (.tryCatch body param handler finalizer)
  | return {value : Option Expr} : Stmt.Attaches name (.return value)
  | other {form : StmtForm} {exprs : List Expr} {body : List Stmt} :
      Stmt.Attaches name (.other form exprs body)

/-- Statements that only put properties on their exports by assignment. -/
inductive StmtsAttach (name : String) : List Stmt → Prop where
  | nil : StmtsAttach name []
  | cons {first : Stmt} {rest : List Stmt} (hfirst : first.Attaches name)
      (hrest : StmtsAttach name rest) : StmtsAttach name (first :: rest)

end

/-! ## What the first look follows -/

mutual

/-- What the first look follows of an expression.  What it passes over is left out, and an assigned
value is written beside its assignment, since the first look follows it as an expression of its
own. -/
def Expr.followed : Expr → Expr
  | .paren inner => .paren inner.followed
  | .unary op operand => .unary op operand.operandFollowed
  | .logical _ _ _ => .other .hole []
  | .conditional _ _ _ => .other .hole []
  | .sequence items => .sequence (exprsFollowed items)
  | .assign op target value => .sequence [.assign op target (.other .hole []), value.followed]
  | .call callee args =>
    match callee.invokedFollowed? with
    | some body => immediately body
    | none => .call callee args
  | e => e

/-- What is followed of the operand of an operator: a function that is called where it stands. -/
def Expr.operandFollowed : Expr → Expr
  | .paren inner => inner.operandFollowed
  | .call callee _ =>
    match callee.invokedFollowed? with
    | some body => immediately body
    | none => .other .hole []
  | _ => .other .hole []

/-- What is followed of the body of a function that is called where it is written. -/
def Expr.invokedFollowed? : Expr → Option (List Stmt)
  | .paren inner => inner.invokedFollowed?
  | .member owner name => if Bindings.callsOwner name then owner.bodyFollowed? else none
  | .function (.mk _ _ _ _ statements) => some (stmtsFollowed statements)
  | .arrow (.mk _ _ _ _ statements) => some (stmtsFollowed statements)
  | _ => none

/-- What is followed of the body of a function. -/
def Expr.bodyFollowed? : Expr → Option (List Stmt)
  | .paren inner => inner.bodyFollowed?
  | .function (.mk _ _ _ _ statements) => some (stmtsFollowed statements)
  | .arrow (.mk _ _ _ _ statements) => some (stmtsFollowed statements)
  | _ => none

/-- What is followed of expressions in order. -/
def exprsFollowed : List Expr → List Expr
  | [] => []
  | first :: rest => first.followed :: exprsFollowed rest

/-- What the first look follows of a statement. -/
def Stmt.followed : Stmt → Stmt
  | .expr e => .expr e.followed
  | .declare _ _ => .other .empty [] []
  | .block body => .block (stmtsFollowed body)
  | .ifThen test yes none => .ifThen test yes.followed none
  | .ifThen test yes (some no) => .ifThen test yes.followed (some no.followed)
  | .tryCatch body param handler finalizer => .tryCatch (stmtsFollowed body) param handler finalizer
  | s => s

/-- What the first look follows of statements in order. -/
def stmtsFollowed : List Stmt → List Stmt
  | [] => []
  | first :: rest => first.followed :: stmtsFollowed rest

end

/-- The body of the function that an expression is is followed. -/
theorem Expr.bodyFollowed?_eq_map (e : Expr) :
    e.bodyFollowed? = e.function?.map fun code => stmtsFollowed code.body := by
  refine eq_map_function? (fun _ => rfl) (fun _ _ => rfl) (fun code => ?_) (fun code => ?_)
    (fun e he => ?_) e
  · cases code; rfl
  · cases code; rfl
  · cases e <;> first | rfl | cases he

/-- The body of the function that a callee runs is followed. -/
theorem Expr.invokedFollowed?_eq_map (e : Expr) :
    e.invokedFollowed? = e.invoked?.map fun code => stmtsFollowed code.body := by
  refine eq_map_invoked? bodyFollowed?_eq_map (fun _ => rfl) (fun _ _ => rfl) (fun code => ?_)
    (fun code => ?_) (fun e he => ?_) e
  · cases code; rfl
  · cases code; rfl
  · cases e <;> first | rfl | cases he

/-! ## The renamed statements -/

/-- Names that say by themselves what is meant. -/
def meaningful : List String := ["exports", "module", "process", "Object"] ++ reexportHelpers

/-- A name for each name: another one for `exports`, and itself for any other. -/
def exportsAs (name other : String) : String := if other = "exports" then name else other

variable {name : String}

/-- The renaming takes `exports` to the name. -/
@[simp] theorem exportsAs_exports : exportsAs name "exports" = name := rfl

/-- A name without a meaning of its own is no special one. -/
theorem ne_of_not_mem_meaningful {special : String} (hname : name ∉ meaningful)
    (hspecial : special ∈ meaningful) : name ≠ special := by
  rintro rfl
  exact hname hspecial

/-- What stands apart from a variable is not turned into it. -/
theorem Apart.exportsAs_ne {other : String} (h : Apart name other) :
    exportsAs name other ≠ name := by
  rw [exportsAs, if_neg h.ne_exports]
  exact h.ne_name

/-- No other special name is turned into the variable, or out of it. -/
theorem keptBy_exportsAs {special : String} (hname : name ∉ meaningful)
    (hspecial : special ∈ meaningful) (hne : special ≠ "exports") :
    KeptBy (exportsAs name) special := by
  intro other
  rw [exportsAs]
  split
  · rename_i hother
    refine iff_of_false (ne_of_not_mem_meaningful hname hspecial) ?_
    rintro rfl
    exact hne hother
  · rfl

/-- It keeps `process`, because no special name is renamed. -/
theorem keptBy_process (hname : name ∉ meaningful) : KeptBy (exportsAs name) "process" :=
  keptBy_exportsAs hname (by decide) (by decide)

/-- No helper is turned into the variable, or out of it. -/
theorem helper_exportsAs (hname : name ∉ meaningful) (other : String) :
    reexportHelpers.contains (exportsAs name other) = reexportHelpers.contains other := by
  rw [exportsAs]
  split
  · rename_i hother
    have hhelper : name ∉ reexportHelpers := fun hmem => hname (List.mem_append_right _ hmem)
    rw [hother, Bool.eq_iff_iff, List.contains_iff_mem, List.contains_iff_mem]
    exact iff_of_false hhelper (by decide)
  · rfl

namespace Expr

/-- What is called exports something itself, or not, whatever the exports are called. -/
theorem isExporter_renamed (hname : name ∉ meaningful) (callee : Expr) :
    (callee.renamed (exportsAs name)).isExporter = callee.isExporter := by
  have hobject : KeptBy (exportsAs name) "Object" :=
    keptBy_exportsAs hname (by decide) (by decide)
  rw [isExporter, isExporter, isMemberOf_renamed hobject, isMemberOf_renamed hobject,
    any_calleeName?_renamed (helper_exportsAs hname), iteratedKeys?_renamed hobject,
    Option.isSome_map]

/-- A renamed function is the function renamed. -/
theorem function?_renamed {f : String → String} (e : Expr) :
    (e.renamed f).function? = e.function?.map (Code.renamed f) := by
  fun_induction function? e with
  | case1 inner ih => exact ih
  | case2 code => rfl
  | case3 code => rfl
  | case4 e hparen hfunction harrow =>
    cases e with
    | paren inner => exact absurd rfl (hparen inner)
    | function code => exact absurd rfl (hfunction code)
    | arrow code => exact absurd rfl (harrow code)
    | _ => rfl

/-- A renamed callee runs the function renamed. -/
theorem invoked?_renamed {f : String → String} (e : Expr) :
    (e.renamed f).invoked? = e.invoked?.map (Code.renamed f) := by
  fun_induction invoked? e with
  | case1 inner ih => exact ih
  | case2 owner property hproperty =>
    rw [renamed, invoked?, if_pos hproperty, function?_renamed]
  | case3 owner property hproperty =>
    rw [renamed, invoked?, if_neg hproperty]
    rfl
  | case4 code => rfl
  | case5 code => rfl
  | case6 e hparen hmember hfunction harrow =>
    cases e with
    | paren inner => exact absurd rfl (hparen inner)
    | member owner property => exact absurd rfl (hmember owner property)
    | function code => exact absurd rfl (hfunction code)
    | arrow code => exact absurd rfl (harrow code)
    | _ => rfl

/-- An expression is inert, or not, whatever the exports are called. -/
theorem isInert_renamed (hname : name ∉ meaningful) (e : Expr) :
    (e.renamed (exportsAs name)).isInert = e.isInert := by
  cases e with
  | call callee args =>
    rw [renamed, isInert, isInert, isExporter_renamed hname, invoked?_renamed, Option.isNone_map]
  | _ => rfl

end Expr

/-! ## What neither look goes into -/

/-- An inert expression is followed no further. -/
theorem Expr.followed_of_isInert {e : Expr} (h : e.isInert = true) : e.followed = e := by
  cases e with
  | call callee args =>
    rw [isInert, Bool.and_eq_true, Option.isNone_iff_eq_none] at h
    rw [followed, invokedFollowed?_eq_map, h.1]
    rfl
  | paren _ | unary _ _ | logical _ _ _ | conditional _ _ _ | assign _ _ _ | sequence _ => cases h
  | _ => rfl

/-- An inert expression runs no function where it is written. -/
theorem Expr.called?_of_isInert {e : Expr} (h : e.isInert = true) : e.called? = none := by
  cases e with
  | call callee args =>
    rw [isInert, Bool.and_eq_true, Option.isNone_iff_eq_none] at h
    exact h.1
  | paren _ => cases h
  | _ => rfl

/-- A call of anything but an exporter makes nothing known. -/
theorem Bindings.call_of_not_isExporter {b : Bindings} {callee : Expr} {args : List Expr}
    (h : callee.isExporter = false) : b.call callee args = b := by
  rw [Expr.isExporter] at h
  simp only [Bool.or_eq_false_iff] at h
  obtain ⟨⟨⟨hdefine, -⟩, hhelper⟩, -⟩ := h
  have hexport : (callee.calleeName? == some "__export") = false := by
    rw [beq_eq_false_iff_ne]
    intro hcallee
    rw [hcallee] at hhelper
    cases hhelper
  simp only [Bindings.call, hdefine, hexport, Bool.false_eq_true, if_false]
  split
  · rfl
  · split <;> rfl

/-- An inert expression makes nothing known. -/
theorem Bindings.expr_of_isInert {mode : Mode} {b : Bindings} {e : Expr} (h : e.isInert = true) :
    b.expr mode e = b := by
  cases e with
  | call callee args =>
    rw [Expr.isInert, Bool.and_eq_true, Option.isNone_iff_eq_none, Bool.not_eq_true'] at h
    rw [expr, invoked_eq_map, h.1]
    exact call_of_not_isExporter h.2
  | paren _ | unary _ _ | logical _ _ _ | conditional _ _ _ | assign _ _ _ | sequence _ => cases h
  | _ => rfl

namespace Context

variable {c : Context}

/-- A call of anything but an exporter exports nothing. -/
theorem call_of_not_isExporter {callee : Expr} {args : List Expr}
    (h : callee.isExporter = false) : c.call callee args = ∅ := by
  rw [Expr.isExporter] at h
  simp only [Bool.or_eq_false_iff] at h
  obtain ⟨⟨⟨hdefine, hassign⟩, hhelper⟩, hloop⟩ := h
  rw [Option.isSome_eq_false_iff, Option.isNone_iff_eq_none] at hloop
  rw [call, hdefine, hassign, hhelper, hloop]
  rfl

/-- An inert expression exports nothing. -/
theorem expr_of_isInert {e : Expr} (h : e.isInert = true) : c.expr e = ∅ := by
  cases e with
  | call callee args =>
    rw [Expr.isInert, Bool.and_eq_true, Option.isNone_iff_eq_none, Bool.not_eq_true'] at h
    rw [expr, invoked_eq_map, h.1]
    exact call_of_not_isExporter h.2
  | paren _ | unary _ _ | logical _ _ _ | conditional _ _ _ | assign _ _ _ | sequence _ => cases h
  | _ => rfl

/-- An inert expression exports nothing in a chain of assignments. -/
theorem chain_of_isInert {e : Expr} (h : e.isInert = true) : c.chain e = ∅ := by
  cases e with
  | paren _ | assign _ _ _ => cases h
  | _ => rfl

/-- Of an operand the body of the function is left that is called where it is written. -/
theorem expr_operandFollowed (e : Expr) : c.expr e.operandFollowed =
    (e.called?.map fun code => c.stmts (stmtsFollowed code.body)).getD ∅ := by
  fun_induction Expr.called? e with
  | case1 inner ih => exact ih
  | case2 callee args =>
    rw [Expr.operandFollowed, Expr.invokedFollowed?_eq_map]
    cases callee.invoked? <;> rfl
  | case3 e hparen hcall =>
    cases e with
    | paren inner => exact absurd rfl (hparen inner)
    | call callee args => exact absurd rfl (hcall callee args)
    | _ => rfl

end Context

/-! ## Assignments to properties -/

/-- A property of anything but `module` is not `module.exports`. -/
theorem Expr.PropertyOf.not_moduleExports {owner : String} {target : Expr}
    (h : target.PropertyOf owner) (howner : owner ≠ "module") :
    target.isModuleExportsTarget = false := by
  cases target with
  | member base found => simp [isModuleExportsTarget, h base found rfl, howner]
  | _ => rfl

/-- A renamed property belongs to the renamed owner. -/
theorem Expr.PropertyOf.renamed {f : String → String} {owner : String} {target : Expr}
    (h : target.PropertyOf owner) : (target.renamed f).PropertyOf (f owner) := by
  intro base key hproperty
  rw [propertyTarget?_renamed, Option.map_eq_some_iff] at hproperty
  obtain ⟨⟨old, oldKey⟩, hold, hpair⟩ := hproperty
  obtain ⟨rfl, rfl⟩ := Prod.mk.inj hpair
  rw [identName?_renamed, h old oldKey hold]
  rfl

/-- A name is the exports object exactly if it is `exports`. -/
theorem Expr.isExportsObject_of_identName? {e : Expr} {owner : String}
    (h : e.identName? = some owner) : e.isExportsObject = (owner == "exports") := by
  have hmember : e.isModuleExports = false := by
    rw [isModuleExports, ← Bool.not_eq_true]
    intro hmember
    obtain ⟨base, hshape, -⟩ := exists_member_of_isMemberOf hmember
    simp [identName?, hshape] at h
  rw [isExportsObject, hmember, Bool.or_false, h]
  rfl

namespace Context

variable {c : Context} {target value : Expr}

/-- An assignment to a property of the exports exports its key, if that is known. -/
theorem assign_of_propertyOf_exports (hcalled : c.called = false)
    (h : target.PropertyOf "exports") :
    c.assign target value = .names (target.propertyTarget?.map Prod.snd).toList := by
  rw [assign, h.not_moduleExports (by decide), if_neg Bool.false_ne_true]
  cases hproperty : target.propertyTarget? with
  | none => rfl
  | some property =>
    have hbase := Expr.isExportsObject_of_identName? (h property.1 property.2 hproperty)
    simp [hcalled, hbase]

/-- An assignment to a property of another name exports nothing. -/
theorem assign_of_propertyOf_other {owner : String} (h : target.PropertyOf owner)
    (hexports : owner ≠ "exports") (hmodule : owner ≠ "module") : c.assign target value = ∅ := by
  rw [assign, h.not_moduleExports hmodule, if_neg Bool.false_ne_true]
  cases hproperty : target.propertyTarget? with
  | none => rfl
  | some property =>
    have hbase := Expr.isExportsObject_of_identName? (h property.1 property.2 hproperty)
    simp [hbase, hexports]

end Context

end NamedExports.Script
