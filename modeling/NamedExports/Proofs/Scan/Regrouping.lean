import Mathlib.Logic.Relation
import NamedExports.Proofs.Scan.Emission
import NamedExports.Proofs.Scan.Immediate

/-!
# Statements that are put into groups

A block, a `try` block and a function that is called where it is written run the statements inside
them, and the items of a sequence run one after the other.  Neither look at a program makes a
difference between statements and such a group of them, at any place that both looks go through:
`Program.findings_regrouped`.
-/

namespace NamedExports.Script

/-! ## Groups -/

/-- A statement does nothing but run some statements. -/
inductive Groups (body : List Stmt) : Stmt → Prop where
  /-- `{ … }` -/
  | block : Groups body (.block body)
  /-- `try { … } catch (param) {}` -/
  | tryCatch {param : Option Expr} : Groups body (.tryCatch body param [] [])
  /-- `(function () { … })();` -/
  | immediate {e : Expr} (h : e.immediate?.map Code.body = some body) : Groups body (.expr e)

/-- The ways to write a function that is called where it stands: `(function () { … })(args)`,
`(function () { … }(args))`, `!function () { … }(args)`, `(() => { … })(args)`,
`(function () { … }).call(this, args)` and `(function () { … }).apply(this, args)`. -/
def spellings (body : List Stmt) (args : List Expr) : List Expr :=
  let code := Code.mk none false false [] body
  [.call (.paren (.function code)) args,
    .paren (.call (.function code) args),
    .unary .not (.call (.function code) args),
    .call (.paren (.arrow code)) args,
    .call (.member (.paren (.function code)) "call") (.other .this [] :: args),
    .call (.member (.paren (.function code)) "apply") (.other .this [] :: args)]

/-- Each of the spellings of a call groups the body that it calls. -/
theorem groups_of_mem_spellings {body : List Stmt} {args : List Expr} {e : Expr}
    (h : e ∈ spellings body args) : Groups body (.expr e) := by
  refine .immediate ?_
  simp only [spellings, List.mem_cons, List.not_mem_nil, or_false] at h
  rcases h with rfl | rfl | rfl | rfl | rfl | rfl <;> rfl

/-- Some statements become others when a run of them is put into a group, or a sequence is taken
apart.  It happens among other statements, in a block, in a `try` block, in a branch, or in the body
of a function that is called where it is written. -/
inductive Regrouped : List Stmt → List Stmt → Prop where
  | group {body : List Stmt} {s : Stmt} (h : Groups body s) : Regrouped body [s]
  /-- `e₁, …, eₙ;` and `e₁; …; eₙ;` -/
  | sequence {items : List Expr} : Regrouped [.expr (.sequence items)] (items.map .expr)
  | among {run run' : List Stmt} (before after : List Stmt) (h : Regrouped run run') :
      Regrouped (before ++ run ++ after) (before ++ run' ++ after)
  | block {body body' : List Stmt} (h : Regrouped body body') :
      Regrouped [.block body] [.block body']
  | tryCatch {body body' handler finalizer : List Stmt} {param : Option Expr}
      (h : Regrouped body body') :
      Regrouped [.tryCatch body param handler finalizer] [.tryCatch body' param handler finalizer]
  | yes {test : Expr} {yes yes' : Stmt} {no : Option Stmt} (h : Regrouped [yes] [yes']) :
      Regrouped [.ifThen test yes no] [.ifThen test yes' no]
  | no {test : Expr} {yes no no' : Stmt} (h : Regrouped [no] [no']) :
      Regrouped [.ifThen test yes (some no)] [.ifThen test yes (some no')]
  | immediate {e e' : Expr} {body body' : List Stmt}
      (he : e.immediate?.map Code.body = some body) (he' : e'.immediate?.map Code.body = some body')
      (h : Regrouped body body') : Regrouped [.expr e] [.expr e']

/-! ## Both looks -/

/-- The first look follows expression statements as it does the items of a sequence. -/
theorem Bindings.stmts_map_expr (mode : Mode) (b : Bindings) (items : List Expr) :
    stmts mode b (items.map .expr) = exprs mode b items := by
  induction items generalizing b with
  | nil => rfl
  | cons first rest ih => exact ih (expr mode b first)

/-- The second look finds of expression statements what it finds of the items of a sequence. -/
theorem Context.stmts_map_expr (c : Context) (items : List Expr) :
    c.stmts (items.map .expr) = c.exprs items := by
  induction items with
  | nil => rfl
  | cons first rest ih => exact congrArg (c.expr first ++ ·) ih

/-- A list of one statement is scanned as the statement. -/
@[simp] theorem Context.stmts_singleton (c : Context) (s : Stmt) : c.stmts [s] = c.stmt s :=
  Findings.append_empty _

/-- Both looks go through some statements as through others, whatever they know already. -/
structure SeenAlike (body others : List Stmt) : Prop where
  first : ∀ (mode : Mode) (b : Bindings), b.stmts mode body = b.stmts mode others
  second : ∀ c : Context, c.stmts body = c.stmts others

namespace SeenAlike

variable {body body' : List Stmt} {s s' : Stmt}

/-- Statements that look alike as lists look alike by themselves, in the first look. -/
theorem stmt_first (h : SeenAlike [s] [s']) (mode : Mode) (b : Bindings) :
    b.stmt mode s = b.stmt mode s' :=
  h.first mode b

/-- The same in the second look. -/
theorem stmt_second (h : SeenAlike [s] [s']) (c : Context) : c.stmt s = c.stmt s' := by
  have hsingle := h.second c
  rwa [Context.stmts_singleton, Context.stmts_singleton] at hsingle

/-- One statement is seen as others are, if both looks say so of it alone. -/
theorem ofStmt (hfirst : ∀ (mode : Mode) (b : Bindings), b.stmts mode body = b.stmt mode s)
    (hsecond : ∀ c : Context, c.stmts body = c.stmt s) : SeenAlike body [s] where
  first := hfirst
  second c := (hsecond c).trans (Context.stmts_singleton c s).symm

/-- A function that is called where it stands looks like its body. -/
theorem ofImmediate {e : Expr} (h : e.immediate?.map Code.body = some body) :
    SeenAlike body [.expr e] := by
  obtain ⟨code, hcode, rfl⟩ := Option.map_eq_some_iff.mp h
  exact ofStmt (fun _ _ => (Bindings.expr_of_immediate? hcode).symm)
    fun _ => (Context.expr_of_immediate? hcode).symm

/-- Every group looks like what it groups. -/
theorem ofGroups (h : Groups body s) : SeenAlike body [s] := by
  cases h with
  | block => exact ofStmt (fun _ _ => rfl) fun _ => rfl
  | tryCatch => exact ofStmt (fun _ _ => rfl) fun _ => rfl
  | immediate h => exact ofImmediate h

/-- Looking alike is reflexive. -/
theorem refl (body : List Stmt) : SeenAlike body body := ⟨fun _ _ => rfl, fun _ => rfl⟩

/-- Looking alike is symmetric. -/
theorem symm (h : SeenAlike body body') : SeenAlike body' body :=
  ⟨fun mode b => (h.first mode b).symm, fun c => (h.second c).symm⟩

/-- Looking alike is transitive. -/
theorem trans {body'' : List Stmt} (h : SeenAlike body body') (h' : SeenAlike body' body'') :
    SeenAlike body body'' :=
  ⟨fun mode b => (h.first mode b).trans (h'.first mode b),
    fun c => (h.second c).trans (h'.second c)⟩

/-- Statements that look alike can be exchanged among others. -/
theorem among (h : SeenAlike body body') (before after : List Stmt) :
    SeenAlike (before ++ body ++ after) (before ++ body' ++ after) where
  first mode b := by simp only [Bindings.stmts_append, h.first]
  second c := by simp only [Context.stmts_append, h.second]

/-- A group of statements is seen as another one, if the statements are. -/
theorem ofBodies {s s' : Stmt} (hs : SeenAlike body [s]) (hs' : SeenAlike body' [s'])
    (h : SeenAlike body body') : SeenAlike [s] [s'] :=
  hs.symm.trans (h.trans hs')

/-- They can be exchanged as the branch of an `if` statement. -/
theorem yes (h : SeenAlike [s] [s']) (test : Expr) (no : Option Stmt) :
    SeenAlike [.ifThen test s no] [.ifThen test s' no] := by
  cases no with
  | none =>
    exact ofStmt (fun mode b => by simp only [Bindings.stmts, Bindings.stmt, h.stmt_first])
      fun c => by simp only [Context.stmts_singleton, Context.stmt, h.stmt_second]
  | some no =>
    exact ofStmt (fun mode b => by simp only [Bindings.stmts, Bindings.stmt, h.stmt_first])
      fun c => by simp only [Context.stmts_singleton, Context.stmt, h.stmt_second]

/-- They can be exchanged as the other branch. -/
theorem no (h : SeenAlike [s] [s']) (test : Expr) (yes : Stmt) :
    SeenAlike [.ifThen test yes (some s)] [.ifThen test yes (some s')] :=
  ofStmt (fun mode b => by simp only [Bindings.stmts, Bindings.stmt, h.stmt_first])
    fun c => by simp only [Context.stmts_singleton, Context.stmt, h.stmt_second]

/-- Programs that are seen alike have the same findings. -/
theorem findings_eq {program other : Program} (h : SeenAlike program other) (mode : Mode)
    (called : Bool) : program.findings mode called = other.findings mode called := by
  rw [Program.findings, Program.findings, Bindings.ofProgram, Bindings.ofProgram, h.first]
  exact h.second _

end SeenAlike

/-- Regrouped programs look alike, by induction over the places where groups may stand. -/
theorem Regrouped.seenAlike {body body' : List Stmt} (h : Regrouped body body') :
    SeenAlike body body' := by
  induction h with
  | group h => exact .ofGroups h
  | @sequence items =>
    refine (SeenAlike.ofStmt (Bindings.stmts_map_expr · · items) fun c => ?_).symm
    exact c.stmts_map_expr items
  | among before after _ ih => exact ih.among before after
  | block _ ih => exact .ofBodies (.ofGroups .block) (.ofGroups .block) ih
  | tryCatch _ ih =>
    exact .ofBodies (.ofStmt (fun _ _ => rfl) fun _ => rfl)
      (.ofStmt (fun _ _ => rfl) fun _ => rfl) ih
  | yes _ ih => exact ih.yes _ _
  | no _ ih => exact ih.no _ _
  | immediate he he' _ ih => exact .ofBodies (.ofImmediate he) (.ofImmediate he') ih

/-- Programs that differ in how their statements are grouped, at any depth and in any combination of
groups, have the same findings. -/
theorem Program.findings_regrouped {program other : Program}
    (h : Relation.EqvGen Regrouped program other) (mode : Mode) (called : Bool) :
    program.findings mode called = other.findings mode called := by
  have halike : SeenAlike program other := by
    induction h with
    | rel _ _ h => exact h.seenAlike
    | refl program => exact .refl program
    | symm _ _ _ ih => exact ih.symm
    | trans _ _ _ _ _ ih ih' => exact ih.trans ih'
  exact halike.findings_eq mode called

/-- `exports.key = 1` -/
def assigningKey (key : String) : Expr :=
  .assign .plain (exportsMember key) (.literal (.number "1"))

/-- `const x = require('m');` -/
def requiringModule : Stmt := .declare .const [.mk (.ident "x") (some (requireCall "m"))]

/-- `module.exports = x;` -/
def givingModule : Stmt := .expr (.assign .plain (.member (.ident "module") "exports") (.ident "x"))

/-- `(() => { module.exports = x; })();` -/
def givingAtOnce : Stmt :=
  .expr (.call (.paren (.arrow (.mk none false false [] [givingModule]))) [])

/-- `exports.a = 1, exports.b = 1; const x = require('m'); if (flag) module.exports = x;` -/
def ungrouped : Program :=
  [.expr (.sequence [assigningKey "a", assigningKey "b"]), requiringModule,
    .ifThen (.ident "flag") givingModule none]

/-- `try { exports.a = 1; exports.b = 1; const x = require('m'); } catch (e) {}` -/
def trying : Stmt :=
  .tryCatch [.expr (assigningKey "a"), .expr (assigningKey "b"), requiringModule]
    (some (.ident "e")) [] []

/-- `!function () { body }()` -/
def negatedCall (body : List Stmt) : Expr :=
  .unary .not (.call (.function (.mk none false false [] body)) [])

/-- `!function () { try { … } catch (e) {} }(); if (flag) (() => { module.exports = x; })();` -/
def grouped : Program :=
  [.expr (negatedCall [trying]), .ifThen (.ident "flag") givingAtOnce none]

/-- The name is declared in one group and given away in another, and its module is found. -/
theorem findings_regrouped_grouped :
    Relation.EqvGen Regrouped ungrouped grouped ∧
      grouped.findings .production false = ⟨["a", "b"], ["m"]⟩ := by
  have hapart : Regrouped ungrouped ([.expr (assigningKey "a"), .expr (assigningKey "b")] ++
      [requiringModule, .ifThen (.ident "flag") givingModule none]) :=
    .among [] _ .sequence
  have htry : Regrouped [.expr (assigningKey "a"), .expr (assigningKey "b"), requiringModule]
      [trying] :=
    .group .tryCatch
  have hspelt : negatedCall [trying] ∈ spellings [trying] [] := by simp [negatedCall, spellings]
  have hcall : Regrouped [trying] [.expr (negatedCall [trying])] :=
    .group (groups_of_mem_spellings hspelt)
  have hgive : Regrouped [.ifThen (.ident "flag") givingModule none]
      [.ifThen (.ident "flag") givingAtOnce none] :=
    .yes (.group (.immediate rfl))
  have hgrouped : Relation.EqvGen Regrouped ungrouped grouped := by
    refine .trans _ _ _ (.rel _ _ hapart) ?_
    refine .trans _ _ _ (.rel _ _ (htry.among [] _)) ?_
    refine .trans _ _ _ (.rel _ _ (hcall.among [] _)) ?_
    exact .rel _ _ (hgive.among [_] [])
  refine ⟨hgrouped, ?_⟩
  rw [← Program.findings_regrouped hgrouped]
  rfl

end NamedExports.Script
