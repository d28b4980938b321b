import NamedExports.Proofs.Scan.Findings
import NamedExports.Proofs.Scan.Immediate

/-!
# Exactness of the scan

On programs that export by assignment and by definition a scan finds the names that executions put
on the exports: those of every execution, and no others.  Only what follows `finally` is not looked
at.  `Exact` says so of findings and executions, and it is kept by everything that programs of the
fragment are built with.
-/

namespace NamedExports.Script

variable {quiet : Expr → Prop} {mode : Mode}

/-! ## Findings that are exact -/

/-- There are executions, and the names found are those that some execution puts on the exports, not
behind any `finally`. -/
structure Exact (found : Findings) (runs : List Put → Prop) : Prop where
  exists_run : ∃ puts, runs puts
  mem_iff : ∀ name, name ∈ found.exports ↔ ∃ puts, runs puts ∧ .now name ∈ puts

/-- What is found on two branches, given what is known of the condition. -/
def taken (decided : Option Bool) (yes no : Findings) : Findings :=
  match decided with
  | some true => yes
  | some false => no
  | none => yes ++ no

namespace Exact

variable {first rest yes no : Findings} {runs others : List Put → Prop}

/-- What is exact depends only on which executions there are. -/
theorem congr (h : Exact first runs) (hruns : ∀ puts, others puts ↔ runs puts) :
    Exact first others := by
  obtain rfl : others = runs := funext fun puts => propext (hruns puts)
  exact h

/-- Nothing is found where nothing is put. -/
theorem nothing : Exact ∅ (· = []) where
  exists_run := ⟨[], rfl⟩
  mem_iff name := by simp

/-- One name is found where just that name is put. -/
theorem single (key : String) : Exact (.names [key]) (· = [.now key]) where
  exists_run := ⟨[.now key], rfl⟩
  mem_iff name := by simp [Put.now]

/-- Executions in order. -/
theorem append (hfirst : Exact first runs) (hrest : Exact rest others) :
    Exact (first ++ rest) fun puts =>
      ∃ front back, runs front ∧ others back ∧ puts = front ++ back where
  exists_run := by
    obtain ⟨front, hfront⟩ := hfirst.exists_run
    obtain ⟨back, hback⟩ := hrest.exists_run
    exact ⟨front ++ back, front, back, hfront, hback, rfl⟩
  mem_iff name := by
    rw [Findings.exports_append, List.mem_append, hfirst.mem_iff, hrest.mem_iff]
    constructor
    · rintro (⟨front, hfront, hname⟩ | ⟨back, hback, hname⟩)
      -- a name of one part is only put if the other part can run as well
      · obtain ⟨back, hback⟩ := hrest.exists_run
        exact ⟨front ++ back, ⟨front, back, hfront, hback, rfl⟩, List.mem_append_left _ hname⟩
      · obtain ⟨front, hfront⟩ := hfirst.exists_run
        exact ⟨front ++ back, ⟨front, back, hfront, hback, rfl⟩, List.mem_append_right _ hname⟩
    · rintro ⟨_, ⟨front, back, hfront, hback, rfl⟩, hname⟩
      rcases List.mem_append.mp hname with hname | hname
      · exact Or.inl ⟨front, hfront, hname⟩
      · exact Or.inr ⟨back, hback, hname⟩

/-- Nothing is found of what is put behind `finally`. -/
theorem underFinally (h : Exact first runs) :
    Exact ∅ fun puts => ∃ back, runs back ∧ puts = back.map Put.underFinally where
  exists_run := by
    obtain ⟨back, hback⟩ := h.exists_run
    exact ⟨_, back, hback, rfl⟩
  mem_iff name := by
    constructor
    · intro hname
      cases hname
    · rintro ⟨_, ⟨back, -, rfl⟩, hname⟩
      exact absurd hname (Put.now_not_mem_map_underFinally name back)

/-- Of executions with a `finally` block that is found which is found without it. -/
theorem withFinally (hbody : Exact first runs) (hfinalizer : Exact rest others) :
    Exact first fun puts =>
      ∃ front back, runs front ∧ others back ∧ puts = front ++ back.map Put.underFinally := by
  have hboth := hbody.append hfinalizer.underFinally
  rw [Findings.append_empty] at hboth
  refine hboth.congr fun puts => ?_
  constructor
  · rintro ⟨front, back, hfront, hback, rfl⟩
    exact ⟨front, _, hfront, ⟨back, hback, rfl⟩, rfl⟩
  · rintro ⟨front, _, hfront, ⟨back, hback, rfl⟩, rfl⟩
    exact ⟨front, back, hfront, hback, rfl⟩

/-- The name of an assignment is found before those of its right side, and put after them. -/
theorem assign (hright : Exact first runs) (key : String) :
    Exact (.names [key] ++ first) fun puts =>
      ∃ front, runs front ∧ puts = front ++ [.now key] where
  exists_run := by
    obtain ⟨front, hfront⟩ := hright.exists_run
    exact ⟨front ++ [.now key], front, hfront, rfl⟩
  mem_iff name := by
    rw [Findings.exports_append, Findings.exports_names, List.mem_append, List.mem_singleton,
      hright.mem_iff]
    constructor
    · rintro (rfl | ⟨front, hfront, hname⟩)
      · obtain ⟨front, hfront⟩ := hright.exists_run
        exact ⟨front ++ [.now name], ⟨front, hfront, rfl⟩, by simp⟩
      · exact ⟨front ++ [.now key], ⟨front, hfront, rfl⟩, List.mem_append_left _ hname⟩
    · rintro ⟨_, ⟨front, hfront, rfl⟩, hname⟩
      rcases List.mem_append.mp hname with hname | hname
      · exact Or.inr ⟨front, hfront, hname⟩
      · exact Or.inl (congrArg Put.key (List.mem_singleton.mp hname))

/-- Executions of either branch. -/
theorem either (hyes : Exact yes runs) (hno : Exact no others) :
    Exact (yes ++ no) fun puts => runs puts ∨ others puts where
  exists_run := by
    obtain ⟨puts, hputs⟩ := hyes.exists_run
    exact ⟨puts, Or.inl hputs⟩
  mem_iff name := by
    rw [Findings.exports_append, List.mem_append, hyes.mem_iff, hno.mem_iff]
    simp only [or_and_right, exists_or]

/-- Executions of the branches that a condition can lead to. -/
theorem branch {test : Expr} (htest : IsCondition quiet test) (hyes : Exact yes runs)
    (hno : Exact no others) :
    Exact (taken (test.holdsIn? mode) yes no) fun puts =>
      Tests quiet mode test true ∧ runs puts ∨ Tests quiet mode test false ∧ others puts := by
  simp only [tests_iff htest]
  rcases test.holdsIn? mode with _ | _ | _
  · exact (hyes.either hno).congr (by simp)
  · exact hno.congr (by simp)
  · exact hyes.congr (by simp)

end Exact

/-! ## How the scan tells targets and calls -/

section Shape

variable {target callee e : Expr} {key : String}

/-- An expression that denotes the exports object is taken for it by the scan. -/
theorem isExportsObject_of_isExports (h : IsExports e) : e.isExportsObject = true := by
  rw [Expr.isExportsObject, Expr.isModuleExports, Bool.or_eq_true, beq_iff_eq,
    ← Expr.dotted?_eq_singleton_iff, ← Expr.dotted?_eq_pair_iff]
  exact h

/-- A place on the exports object is not taken for `module.exports` itself. -/
theorem isModuleExportsTarget_of_places (h : Places target key) :
    target.isModuleExportsTarget = false := by
  cases h with
  | @member base _ h =>
    have hmodule : base.identName? ≠ some "module" := by
      rw [Ne, ← Expr.dotted?_eq_singleton_iff]
      rcases h with h | h <;> simp [h]
    rw [Expr.isModuleExportsTarget, beq_eq_false_iff_ne.mpr hmodule, Bool.and_false]
  | index h hkey => rfl

/-- The scan reads the base and the key of a place. -/
theorem propertyTarget?_of_places (h : Places target key) :
    ∃ base, target.propertyTarget? = some (base, key) ∧ IsExports base := by
  cases h with
  | member h => exact ⟨_, rfl, h⟩
  | index h hkey => exact ⟨_, by rw [Expr.propertyTarget?, hkey], h⟩

/-- An expression that denotes the exports object stands for itself as a value. -/
theorem asValue?_of_isExports (h : IsExports e) : e.asValue? = some e := by
  cases e with
  | spread operand => rcases h with h | h <;> cases h
  | _ => rfl

end Shape

/-! ## What a scan finds -/

namespace Context

variable {c : Context} {target right callee e : Expr} {args : List Expr} {key : String}

/-- The value with which a chain of assignments ends adds nothing to it. -/
theorem chain_of_isValue : ∀ {e : Expr}, IsValue e → c.chain e = ∅
  | _, .paren h => (chain_of_isValue h :)
  | _, .ident | _, .literal | _, .negative | _, .this | _, .void _ | _, .object _ => rfl

/-- Nothing is found in a value. -/
theorem expr_of_isValue : ∀ {e : Expr}, IsValue e → c.expr e = ∅
  | _, .paren h => (expr_of_isValue h :)
  | _, .void h => (expr_of_isValue h :)
  | _, .ident | _, .literal | _, .negative | _, .this | _, .object _ => rfl

/-- Evaluated for its effect, a chain exports what it exports as the right side of an assignment. -/
theorem expr_of_isChain (h : IsChain e) : c.expr e = c.chain e := by
  induction h with
  | value h => rw [expr_of_isValue h, chain_of_isValue h]
  | paren h ih => exact ih
  | assign htarget hright ih => rfl

/-- Outside call mode an assignment to a place finds the one key that it puts. -/
theorem assign_of_places (hcalled : c.called = false) (h : Places target key) :
    c.assign target right = .names [key] := by
  obtain ⟨base, hproperty, hbase⟩ := propertyTarget?_of_places h
  rw [assign, isModuleExportsTarget_of_places h, if_neg Bool.false_ne_true, hproperty]
  show (if !c.called && base.isExportsObject then _ else _) = _
  rw [hcalled, isExportsObject_of_isExports hbase]
  rfl

/-- Outside call mode a definition finds the one key that it puts. -/
theorem call_of_defines (hcalled : c.called = false) (h : Defines callee args key) :
    c.call callee args = .names [key] := by
  obtain ⟨object, value, rfl, hobject, -⟩ := h.args
  have hfirst : firstValue? [object, .literal (.string key), value] = some object :=
    asValue?_of_isExports hobject
  rw [call, if_pos (Expr.dotted?_eq_pair_iff.mp h.callee), hfirst]
  show (if !c.called && object.isExportsObject then _ else _) = _
  rw [hcalled, isExportsObject_of_isExports hobject]
  rfl

/-- A definition is not the call of a function that is scanned. -/
theorem expr_of_defines (hcalled : c.called = false) (h : Defines callee args key) :
    c.expr (.call callee args) = .names [key] := by
  rw [expr, invoked_eq_map, invoked?_of_dotted? h.callee]
  exact call_of_defines hcalled h

/-- Of a function that is called where it stands the scan finds what it finds of its body. -/
theorem expr_of_invokes {code : Code} (h : Invokes callee args code) :
    c.expr (.call callee args) = c.stmts code.body := by
  rw [expr, invoked_eq_map, h.function]
  rfl

/-! ## Exactness -/

/-- A chain of assignments is scanned for exactly the keys that its evaluations put. -/
theorem chain_exact (hcalled : c.called = false) (h : IsChain e) :
    Exact (c.chain e) (Evaluates quiet mode e) := by
  induction h with
  | value h =>
    rw [chain_of_isValue h]
    exact Exact.nothing.congr fun _ => evaluates_value_iff h
  | paren h ih => exact ih.congr fun _ => evaluates_paren_iff
  | assign htarget hright ih =>
    rw [chain, assign_of_places hcalled htarget]
    exact (ih.assign _).congr fun _ => evaluates_assign_iff htarget

/-- What is found of the right side of `&&` depends on what the mode makes of the left side. -/
theorem expr_and {left right : Expr} : c.expr (.logical .and left right) =
    taken (left.holdsIn? c.mode) (c.expr right) ∅ := by
  rw [expr]
  unfold skipsRight
  rcases left.holdsIn? c.mode with _ | _ | _
  · exact (Findings.append_empty _).symm
  · rfl
  · rfl

/-- What is found of the right side of `||` depends on it the other way round. -/
theorem expr_or {left right : Expr} : c.expr (.logical .or left right) =
    taken (left.holdsIn? c.mode) ∅ (c.expr right) := by
  rw [expr]
  unfold skipsRight
  rcases left.holdsIn? c.mode with _ | _ | _ <;> rfl

/-- The same for the branch of an `if` statement without an alternative. -/
theorem stmt_ifThen {test : Expr} {yes : Stmt} : c.stmt (.ifThen test yes none) =
    taken (test.holdsIn? c.mode) (c.stmt yes) ∅ := by
  rw [stmt]
  rcases test.holdsIn? c.mode with _ | _ | _
  · exact (Findings.append_empty _).symm
  · rfl
  · rfl

-- by recursion on what makes a program one of the fragment, side by side with the scan
mutual

/-- An expression of the fragment is scanned for exactly the keys that its evaluations put. This is
the induction over the fragment, together with the lemmas below. -/
theorem expr_exact (hcalled : c.called = false) :
    ∀ {e : Expr}, IsEffect quiet e → Exact (c.expr e) (Evaluates quiet c.mode e)
  | _, .chain h => by
    rw [expr_of_isChain h]
    exact chain_exact hcalled h
  | _, .define h => by
    rw [expr_of_defines hcalled h]
    exact (Exact.single _).congr fun _ => evaluates_define_iff h
  | _, .invoke hcall _ hbody => by
    rw [expr_of_invokes hcall]
    exact (stmts_exact hcalled hbody).congr fun _ => evaluates_invoke_iff hcall
  | _, .paren h => (expr_exact hcalled h).congr fun _ => evaluates_paren_iff
  | _, .unary h => (expr_exact hcalled h).congr fun _ => evaluates_unary_iff
  | _, .sequence h => (exprs_exact hcalled h).congr fun _ => evaluates_sequence_iff
  | _, .conditional htest hyes hno =>
    (Exact.branch htest (expr_exact hcalled hyes) (expr_exact hcalled hno)).congr
      fun _ => evaluates_conditional_iff
  | _, .and hleft hright => by
    rw [expr_and]
    exact (Exact.branch hleft (expr_exact hcalled hright) Exact.nothing).congr
      fun _ => evaluates_and_iff
  | _, .or hleft hright => by
    rw [expr_or]
    exact (Exact.branch hleft Exact.nothing (expr_exact hcalled hright)).congr
      fun _ => evaluates_or_iff

/-- The same for several expressions. -/
theorem exprs_exact (hcalled : c.called = false) :
    ∀ {items : List Expr}, AreEffects quiet items →
      Exact (c.exprs items) (EvaluatesAll quiet c.mode items)
  | _, .nil => Exact.nothing.congr fun _ => evaluatesAll_nil_iff
  | _, .cons hfirst hrest =>
    ((expr_exact hcalled hfirst).append (exprs_exact hcalled hrest)).congr
      fun _ => evaluatesAll_cons_iff

/-- The same for declarations. -/
theorem declarators_exact (hcalled : c.called = false) :
    ∀ {items : List Declarator}, AreDeclarators quiet items →
      Exact (c.declarators items) (Initializes quiet c.mode items)
  | _, .nil => Exact.nothing.congr fun _ => initializes_nil_iff
  | _, .bare _ hrest => (declarators_exact hcalled hrest).congr fun _ => initializes_bare_iff
  | _, .init _ hinit hrest =>
    ((expr_exact hcalled hinit).append (declarators_exact hcalled hrest)).congr
      fun _ => initializes_init_iff

/-- The same for a statement. -/
theorem stmt_exact (hcalled : c.called = false) :
    ∀ {s : Stmt}, IsStatement quiet s → Exact (c.stmt s) (Executes quiet c.mode s)
  | _, .expr h => (expr_exact hcalled h).congr fun _ => executes_expr_iff
  | _, .declare h => (declarators_exact hcalled h).congr fun _ => executes_declare_iff
  | _, .block h => (stmts_exact hcalled h).congr fun _ => executes_block_iff
  | _, .tryCatch hbody _ _ hfinalizer =>
    ((stmts_exact hcalled hbody).withFinally (stmts_exact hcalled hfinalizer)).congr
      fun _ => executes_tryCatch_iff
  | _, .ifThen htest hyes => by
    rw [stmt_ifThen]
    exact (Exact.branch htest (stmt_exact hcalled hyes) Exact.nothing).congr
      fun _ => executes_ifThen_iff
  | _, .ifElse htest hyes hno =>
    (Exact.branch htest (stmt_exact hcalled hyes) (stmt_exact hcalled hno)).congr
      fun _ => executes_ifElse_iff

/-- The same for several statements. -/
theorem stmts_exact (hcalled : c.called = false) :
    ∀ {body : List Stmt}, AreStatements quiet body →
      Exact (c.stmts body) (ExecutesAll quiet c.mode body)
  | _, .nil => Exact.nothing.congr fun _ => executesAll_nil_iff
  | _, .cons hfirst hrest =>
    ((stmt_exact hcalled hfirst).append (stmts_exact hcalled hrest)).congr
      fun _ => executesAll_cons_iff

end

end Context

/-- On a program of the fragment, in every mode, a scan finds the names that some execution puts on
the exports, not behind any `finally`, and no others.  So it finds all names that executions put there
just if each name that is put behind a `finally` is also put elsewhere by some execution. -/
theorem Program.mem_exports_findings_iff {program : Program} (h : AreStatements quiet program)
    (mode : Mode) :
    (∀ name, name ∈ (program.findings mode false).exports ↔
      ∃ puts, ExecutesAll quiet mode program puts ∧ ⟨name, false⟩ ∈ puts) ∧
    ((∀ name, name ∈ (program.findings mode false).exports ↔
        ∃ puts, ExecutesAll quiet mode program puts ∧ ∃ put ∈ puts, put.key = name) ↔
      ∀ puts, ExecutesAll quiet mode program puts → ∀ put ∈ puts, put.inFinally = true →
        ∃ others, ExecutesAll quiet mode program others ∧ ⟨put.key, false⟩ ∈ others) := by
  have hfound : ∀ name, name ∈ (program.findings mode false).exports ↔
      ∃ puts, ExecutesAll quiet mode program puts ∧ ⟨name, false⟩ ∈ puts :=
    (Context.stmts_exact (c := ⟨mode, false, Bindings.ofProgram mode program⟩) rfl h).mem_iff
  refine ⟨hfound, ?_⟩
  simp only [hfound]
  constructor
  · intro hall puts hputs put hput _
    exact (hall put.key).mpr ⟨puts, hputs, put, hput, rfl⟩
  · intro hfinally name
    constructor
    · rintro ⟨puts, hputs, hname⟩
      exact ⟨puts, hputs, _, hname, rfl⟩
    · rintro ⟨puts, hputs, ⟨key, inFinally⟩, hput, rfl⟩
      cases inFinally with
      | false => exact ⟨puts, hputs, hput⟩
      | true => exact hfinally puts hputs _ hput rfl

/-- `!function () { … }.call(this)` around a choice by the mode: the one branch assigns a chain and
the other, behind a test of `flag`, assigns a property and defines another. -/
def choosing : Program :=
  [.expr (.unary .not (.call (.member (.function (.mk none false false [] [
    .ifThen (.binary .strictNotEqual (.member (.member (.ident "process") "env") "NODE_ENV")
        (.literal (.string "production")))
      (.expr (.assign .plain (.member (.ident "exports") "a")
        (.assign .plain (.member (.ident "exports") "b") (.unary .void (.literal (.number "0"))))))
      (some (.expr (.logical .and (.ident "flag") (.sequence [
        .assign .plain (.index (.ident "exports") (.literal (.string "c"))) (.ident "flag"),
        .call (.member (.ident "Object") "defineProperty")
          [.member (.ident "module") "exports", .literal (.string "d"), .ident "flag"]]))))]))
    "call") [.other .this []]))]

/-- The example is a program of the fragment, with `flag` for the only expression that is not looked
into. -/
theorem areStatements_choosing : AreStatements (· = .ident "flag") choosing := by
  have htest : IsCondition (· = .ident "flag") (.binary .strictNotEqual
      (.member (.member (.ident "process") "env") "NODE_ENV") (.literal (.string "production"))) :=
    .compares (.left rfl rfl .strictNotEqual)
  have hflag : IsCondition (· = .ident "flag") (.ident "flag") := .free ⟨rfl, rfl, nofun⟩
  have hchain : IsChain (.assign .plain (.member (.ident "exports") "a")
      (.assign .plain (.member (.ident "exports") "b") (.unary .void (.literal (.number "0"))))) :=
    .assign (.member (Or.inl rfl)) (.assign (.member (Or.inl rfl)) (.value (.void .literal)))
  have hindex : IsChain (.assign .plain (.index (.ident "exports") (.literal (.string "c")))
      (.ident "flag")) :=
    .assign (.index (Or.inl rfl) rfl) (.value .ident)
  have hdefine : Defines (.member (.ident "Object") "defineProperty")
      [.member (.ident "module") "exports", .literal (.string "d"), .ident "flag"] "d" :=
    ⟨rfl, _, _, rfl, Or.inr rfl, .ident⟩
  refine .cons (.expr (.unary (.invoke ⟨rfl, rfl, ?_⟩ ?_ ?_))) .nil
  · intro arg harg
    rw [List.mem_singleton.mp harg]
    exact .this
  · exact ⟨nofun, nofun, nofun⟩
  · refine .cons (.ifElse htest (.expr (.chain hchain)) (.expr (.and hflag (.sequence ?_)))) .nil
    exact .cons (.chain hindex) (.cons (.define hdefine) .nil)

/-- In production some execution of `choosing` defines `d`, and none assigns `a`. -/
theorem mem_exports_findings_choosing :
    AreStatements (· = .ident "flag") choosing ∧
      (∃ puts, ExecutesAll (· = .ident "flag") .production choosing puts ∧ ⟨"d", false⟩ ∈ puts) ∧
      ¬ ∃ puts, ExecutesAll (· = .ident "flag") .production choosing puts ∧
        ⟨"a", false⟩ ∈ puts := by
  have hfound : (Program.findings choosing .production false).exports = ["c", "d"] := rfl
  have hiff := (Program.mem_exports_findings_iff areStatements_choosing .production).1
  refine ⟨areStatements_choosing, ?_, ?_⟩
  · rw [← hiff, hfound]
    decide
  · rw [← hiff, hfound]
    decide

/-- `try {} finally { exports.k = 1; }` -/
def finalizing : Program :=
  [.tryCatch [] none [] [.expr
    (.assign .plain (.member (.ident "exports") "k") (.literal (.number "1")))]]

/-- The only execution of `finalizing` puts `k` on the exports, and the scan does not find it. -/
theorem findings_finalizing_ne :
    AreStatements (fun _ => False) finalizing ∧
      (∃ puts, ExecutesAll (fun _ => False) .production finalizing puts ∧
        ∃ put ∈ puts, put.key = "k") ∧
      "k" ∉ (Program.findings finalizing .production false).exports := by
  have hplaces : Places (.member (.ident "exports") "k") "k" := .member (Or.inl rfl)
  refine ⟨?_, ?_, List.not_mem_nil⟩
  · exact .cons (.tryCatch .nil nofun .nil
      (.cons (.expr (.chain (.assign hplaces (.value .literal)))) .nil)) .nil
  · refine ⟨[⟨"k", true⟩], ?_, ⟨"k", true⟩, List.mem_singleton_self _, rfl⟩
    exact .cons (.tryCatch .nil (.cons (.expr (.assign hplaces (.value .literal))) .nil)) .nil

end NamedExports.Script
