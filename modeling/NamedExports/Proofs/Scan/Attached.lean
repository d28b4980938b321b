import NamedExports.Proofs.Scan.Attaching
import NamedExports.Proofs.Scan.Emission

/-!
# Properties put on an exported variable

A module can assign its properties to `exports`, or to a variable that it gives to `module.exports`
afterwards.  In the first case the second look finds them, in the second case the first look does,
and the two do not go the same way.  `Program.findings_attaching` says that the properties of a
variable are found exactly where the first look follows the statements.
-/

namespace NamedExports.Script

variable {name : String}

/-! ## The first look at the renamed statements -/

namespace Bindings

/-- Following a piece of a program adds keys to what is known of a name, and changes nothing else
of it. -/
def Gains (name : String) (keys : List String) (follow : Bindings → Bindings) : Prop :=
  ∀ b, (follow b).get? name = (Change.add keys).apply (b.get? name)

namespace Gains

variable {keys more : List String} {follow next : Bindings → Bindings}

/-- Doing nothing adds no keys. -/
theorem nothing : Gains name [] fun b => b := fun _ => Change.apply_add_nil.symm

/-- The keys of two pieces that follow each other are added one after the other. -/
theorem andThen (h : Gains name keys follow) (hnext : Gains name more next) :
    Gains name (keys ++ more) fun b => next (follow b) := by
  intro b
  rw [hnext, h]
  exact (@Change.apply_andThen (.add keys) (.add more) _).symm

/-- Adding keys to the name is such a piece. -/
theorem addKeys (keys : List String) : Gains name keys (·.addKeys name keys) :=
  fun _ => if_pos (beq_iff_eq.mpr rfl)

/-- What is recorded of another name leaves the name as it is. -/
theorem set {other : String} (h : other ≠ name) (binding : Binding) :
    Gains name [] (·.set other binding) := by
  intro b
  rw [Change.apply_add_nil]
  exact if_neg (by simpa using h.symm)

end Gains

/-- A declaration of other names adds nothing to the name. -/
theorem Gains.declare {item : Declarator}
    (h : ∀ other init, item = .mk (.ident other) (some init) → other ≠ name) :
    Gains name [] (·.declare item) := by
  unfold Bindings.declare
  split
  · rename_i other init
    exact .set (h other init rfl) _
  · exact .nothing

/-- An assignment to a property of `exports` that is renamed adds to the name what the second look
would find. -/
theorem Gains.assign {c : Context} (hcalled : c.called = false) {target : Expr} (value : Expr)
    (htarget : target.PropertyOf "exports") :
    Gains name (c.assign target value).exports (·.assign (target.renamed (exportsAs name))) := by
  rw [Context.assign_of_propertyOf_exports hcalled htarget]
  unfold Bindings.assign
  rw [Expr.propertyTarget?_renamed]
  cases htargeted : target.propertyTarget? with
  | none => exact .nothing
  | some property =>
    have hbase : (property.1.renamed (exportsAs name)).identName? = some name := by
      rw [Expr.identName?_renamed, htarget property.1 property.2 htargeted]
      rfl
    simp only [Option.map_some, hbase]
    exact .addKeys [property.2]

/-- So do several declarations together: they add nothing. -/
theorem Gains.declareAll : ∀ {items : List Declarator}, DeclaratorsAttach name items →
    Gains name [] ((declaratorsRenamed (exportsAs name) items).foldl Bindings.declare ·)
  | _, .nil => .nothing
  | .mk target none :: _, .bare hrest => by
    have hfirst : Gains name [] (·.declare (.mk (target.renamed (exportsAs name)) none)) :=
      .declare fun _ _ hitem => nomatch (Declarator.mk.inj hitem).2
    exact hfirst.andThen (declareAll hrest)
  | .mk target (some init) :: _, .init htarget _ hrest => by
    have hfirst : Gains name [] (·.declare
        (.mk (target.renamed (exportsAs name)) (some (init.renamed (exportsAs name))))) := by
      refine .declare fun other value hitem => ?_
      have hident : target.renamed (exportsAs name) = .ident other := (Declarator.mk.inj hitem).1
      cases target with
      | ident old =>
        rw [← Expr.ident.inj hident]
        exact (htarget old rfl).exportsAs_ne
      | _ => cases hident
    exact hfirst.andThen (declareAll hrest)

section Look

variable {c : Context}

-- by recursion on what makes the statements attach, side by side with the first look
mutual

/-- An expression that attaches properties adds to the name what the second look finds in its
followed form. This is the induction over expressions, together with the four lemmas below. -/
theorem expr_gains (hname : name ∉ meaningful) (hcalled : c.called = false) :
    ∀ (e : Expr), e.Attaches name →
      Gains name (c.expr e.followed).exports (expr c.mode · (e.renamed (exportsAs name)))
  | e, .inert h => by
    have hrenamed : (e.renamed (exportsAs name)).isInert = true :=
      (Expr.isInert_renamed hname e).trans h
    rw [Expr.followed_of_isInert h, Context.expr_of_isInert h]
    simp only [expr_of_isInert hrenamed]
    exact .nothing
  | .paren inner, .paren h => expr_gains hname hcalled inner h
  | .unary _ operand, .unary h => operand_gains hname hcalled operand h
  | _, .logical _ => .nothing
  | _, .conditional _ _ => .nothing
  | .sequence items, .sequence h => exprs_gains hname hcalled items h
  | .assign op target value, .assign htarget hvalue => by
    have hassign : Gains name (c.assign target (.other .hole [])).exports
        (·.assign (target.renamed (exportsAs name))) := .assign hcalled _ htarget
    have hboth := hassign.andThen (expr_gains hname hcalled value hvalue)
    have hfollowed : c.expr (Expr.assign op target value).followed =
        c.assign target (.other .hole []) ++ c.expr value.followed := by
      show c.assign target (.other .hole []) ++ ∅ ++ (c.expr value.followed ++ ∅) = _
      rw [Findings.append_empty, Findings.append_empty]
    rw [hfollowed]
    exact hboth
  | .call callee args, @Expr.Attaches.invoke _ _ _ code hcall hbody => by
    have hfollowed : (Expr.call callee args).followed = immediately (stmtsFollowed code.body) := by
      rw [Expr.followed, Expr.invokedFollowed?_eq_map, hcall]
      rfl
    rw [hfollowed, Context.expr_immediately]
    intro b
    show (expr c.mode b (.call (callee.renamed _) (exprsRenamed _ args))).get? name = _
    rw [expr, invoked_eq_map, Expr.invoked?_renamed, hcall, Option.map_some,
      Option.map_some, Option.getD_some, Code.body_renamed]
    exact stmts_gains hname hcalled code.body hbody b

/-- The same for an expression under a unary operator, which the first look follows in its own
way. -/
theorem operand_gains (hname : name ∉ meaningful) (hcalled : c.called = false) :
    ∀ (e : Expr), e.Attaches name →
      Gains name (c.expr e.operandFollowed).exports (negated c.mode · (e.renamed (exportsAs name)))
  | e, .inert h => by
    have hrenamed : (e.renamed (exportsAs name)).isInert = true :=
      (Expr.isInert_renamed hname e).trans h
    rw [Context.expr_operandFollowed, Expr.called?_of_isInert h]
    simp only [negated_eq_map, Expr.called?_of_isInert hrenamed]
    exact .nothing
  | .paren inner, .paren h => operand_gains hname hcalled inner h
  | .call callee args, @Expr.Attaches.invoke _ _ _ code hcall hbody => by
    have hfollowed : (Expr.call callee args).operandFollowed =
        immediately (stmtsFollowed code.body) := by
      rw [Expr.operandFollowed, Expr.invokedFollowed?_eq_map, hcall]
      rfl
    rw [hfollowed, Context.expr_immediately]
    intro b
    show (negated c.mode b (.call (callee.renamed _) (exprsRenamed _ args))).get? name = _
    rw [negated, invoked_eq_map, Expr.invoked?_renamed, hcall, Option.map_some,
      Option.map_some, Option.getD_some, Code.body_renamed]
    exact stmts_gains hname hcalled code.body hbody b
  | _, .unary _ | _, .logical _ | _, .conditional _ _ | _, .sequence _ | _, .assign _ _ => .nothing

/-- The same for the items of a sequence. -/
theorem exprs_gains (hname : name ∉ meaningful) (hcalled : c.called = false) :
    ∀ (items : List Expr), ExprsAttach name items →
      Gains name (c.exprs (exprsFollowed items)).exports
        (exprs c.mode · (exprsRenamed (exportsAs name) items))
  | _, .nil => .nothing
  | first :: rest, .cons hfirst hrest =>
    (expr_gains hname hcalled first hfirst).andThen (exprs_gains hname hcalled rest hrest)

/-- The same for a statement. -/
theorem stmt_gains (hname : name ∉ meaningful) (hcalled : c.called = false) :
    ∀ (s : Stmt), s.Attaches name →
      Gains name (c.stmt s.followed).exports (stmt c.mode · (s.renamed (exportsAs name)))
  | .expr e, .expr h => expr_gains hname hcalled e h
  | .declare _ _, .declare h => Gains.declareAll h
  | .function (.mk none _ _ _ _), .function _ => .nothing
  | .function (.mk (some own) _ _ _ _), .function h => .set (h own rfl).exportsAs_ne _
  | .class none _, .class _ => .nothing
  | .class (some own) _, .class h => .set (h own rfl).exportsAs_ne _
  | .block body, .block h => stmts_gains hname hcalled body h
  | .ifThen test yes none, .ifThen hyes => by
    rw [Stmt.followed, Stmt.renamed, Context.stmt]
    simp only [stmt, Expr.holdsIn?_renamed (keptBy_process hname)]
    split
    · exact .nothing
    · exact stmt_gains hname hcalled yes hyes
  | .ifThen test yes (some no), .ifElse hyes hno => by
    rw [Stmt.followed, Stmt.renamed, Context.stmt]
    simp only [stmt, Expr.holdsIn?_renamed (keptBy_process hname)]
    rcases test.holdsIn? c.mode with _ | _ | _
    · exact (stmt_gains hname hcalled yes hyes).andThen (stmt_gains hname hcalled no hno)
    · exact stmt_gains hname hcalled no hno
    · exact stmt_gains hname hcalled yes hyes
  | .tryCatch body none _ _, .tryCatch hbody => stmts_gains hname hcalled body hbody
  | .tryCatch body (some _) _ _, .tryCatch hbody => stmts_gains hname hcalled body hbody
  | .return none, .return => .nothing
  | .return (some _), .return => .nothing
  | _, .other => .nothing

/-- The same for several statements. -/
theorem stmts_gains (hname : name ∉ meaningful) (hcalled : c.called = false) :
    ∀ (body : List Stmt), StmtsAttach name body →
      Gains name (c.stmts (stmtsFollowed body)).exports
        (stmts c.mode · (stmtsRenamed (exportsAs name) body))
  | _, .nil => .nothing
  | first :: rest, .cons hfirst hrest =>
    (stmt_gains hname hcalled first hfirst).andThen (stmts_gains hname hcalled rest hrest)

end

end Look

end Bindings

/-! ## The second look at the renamed statements -/

namespace Context

variable {c : Context}

/-- The second look finds nothing at an assignment to a property of the variable. -/
theorem assign_renamed (hname : name ∉ meaningful) {target : Expr} (value : Expr)
    (h : target.PropertyOf "exports") : c.assign (target.renamed (exportsAs name)) value = ∅ := by
  refine assign_of_propertyOf_other h.renamed ?_ ?_
  · exact ne_of_not_mem_meaningful hname (by decide)
  · exact ne_of_not_mem_meaningful hname (by decide)

/-- Nor at a chain of assignments, each of which goes to a property of the variable. -/
theorem chain_renamed (hname : name ∉ meaningful) :
    ∀ (e : Expr), e.Attaches name → c.chain (e.renamed (exportsAs name)) = ∅
  | e, .inert h => chain_of_isInert ((Expr.isInert_renamed hname e).trans h)
  | .paren inner, .paren h => chain_renamed hname inner h
  | .assign op target value, .assign htarget hvalue => by
    rw [Expr.renamed, chain, assign_renamed hname _ htarget, chain_renamed hname value hvalue]
    rfl
  | _, .unary _ | _, .logical _ | _, .conditional _ _ | _, .sequence _ | _, .invoke _ _ => rfl
termination_by structural e => e

-- by recursion on what makes the statements attach, side by side with the second look
mutual

/-- Nor at an expression that attaches properties to the variable. -/
theorem expr_renamed (hname : name ∉ meaningful) :
    ∀ (e : Expr), e.Attaches name → c.expr (e.renamed (exportsAs name)) = ∅
  | e, .inert h => expr_of_isInert ((Expr.isInert_renamed hname e).trans h)
  | .paren inner, .paren h => expr_renamed hname inner h
  | .unary _ operand, .unary h => expr_renamed hname operand h
  | .logical op left right, .logical hright => by
    rw [Expr.renamed, expr, expr_renamed hname right hright, ite_self]
  | .conditional test yes no, .conditional hyes hno => by
    rw [Expr.renamed, expr, expr_renamed hname yes hyes, expr_renamed hname no hno]
    split <;> rfl
  | .sequence items, .sequence h => exprs_renamed hname items h
  | .assign op target value, .assign htarget hvalue => by
    rw [Expr.renamed, expr, assign_renamed hname _ htarget, chain_renamed hname value hvalue]
    rfl
  | .call callee args, @Expr.Attaches.invoke _ _ _ code hcall hbody => by
    rw [Expr.renamed, expr, invoked_eq_map, Expr.invoked?_renamed, hcall, Option.map_some,
      Option.map_some, Code.body_renamed]
    exact stmts_renamed hname code.body hbody

/-- Nor at several expressions. -/
theorem exprs_renamed (hname : name ∉ meaningful) :
    ∀ (items : List Expr), ExprsAttach name items →
      c.exprs (exprsRenamed (exportsAs name) items) = ∅
  | _, .nil => rfl
  | first :: rest, .cons hfirst hrest => by
    rw [exprsRenamed, exprs, expr_renamed hname first hfirst, exprs_renamed hname rest hrest]
    rfl

/-- Nor at declarations. -/
theorem declarators_renamed (hname : name ∉ meaningful) :
    ∀ (items : List Declarator), DeclaratorsAttach name items →
      c.declarators (declaratorsRenamed (exportsAs name) items) = ∅
  | _, .nil => rfl
  | .mk _ none :: rest, .bare hrest => declarators_renamed hname rest hrest
  | .mk _ (some init) :: rest, .init _ hinit hrest => by
    rw [declaratorsRenamed, declarators, expr_renamed hname init hinit,
      declarators_renamed hname rest hrest]
    rfl

/-- Nor at a statement. -/
theorem stmt_renamed (hname : name ∉ meaningful) :
    ∀ (s : Stmt), s.Attaches name → c.stmt (s.renamed (exportsAs name)) = ∅
  | .expr e, .expr h => expr_renamed hname e h
  | .declare _ items, .declare h => declarators_renamed hname items h
  | .block body, .block h => stmts_renamed hname body h
  | .ifThen test yes none, .ifThen hyes => by
    rw [Stmt.renamed, stmt, stmt_renamed hname yes hyes, ite_self]
  | .ifThen test yes (some no), .ifElse hyes hno => by
    rw [Stmt.renamed, stmt, stmt_renamed hname yes hyes, stmt_renamed hname no hno]
    split <;> rfl
  | .tryCatch body none _ _, .tryCatch hbody => stmts_renamed hname body hbody
  | .tryCatch body (some _) _ _, .tryCatch hbody => stmts_renamed hname body hbody
  | .function _, .function _ | .class _ _, .class _ | .other _ _ _, .other => rfl
  | .return none, .return | .return (some _), .return => rfl

/-- Nor at several statements, so whatever is found of the renamed program is found at its end. -/
theorem stmts_renamed (hname : name ∉ meaningful) :
    ∀ (body : List Stmt), StmtsAttach name body →
      c.stmts (stmtsRenamed (exportsAs name) body) = ∅
  | _, .nil => rfl
  | first :: rest, .cons hfirst hrest => by
    rw [stmtsRenamed, stmts, stmt_renamed hname first hfirst, stmts_renamed hname rest hrest]
    rfl

end

end Context

/-! ## A variable that is exported -/

/-- `var name = value; …; module.exports = name;`, where the statements in between put on the
variable what they are written to put on `exports`. -/
def attaching (name : String) (value : Expr) (body : List Stmt) : Program :=
  .declare .var [.mk (.ident name) (some value)] :: (stmtsRenamed (exportsAs name) body ++
    [.expr (.assign .plain (.member (.ident "module") "exports") (.ident name))])

/-- Values that keep what is put on them, with the keys that they start with: an object literal
without spreads, a function, and a class. -/
inductive Holds : Expr → List String → Prop where
  | object {members : List Member} (h : spreadOperands members = []) :
      Holds (.object members) (staticKeys members)
  | function {code : Code} : Holds (.function code) []
  | class {own : Option String} {parts : List Expr} : Holds (.other (.class own) parts) []

/-- What is known of the exported variable: what it starts with, and the keys that the first look
comes to. -/
theorem get?_attaching (hname : name ∉ meaningful) (value : Expr) {body : List Stmt}
    (h : StmtsAttach name body) (mode : Mode) :
    (Bindings.ofProgram mode (attaching name value body)).get? name =
      some { Binding.ofValue value with
        keys := (Binding.ofValue value).keys ++
          (Program.findings (stmtsFollowed body) mode false).exports } := by
  have hmodule : name ≠ "module" := ne_of_not_mem_meaningful hname (by decide)
  have hgains := Bindings.stmts_gains (c := ⟨mode, false, .ofProgram mode (stmtsFollowed body)⟩)
    hname rfl body h (Bindings.empty.set name (Binding.ofValue value))
  have hset : (Bindings.empty.set name (Binding.ofValue value)).get? name =
      some (Binding.ofValue value) := if_pos (beq_iff_eq.mpr rfl)
  rw [hset] at hgains
  rw [Bindings.ofProgram, attaching, Bindings.stmts, Bindings.stmts_append]
  -- the last statement only adds a key to `module`
  exact (if_neg (by simpa using hmodule)).trans hgains

/-- A scan finds what is known of the variable, and nothing else. -/
theorem findings_attaching_eq_named (hname : name ∉ meaningful) {value : Expr} {body : List Stmt}
    (h : StmtsAttach name body) (mode : Mode) (hvalue : ∀ c : Context, c.expr value = ∅) :
    (attaching name value body).findings mode false =
      Context.named ⟨mode, false, .ofProgram mode (attaching name value body)⟩ false name := by
  rw [Program.findings]
  generalize Bindings.ofProgram mode (attaching name value body) = known
  have hgive : Context.stmts ⟨mode, false, known⟩
      [.expr (.assign .plain (.member (.ident "module") "exports") (.ident name))] =
      Context.named ⟨mode, false, known⟩ false name := by
    show Context.named _ false name ++ ∅ ++ ∅ = _
    rw [Findings.append_empty, Findings.append_empty]
  rw [attaching, Context.stmts, Context.stmt, Context.declarators, hvalue, Context.stmts_append,
    Context.stmts_renamed hname body h, hgive]
  rfl

/-- With a value that keeps properties, its keys are found and the properties that the first look
comes to. -/
theorem findings_attaching_of_holds (hname : name ∉ meaningful) {value : Expr}
    {keys : List String} (hvalue : Holds value keys) {body : List Stmt}
    (h : StmtsAttach name body) (mode : Mode) :
    (attaching name value body).findings mode false =
      .names (keys ++ (Program.findings (stmtsFollowed body) mode false).exports) := by
  have hknown : ∃ returns, Binding.ofValue value = ⟨keys, [], none, returns⟩ := by
    cases hvalue with
    | object hspread => exact ⟨[], by simp [Binding.ofValue, Binding.unknown, hspread]⟩
    | function => exact ⟨_, rfl⟩
    | «class» => exact ⟨_, rfl⟩
  obtain ⟨returns, hknown⟩ := hknown
  have hinert : ∀ c : Context, c.expr value = ∅ := by
    intro c
    cases hvalue <;> rfl
  have hlookup := get?_attaching hname value h mode
  rw [findings_attaching_eq_named hname h mode hinert, Context.named, Context.lookup, hlookup,
    hknown]
  exact Findings.append_empty _

/-- With a required module, only the module is found. -/
theorem findings_attaching_requireCall (hname : name ∉ meaningful) (specifier : String)
    {body : List Stmt} (h : StmtsAttach name body) (mode : Mode) :
    (attaching name (requireCall specifier) body).findings mode false =
      .reexport specifier false := by
  have hlookup := get?_attaching hname (requireCall specifier) h mode
  rw [findings_attaching_eq_named hname h mode (fun _ => rfl), Context.named, Context.lookup,
    hlookup]
  rfl

/-- The properties of an exported variable are found where the first look comes to them, after the
keys that the variable starts with, and those of a required module are not found at all.  So every
property that is found on `exports` is found on the variable exactly if it is a key that the
variable starts with or the first look comes to it. -/
theorem Program.findings_attaching (hname : name ∉ meaningful) {body : List Stmt}
    (h : StmtsAttach name body) (mode : Mode) :
    (∀ value keys, Holds value keys →
      (attaching name value body).findings mode false =
          .names (keys ++ (Program.findings (stmtsFollowed body) mode false).exports) ∧
        ((∀ key ∈ (Program.findings body mode false).exports,
            key ∈ ((attaching name value body).findings mode false).exports) ↔
          ∀ key ∈ (Program.findings body mode false).exports,
            key ∈ keys ∨ key ∈ (Program.findings (stmtsFollowed body) mode false).exports)) ∧
    ∀ specifier,
      (attaching name (requireCall specifier) body).findings mode false =
          .reexport specifier false ∧
        ((∀ key ∈ (Program.findings body mode false).exports,
            key ∈ ((attaching name (requireCall specifier) body).findings mode false).exports) ↔
          (Program.findings body mode false).exports = []) := by
  refine ⟨fun value keys hvalue => ?_, fun specifier => ?_⟩
  · have hfound := findings_attaching_of_holds hname hvalue h mode
    refine ⟨hfound, ?_⟩
    rw [hfound]
    exact forall₂_congr fun key _ => List.mem_append
  · have hfound := findings_attaching_requireCall hname specifier h mode
    refine ⟨hfound, ?_⟩
    rw [hfound, Findings.exports_reexport, List.eq_nil_iff_forall_not_mem]
    exact forall₂_congr fun key _ => by simp

/-- `exports.a = exports.b = 1; if (flag) { !function () { exports['c'] = 2; }(); }` -/
def assigning : List Stmt :=
  [.expr (.assign .plain (exportsMember "a")
      (.assign .plain (exportsMember "b") (.literal (.number "1")))),
    .ifThen (.ident "flag") (.block [.expr (.unary .not (.call (.function (.mk none false false []
      [.expr (.assign .plain (.index (.ident "exports") (.literal (.string "c")))
        (.literal (.number "2")))])) []))]) none]

/-- The member expression `exports.key` is a property of `exports`. -/
theorem propertyOf_exportsMember (key : String) : (exportsMember key).PropertyOf "exports" := by
  intro base found hproperty
  obtain ⟨rfl, -⟩ := Prod.mk.inj (Option.some.inj hproperty)
  rfl

/-- The assignments of the example attach their properties to `x`. -/
theorem stmtsAttach_assigning : StmtsAttach "x" assigning := by
  have hchain : (Expr.assign .plain (exportsMember "a")
      (.assign .plain (exportsMember "b") (.literal (.number "1")))).Attaches "x" :=
    .assign (propertyOf_exportsMember "a") (.assign (propertyOf_exportsMember "b") (.inert rfl))
  have hindex : (Expr.index (.ident "exports") (.literal (.string "c"))).PropertyOf "exports" := by
    intro base found hproperty
    obtain ⟨rfl, -⟩ := Prod.mk.inj (Option.some.inj hproperty)
    rfl
  have hbody : StmtsAttach "x" [.expr (.assign .plain
      (.index (.ident "exports") (.literal (.string "c"))) (.literal (.number "2")))] :=
    .cons (.expr (.assign hindex (.inert rfl))) .nil
  exact .cons (.expr hchain)
    (.cons (.ifThen (.block (.cons (.expr (.unary (.invoke rfl hbody))) .nil))) .nil)

/-- All of these properties are found on a variable that starts from `{}`. -/
theorem findings_attaching_assigning :
    "x" ∉ meaningful ∧ StmtsAttach "x" assigning ∧ Holds (.object []) [] ∧
      (Program.findings assigning .production false).exports = ["a", "b", "c"] ∧
      (attaching "x" (.object []) assigning).findings .production false =
        .names ["a", "b", "c"] := by
  have hname : "x" ∉ meaningful := by decide
  refine ⟨hname, stmtsAttach_assigning, .object rfl, rfl, ?_⟩
  rw [((Program.findings_attaching hname stmtsAttach_assigning .production).1 _ _ (.object rfl)).1]
  rfl

/-- `flag && (exports.a = 1);` -/
def guarding : List Stmt :=
  [.expr (.logical .and (.ident "flag")
    (.paren (.assign .plain (exportsMember "a") (.literal (.number "1")))))]

/-- A property is lost on a variable if it is only assigned where the first look does not go, and
any property is lost on a variable that holds a required module. -/
theorem findings_attaching_guarding :
    "x" ∉ meaningful ∧ StmtsAttach "x" guarding ∧ Holds (.object []) [] ∧
      (¬ ∀ key ∈ (Program.findings guarding .production false).exports,
        key ∈ ((attaching "x" (.object []) guarding).findings .production false).exports) ∧
    StmtsAttach "x" assigning ∧
      ¬ ∀ key ∈ (Program.findings assigning .production false).exports,
        key ∈ ((attaching "x" (requireCall "m") assigning).findings .production false).exports := by
  have hguarding : StmtsAttach "x" guarding :=
    .cons (.expr (.logical (.paren (.assign (propertyOf_exportsMember "a") (.inert rfl))))) .nil
  have hguarded : (Program.findings guarding .production false).exports = ["a"] := rfl
  have hassigned : (Program.findings assigning .production false).exports = ["a", "b", "c"] := rfl
  have hlost :
      ((attaching "x" (.object []) guarding).findings .production false).exports = [] := rfl
  have hmodule :
      ((attaching "x" (requireCall "m") assigning).findings .production false).exports = [] := rfl
  rw [hguarded, hassigned, hlost, hmodule]
  exact ⟨by decide, hguarding, .object rfl, by decide, stmtsAttach_assigning, by decide⟩

end NamedExports.Script
