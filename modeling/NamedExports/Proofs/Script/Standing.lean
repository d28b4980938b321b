import NamedExports.Proofs.Scan.Shape

/-!
# Where expressions stand

`HasExpr` relates a program to the expressions that stand in it where a value is computed, at any
depth and in functions as well.  Destructuring patterns, parameters and the parts of constructs that
are kept whole are none of them, so an object literal that stands in a program is one.
-/

namespace NamedExports.Script

/-- The value of an entry of an object literal, or what it spreads. -/
def Member.operand : Member → Expr
  | .property _ value => value
  | .spread operand => operand

/-- The expressions whose values an expression is made of. -/
def Expr.operands : Expr → List Expr
  | .object members => members.map Member.operand
  | .arrowValue _ _ value => [value]
  | .unary _ operand => [operand]
  | .binary _ left right => [left, right]
  | .logical _ left right => [left, right]
  | .conditional test yes no => [test, yes, no]
  | .assign _ _ value => [value]
  | .sequence items => items
  | .member base _ => [base]
  | .index base key => [base, key]
  | .call callee args => callee :: args
  | .spread operand => [operand]
  | .paren inner => [inner]
  | .chain inner => [inner]
  | .ident _ | .literal _ | .function _ | .arrow _ | .other _ _ => []

/-- The statements of the function that an expression is. -/
def Expr.body : Expr → List Stmt
  | .function code => code.body
  | .arrow code => code.body
  | _ => []

/-- The value that a declared name or pattern starts from. -/
def Declarator.init? : Declarator → Option Expr
  | .mk _ init => init

/-- The expressions that a statement evaluates. -/
def Stmt.operands : Stmt → List Expr
  | .expr value => [value]
  | .declare _ items => items.filterMap Declarator.init?
  | .ifThen test _ _ => [test]
  | .return (some value) => [value]
  | _ => []

/-- The statements that stand in a statement. -/
def Stmt.parts : Stmt → List Stmt
  | .function code => code.body
  | .block body => body
  | .ifThen _ yes no => yes :: no.toList
  | .tryCatch body _ handler finalizer => body ++ handler ++ finalizer
  | _ => []

mutual

/-- A statement stands in a program. -/
inductive HasStmt (program : Program) : Stmt → Prop where
  | top {s : Stmt} (h : s ∈ program) : HasStmt program s
  | part {outer s : Stmt} (h : HasStmt program outer) (hs : s ∈ outer.parts) : HasStmt program s
  | body {e : Expr} {s : Stmt} (h : HasExpr program e) (hs : s ∈ e.body) : HasStmt program s

/-- An expression stands in a program where a value is computed. -/
inductive HasExpr (program : Program) : Expr → Prop where
  | evaluated {s : Stmt} {e : Expr} (h : HasStmt program s) (he : e ∈ s.operands) :
      HasExpr program e
  | operand {outer e : Expr} (h : HasExpr program outer) (he : e ∈ outer.operands) :
      HasExpr program e

end

namespace HasExpr

variable {program : Program} {e f : Expr} {args : List Expr}

/-- What stands in a program in parentheses stands in it without them. -/
theorem ofParen (h : HasExpr program (.paren e)) : HasExpr program e :=
  h.operand List.mem_cons_self

/-- The same for any number of parentheses. -/
theorem withoutParens (h : HasExpr program e) : HasExpr program e.withoutParens := by
  fun_induction Expr.withoutParens e with
  | case1 inner ih => exact ih h.ofParen
  | case2 e => exact h

/-- The callee of a call stands where the call does. -/
theorem callee (h : HasExpr program (.call f args)) : HasExpr program f :=
  h.operand List.mem_cons_self

/-- So do the arguments of a call. -/
theorem arg (h : HasExpr program (.call f args)) (he : e ∈ args) : HasExpr program e := by
  have hmem : e ∈ (Expr.call f args).operands := List.mem_cons_of_mem f he
  exact h.operand hmem

/-- So does the value of an assignment. -/
theorem assigned {op : AssignOp} {target : Expr} (h : HasExpr program (.assign op target e)) :
    HasExpr program e :=
  h.operand List.mem_cons_self

/-- So does what is spread into an object literal. -/
theorem spread {members : List Member} (h : HasExpr program (.object members))
    (he : e ∈ spreadOperands members) : HasExpr program e := by
  obtain ⟨member, hmember, hspread⟩ := List.mem_filterMap.mp he
  refine h.operand (List.mem_map.mpr ⟨member, hmember, ?_⟩)
  cases member with
  | property key value => cases hspread
  | spread operand => exact Option.some.inj hspread

end HasExpr

/-- So does the initial value of a declared variable. -/
theorem HasStmt.initial {program : Program} {kind : DeclKind} {items : List Declarator}
    {item : Declarator} {init : Expr} (h : HasStmt program (.declare kind items))
    (hitem : item ∈ items) (hinit : item.init? = some init) : HasExpr program init :=
  .evaluated h (List.mem_filterMap.mpr ⟨item, hitem, hinit⟩)

/-! ## What stands in a program is among its expressions -/

/-- The nodes of a statement are among those of a body that it stands in. -/
theorem nodes_subset_stmtsNodes {s : Stmt} {body : List Stmt} (h : s ∈ body) :
    s.nodes ⊆ stmtsNodes body := by
  induction body with
  | nil => cases h
  | cons first rest ih =>
    rw [stmtsNodes]
    rcases List.mem_cons.mp h with rfl | h
    · exact List.subset_append_left _ _
    · exact List.subset_append_of_subset_right _ (ih h)

/-- The operands of the members of an object literal are among its nodes. -/
theorem exprsNodes_operands_subset_membersNodes (members : List Member) :
    exprsNodes (members.map Member.operand) ⊆ membersNodes members := by
  induction members with
  | nil => exact List.Subset.refl _
  | cons first rest ih =>
    rw [List.map_cons, exprsNodes]
    cases first with
    | property key value =>
      rw [membersNodes, List.append_assoc]
      refine List.subset_append_of_subset_right _ ?_
      exact List.append_subset.mpr ⟨List.subset_append_left _ _,
        List.subset_append_of_subset_right _ ih⟩
    | spread operand =>
      exact List.append_subset.mpr ⟨List.subset_append_left _ _,
        List.subset_append_of_subset_right _ ih⟩

/-- The initial values of declarators are among their nodes. -/
theorem exprsNodes_initial_subset (items : List Declarator) :
    exprsNodes (items.filterMap Declarator.init?) ⊆ declaratorsNodes items := by
  induction items with
  | nil => exact List.Subset.refl _
  | cons first rest ih =>
    match first with
    | .mk target none => exact List.subset_append_of_subset_right _ ih
    | .mk target (some init) =>
      rw [declaratorsNodes, List.append_assoc]
      refine List.subset_append_of_subset_right _ ?_
      exact List.append_subset.mpr ⟨List.subset_append_left _ _,
        List.subset_append_of_subset_right _ ih⟩

/-- The operands of an expression are inside it. -/
theorem Expr.exprsNodes_operands_subset (outer : Expr) :
    exprsNodes outer.operands ⊆ outer.inside := by
  cases outer with
  | object members => exact exprsNodes_operands_subset_membersNodes members
  | sequence items => exact List.Subset.refl _
  | call callee args => exact List.Subset.refl _
  | _ => simp [operands, inside, exprsNodes]

/-- The body of a function expression is inside it. -/
theorem Expr.stmtsNodes_body_subset (e : Expr) : stmtsNodes e.body ⊆ e.inside := by
  cases e with
  | function code | arrow code =>
    cases code
    exact List.subset_append_right _ _
  | _ => exact List.nil_subset _

/-- The operands of a statement are among its nodes. -/
theorem Stmt.exprsNodes_operands_subset (s : Stmt) : exprsNodes s.operands ⊆ s.nodes := by
  cases s with
  | declare kind items => exact exprsNodes_initial_subset items
  | ifThen test yes no => cases no <;> simp [operands, nodes, exprsNodes]
  | «return» value => cases value <;> simp [operands, nodes, exprsNodes]
  | _ => simp [operands, nodes, exprsNodes]

/-- The nodes of two lists of statements. -/
theorem stmtsNodes_append (front back : List Stmt) :
    stmtsNodes (front ++ back) = stmtsNodes front ++ stmtsNodes back := by
  induction front with
  | nil => rfl
  | cons first rest ih => rw [List.cons_append, stmtsNodes, ih, stmtsNodes, List.append_assoc]

/-- The parts of a statement are among its nodes. -/
theorem Stmt.stmtsNodes_parts_subset (s : Stmt) : stmtsNodes s.parts ⊆ s.nodes := by
  cases s with
  | function code =>
    cases code
    exact List.subset_append_right _ _
  | block body => exact List.Subset.refl _
  | ifThen test yes no => cases no <;> simp [parts, nodes, stmtsNodes]
  | tryCatch body param handler finalizer =>
    rw [parts, stmtsNodes_append, stmtsNodes_append]
    have hbody := stmtsNodes_try_subset body param handler finalizer
    have hhandler : stmtsNodes handler ⊆ (Stmt.tryCatch body param handler finalizer).nodes := by
      cases param <;>
        exact List.subset_append_of_subset_left _ (List.subset_append_right _ _)
    have hfinalizer : stmtsNodes finalizer ⊆ (Stmt.tryCatch body param handler finalizer).nodes := by
      cases param <;> exact List.subset_append_right _ _
    exact List.append_subset.mpr ⟨List.append_subset.mpr ⟨hbody, hhandler⟩, hfinalizer⟩
  | _ => exact List.nil_subset _

mutual

/-- The nodes of whatever statement stands in a program are nodes of the program. -/
theorem HasStmt.nodes_subset {program : Program} :
    ∀ {s : Stmt}, HasStmt program s → s.nodes ⊆ stmtsNodes program
  | _, .top h => nodes_subset_stmtsNodes h
  | _, .part h hs =>
    List.Subset.trans (nodes_subset_stmtsNodes hs)
      (List.Subset.trans (Stmt.stmtsNodes_parts_subset _) h.nodes_subset)
  | _, .body h hs =>
    List.Subset.trans (nodes_subset_stmtsNodes hs) (List.Subset.trans (Expr.stmtsNodes_body_subset _)
      (List.Subset.trans (List.subset_cons_self _ _) h.nodes_subset))

/-- The same for an expression. -/
theorem HasExpr.nodes_subset {program : Program} :
    ∀ {e : Expr}, HasExpr program e → e.nodes ⊆ stmtsNodes program
  | _, .evaluated h he =>
    List.Subset.trans (nodes_subset_exprsNodes he)
      (List.Subset.trans (Stmt.exprsNodes_operands_subset _) h.nodes_subset)
  | _, .operand h he =>
    List.Subset.trans (nodes_subset_exprsNodes he)
      (List.Subset.trans (Expr.exprsNodes_operands_subset _)
        (List.Subset.trans (List.subset_cons_self _ _) h.nodes_subset))

end

/-- Only statements of a list stand in a program without functions, if the program's are among them
and so are those that stand in one of the list. -/
theorem HasStmt.mem_of_closed {program : Program} {all : List Stmt} (hprogram : program ⊆ all)
    (hparts : ∀ s ∈ all, s.parts ⊆ all) (hbodies : ∀ e ∈ stmtsNodes program, e.body = []) :
    ∀ {s : Stmt}, HasStmt program s → s ∈ all
  | _, .top h => hprogram h
  | _, .part h hs => hparts _ (h.mem_of_closed hprogram hparts hbodies) hs
  | _, .body h hs => by
    rw [hbodies _ (h.nodes_subset List.mem_cons_self)] at hs
    cases hs

end NamedExports.Script
