import NamedExports.Script.Pattern

/-!
# The expressions of a program

`Expr.inside` lists what stands inside an expression, at any depth and in functions as well, and
`stmtsNodes` lists all expressions of a program.
-/

namespace NamedExports.Script

mutual

/-- The expressions inside an expression. -/
def Expr.inside : Expr → List Expr
  | .ident _ => []
  | .literal _ => []
  | .object members => membersNodes members
  | .function code => code.nodes
  | .arrow code => code.nodes
  | .arrowValue _ params value => exprsNodes params ++ value :: value.inside
  | .unary _ operand => operand :: operand.inside
  | .binary _ left right => left :: left.inside ++ right :: right.inside
  | .logical _ left right => left :: left.inside ++ right :: right.inside
  | .conditional test yes no =>
    test :: test.inside ++ yes :: yes.inside ++ no :: no.inside
  | .assign _ target value => target :: target.inside ++ value :: value.inside
  | .sequence items => exprsNodes items
  | .member object _ => object :: object.inside
  | .index object key => object :: object.inside ++ key :: key.inside
  | .call callee args => callee :: callee.inside ++ exprsNodes args
  | .spread operand => operand :: operand.inside
  | .paren inner => inner :: inner.inside
  | .chain inner => inner :: inner.inside
  | .other _ parts => exprsNodes parts

/-- All expressions of a list of expressions. -/
def exprsNodes : List Expr → List Expr
  | [] => []
  | first :: rest => first :: first.inside ++ exprsNodes rest

/-- All expressions of the entries of an object literal. -/
def membersNodes : List Member → List Expr
  | [] => []
  | .property key value :: rest => key :: key.inside ++ value :: value.inside ++ membersNodes rest
  | .spread operand :: rest => operand :: operand.inside ++ membersNodes rest

/-- All expressions of a function. -/
def Code.nodes : Code → List Expr
  | .mk _ _ _ params body => exprsNodes params ++ stmtsNodes body

/-- All expressions of declared names and patterns and of the values they start from. -/
def declaratorsNodes : List Declarator → List Expr
  | [] => []
  | .mk target none :: rest => target :: target.inside ++ declaratorsNodes rest
  | .mk target (some init) :: rest =>
    target :: target.inside ++ init :: init.inside ++ declaratorsNodes rest

/-- All expressions of a statement. -/
def Stmt.nodes : Stmt → List Expr
  | .expr value => value :: value.inside
  | .declare _ items => declaratorsNodes items
  | .function code => code.nodes
  | .class _ parts => exprsNodes parts
  | .block body => stmtsNodes body
  | .ifThen test yes none => test :: test.inside ++ yes.nodes
  | .ifThen test yes (some no) => test :: test.inside ++ yes.nodes ++ no.nodes
  | .tryCatch body none handler finalizer =>
    stmtsNodes body ++ stmtsNodes handler ++ stmtsNodes finalizer
  | .tryCatch body (some param) handler finalizer =>
    stmtsNodes body ++ param :: param.inside ++ stmtsNodes handler ++ stmtsNodes finalizer
  | .return none => []
  | .return (some value) => value :: value.inside
  | .other _ exprs body => exprsNodes exprs ++ stmtsNodes body

/-- All expressions of a list of statements. -/
def stmtsNodes : List Stmt → List Expr
  | [] => []
  | first :: rest => first.nodes ++ stmtsNodes rest

end

/-- An expression and the expressions inside it. -/
def Expr.nodes (e : Expr) : List Expr := e :: e.inside

/-- An expression without its parentheses is one of its own. -/
theorem Expr.nodes_withoutParens_subset : ∀ e : Expr, e.withoutParens.nodes ⊆ e.nodes
  | .paren inner => List.subset_cons_of_subset _ (nodes_withoutParens_subset inner)
  | .ident _ | .literal _ | .object _ | .function _ | .arrow _ | .arrowValue _ _ _ | .unary _ _
  | .binary _ _ _ | .logical _ _ _ | .conditional _ _ _ | .assign _ _ _ | .sequence _ | .member _ _
  | .index _ _ | .call _ _ | .spread _ | .chain _ | .other _ _ => List.Subset.refl _

theorem Expr.nodes_target_subset (op : AssignOp) (target right : Expr) :
    target.nodes ⊆ (Expr.assign op target right).nodes :=
  List.subset_cons_of_subset _ (List.subset_append_left _ _)

theorem Expr.nodes_right_subset (op : AssignOp) (target right : Expr) :
    right.nodes ⊆ (Expr.assign op target right).nodes :=
  List.subset_cons_of_subset _ (List.subset_append_right _ _)

theorem Expr.exprsNodes_args_subset (callee : Expr) (args : List Expr) :
    exprsNodes args ⊆ (Expr.call callee args).nodes :=
  List.subset_cons_of_subset _ (List.subset_append_right _ _)

theorem Expr.nodes_callee_subset (callee : Expr) (args : List Expr) :
    callee.nodes ⊆ (Expr.call callee args).nodes :=
  List.subset_cons_of_subset _ (List.subset_append_left _ _)

theorem Expr.stmtsNodes_function_subset (name : Option String) (async generator : Bool)
    (params : List Expr) (body : List Stmt) :
    stmtsNodes body ⊆ (Expr.function (.mk name async generator params body)).nodes :=
  List.subset_cons_of_subset _ (List.subset_append_right _ _)

theorem Expr.stmtsNodes_arrow_subset (name : Option String) (async generator : Bool)
    (params : List Expr) (body : List Stmt) :
    stmtsNodes body ⊆ (Expr.arrow (.mk name async generator params body)).nodes :=
  List.subset_cons_of_subset _ (List.subset_append_right _ _)

/-- The nodes of both branches are nodes of the `if` statement. -/
theorem Stmt.nodes_branches_subset (test : Expr) (yes no : Stmt) :
    yes.nodes ++ no.nodes ⊆ (Stmt.ifThen test yes (some no)).nodes := by
  rw [Stmt.nodes, List.append_assoc]
  exact List.subset_append_right _ _

/-- The nodes of a block are nodes of the `try` statement. -/
theorem Stmt.stmtsNodes_try_subset (body : List Stmt) (param : Option Expr)
    (handler finalizer : List Stmt) :
    stmtsNodes body ⊆ (Stmt.tryCatch body param handler finalizer).nodes := by
  cases param with
  | none => exact List.subset_append_of_subset_left _ (List.subset_append_left _ _)
  | some param =>
    exact List.subset_append_of_subset_left _
      (List.subset_append_of_subset_left _ (List.subset_append_left _ _))

/-- The nodes of one item are nodes of all. -/
theorem nodes_subset_exprsNodes {e : Expr} {items : List Expr} (h : e ∈ items) :
    e.nodes ⊆ exprsNodes items := by
  induction items with
  | nil => cases h
  | cons first rest ih =>
    rw [exprsNodes]
    rcases List.mem_cons.mp h with rfl | h
    · exact List.subset_append_left _ _
    · exact List.subset_append_of_subset_right _ (ih h)

end NamedExports.Script
