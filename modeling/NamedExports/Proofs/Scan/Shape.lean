import NamedExports.Proofs.Script.Nodes
import NamedExports.Scan.Exports

/-!
# Dotted names and arguments

The tests on shapes that look for `exports`, `module.exports`, `process.env.NODE_ENV` and members of
`Object` all read a dotted name.  `Expr.dotted?` reads any, and what each test looks for is one of
its answers.
-/

namespace NamedExports.Script

/-- The names of a dotted access such as `process.env`, parentheses set aside. -/
def Expr.dotted? : Expr → Option (List String)
  | .ident name => some [name]
  | .member base name => base.dotted?.map (· ++ [name])
  | .paren inner => inner.dotted?
  | _ => none

namespace Expr

variable {e base object : Expr} {name property key : String} {path : List String}

/-- No parentheses are left around an expression that they are taken from. -/
theorem withoutParens_ne_paren (e inner : Expr) : e.withoutParens ≠ .paren inner := by
  fun_induction withoutParens e with
  | case1 outer ih => exact ih
  | case2 e hparen => exact fun h => hparen inner h

/-- An expression that is a name is that name without its parentheses. -/
theorem withoutParens_of_identName? (h : e.identName? = some name) :
    e.withoutParens = .ident name := by
  rw [identName?] at h
  split at h
  · rename_i found hshape
    rw [hshape, Option.some.inj h]
  · cases h

/-- A member of a name is one without its parentheses, and so is its base. -/
theorem exists_member_of_isMemberOf (h : e.isMemberOf name property = true) :
    ∃ base, e.withoutParens = .member base property ∧ base.identName? = some name := by
  rw [isMemberOf] at h
  split at h
  · rename_i base found hshape
    rw [Bool.and_eq_true, beq_iff_eq, beq_iff_eq] at h
    exact ⟨base, by rw [hshape, h.1], h.2⟩
  · cases h

/-- Parentheses make no difference to a dotted name. -/
theorem dotted?_withoutParens (e : Expr) : e.withoutParens.dotted? = e.dotted? := by
  fun_induction withoutParens e with
  | case1 inner ih => exact ih
  | case2 e => rfl

/-- A dotted name has at least one part. -/
theorem dotted?_ne_some_nil : e.dotted? ≠ some [] := by
  fun_induction dotted? e with
  | case1 name => simp
  | case2 base name ih => simp
  | case3 inner ih => exact ih
  | case4 e => simp

/-- A dotted access to a property has that property's name last. -/
theorem dotted?_eq_append_iff (hpath : path ≠ []) :
    e.dotted? = some (path ++ [name]) ↔
      ∃ base, e.withoutParens = .member base name ∧ base.dotted? = some path := by
  rw [← dotted?_withoutParens]
  cases hshape : e.withoutParens with
  | member base found =>
    rw [dotted?, Option.map_eq_some_iff]
    constructor
    · rintro ⟨front, hbase, hfront⟩
      obtain ⟨rfl, hname⟩ := List.append_inj' hfront rfl
      obtain rfl : found = name := by simpa using hname
      exact ⟨base, rfl, hbase⟩
    · rintro ⟨_, hmember, hbase⟩
      obtain ⟨rfl, rfl⟩ := Expr.member.inj hmember
      exact ⟨path, hbase, rfl⟩
  | ident found =>
    refine iff_of_false ?_ (by simp)
    intro h
    have hlength := congrArg List.length (Option.some.inj h)
    rw [List.length_append] at hlength
    exact hpath (List.eq_nil_of_length_eq_zero (by simpa using hlength))
  | paren inner => exact absurd hshape (withoutParens_ne_paren e inner)
  | _ => simp [dotted?]

/-- A dotted name of one part is a name. -/
theorem dotted?_eq_singleton_iff : e.dotted? = some [name] ↔ e.identName? = some name := by
  rw [← dotted?_withoutParens, identName?]
  cases hshape : e.withoutParens with
  | ident found => simp [dotted?]
  | member base found =>
    refine iff_of_false ?_ (by simp)
    intro h
    obtain ⟨front, hbase, hfront⟩ := Option.map_eq_some_iff.mp h
    cases front with
    | nil => exact dotted?_ne_some_nil hbase
    | cons first rest => simp at hfront
  | paren inner => exact absurd hshape (withoutParens_ne_paren e inner)
  | _ => simp [dotted?]

/-- A dotted name of two parts is a member of a name. -/
theorem dotted?_eq_pair_iff :
    e.dotted? = some [name, property] ↔ e.isMemberOf name property = true := by
  show e.dotted? = some ([name] ++ [property]) ↔ _
  rw [dotted?_eq_append_iff (List.cons_ne_nil name [])]
  constructor
  · rintro ⟨base, hshape, hbase⟩
    rw [isMemberOf, hshape]
    simp [dotted?_eq_singleton_iff.mp hbase]
  · intro h
    obtain ⟨base, hshape, hbase⟩ := exists_member_of_isMemberOf h
    exact ⟨base, hshape, dotted?_eq_singleton_iff.mpr hbase⟩

/-- The mode is asked for by its dotted name. -/
theorem isNodeEnv_iff : e.isNodeEnv = true ↔ e.dotted? = some ["process", "env", "NODE_ENV"] := by
  show _ ↔ e.dotted? = some (["process", "env"] ++ ["NODE_ENV"])
  rw [dotted?_eq_append_iff (List.cons_ne_nil "process" ["env"]), isNodeEnv]
  constructor
  · intro h
    split at h
    · rename_i base found hshape
      rw [Bool.and_eq_true, beq_iff_eq] at h
      exact ⟨base, by rw [hshape, h.1], dotted?_eq_pair_iff.mpr h.2⟩
    · cases h
  · rintro ⟨base, hshape, hbase⟩
    rw [hshape]
    simp [dotted?_eq_pair_iff.mp hbase]

/-- A call of `require` has a single argument, which is the specifier. -/
theorem requiredSpecifier?_eq_some_iff {specifier : String} :
    e.requiredSpecifier? = some specifier ↔
      ∃ callee, e.withoutParens = .call callee [.literal (.string specifier)] ∧
        callee.identName? = some "require" := by
  rw [requiredSpecifier?]
  split
  · rename_i callee found hshape
    rw [Option.ite_none_right_eq_some, beq_iff_eq, Option.some.injEq, hshape]
    constructor
    · rintro ⟨hcallee, rfl⟩
      exact ⟨callee, rfl, hcallee⟩
    · rintro ⟨_, hcall, hcallee⟩
      simp only [Expr.call.injEq, List.cons.injEq, Expr.literal.injEq, Literal.string.injEq,
        and_true] at hcall
      obtain ⟨rfl, rfl⟩ := hcall
      exact ⟨hcallee, rfl⟩
  · rename_i hshape
    refine iff_of_false (by simp) ?_
    rintro ⟨callee, hcall, -⟩
    exact hshape callee specifier hcall

/-- Parentheses make no difference to what is called. -/
theorem calleeName?_withoutParens (e : Expr) : e.withoutParens.calleeName? = e.calleeName? := by
  fun_induction withoutParens e with
  | case1 inner ih => rw [ih, calleeName?]
  | case2 e => rfl

/-- A name that is called goes by itself. -/
theorem calleeName?_of_identName? (h : e.identName? = some name) : e.calleeName? = some name := by
  rw [identName?] at h
  split at h
  · rename_i found hshape
    rw [← calleeName?_withoutParens, hshape, calleeName?, ← Option.some.inj h]
  · cases h

/-- A member that is called goes by its own name. -/
theorem calleeName?_of_isMemberOf (h : e.isMemberOf name property = true) :
    e.calleeName? = some property := by
  obtain ⟨base, hshape, -⟩ := exists_member_of_isMemberOf h
  rw [← calleeName?_withoutParens, hshape, calleeName?]

/-- What a call of `require` answers has no name to call it by. -/
theorem calleeName?_of_requiredSpecifier? {specifier : String}
    (h : e.requiredSpecifier? = some specifier) : e.calleeName? = none := by
  rw [requiredSpecifier?] at h
  split at h
  · rename_i callee found hshape
    rw [← calleeName?_withoutParens, hshape]
    simp [calleeName?]
  · cases h

/-- A name stands among the nodes of the expression that it is. -/
theorem ident_mem_nodes_of_identName? (h : e.identName? = some name) : .ident name ∈ e.nodes := by
  refine nodes_withoutParens_subset e ?_
  rw [identName?] at h
  split at h
  · rename_i found hshape
    rw [hshape, Option.some.inj h]
    exact List.mem_cons_self
  · cases h

/-- The object of a property stands in the target with all its parts. -/
theorem nodes_subset_of_propertyTarget? (h : e.propertyTarget? = some (object, key)) :
    object.nodes ⊆ e.nodes := by
  cases e with
  | member base found =>
    obtain ⟨rfl, -⟩ : base = object ∧ found = key := by simpa [propertyTarget?] using h
    exact List.subset_cons_self _ _
  | index base found =>
    rw [propertyTarget?] at h
    split at h
    · obtain ⟨rfl, -⟩ : base = object ∧ _ = key := by simpa using h
      exact List.subset_cons_of_subset _ (List.subset_append_left _ _)
    · cases h
  | _ => cases h

end Expr

/-! ## Loops over keys -/

/-- A call that iterates over keys calls `forEach`. -/
theorem Expr.calleeName?_of_iteratedKeys? {callee source : Expr}
    (h : Context.iteratedKeys? callee = some source) : callee.calleeName? = some "forEach" := by
  rw [Context.iteratedKeys?] at h
  split at h
  · rename_i owner hshape
    rw [← calleeName?_withoutParens, hshape, calleeName?]
  · cases h

/-- A member of a name iterates over no keys, unless it is a `forEach`. -/
theorem iteratedKeys?_of_isMemberOf {callee : Expr} {object property : String}
    (h : callee.isMemberOf object property = true) (hname : property ≠ "forEach") :
    Context.iteratedKeys? callee = none := by
  obtain ⟨base, hshape, -⟩ := Expr.exists_member_of_isMemberOf h
  rw [Context.iteratedKeys?, hshape]
  split
  · rename_i heq
    cases heq
    exact absurd rfl hname
  · rfl

/-! ## Entries of object literals -/

section Members

variable {key value operand : Expr} {rest : List Member}

@[simp] theorem staticKeys_nil : staticKeys [] = [] := rfl

@[simp] theorem staticKeys_property :
    staticKeys (.property key value :: rest) = key.staticName?.toList ++ staticKeys rest := by
  simp only [staticKeys, List.filterMap_cons]
  cases key.staticName? <;> rfl

@[simp] theorem staticKeys_spread : staticKeys (.spread operand :: rest) = staticKeys rest := rfl

@[simp] theorem spreadOperands_nil : spreadOperands [] = [] := rfl

@[simp] theorem spreadOperands_property :
    spreadOperands (.property key value :: rest) = spreadOperands rest := rfl

@[simp] theorem spreadOperands_spread :
    spreadOperands (.spread operand :: rest) = operand :: spreadOperands rest := rfl

end Members

/-! ## Arguments -/

/-- An argument that is a value is that value. -/
theorem Expr.eq_of_asValue? {arg value : Expr} (h : arg.asValue? = some value) : arg = value := by
  unfold asValue? at h
  split at h
  · cases h
  · exact Option.some.inj h

/-- The first value among arguments is one of them. -/
theorem mem_of_firstValue? {args : List Expr} {first : Expr} (h : firstValue? args = some first) :
    first ∈ args := by
  obtain ⟨arg, harg, hvalue⟩ := Option.bind_eq_some_iff.mp h
  rw [← Expr.eq_of_asValue? hvalue]
  exact List.mem_of_head? harg

/-- The second value among arguments is one of them. -/
theorem mem_of_secondValue? {args : List Expr} {second : Expr}
    (h : secondValue? args = some second) : second ∈ args := by
  obtain ⟨arg, harg, hvalue⟩ := Option.bind_eq_some_iff.mp h
  rw [← Expr.eq_of_asValue? hvalue]
  exact List.mem_of_mem_drop (List.mem_of_head? harg)

end NamedExports.Script
