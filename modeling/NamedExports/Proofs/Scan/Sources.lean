import NamedExports.Proofs.Scan.Following

/-!
# Where names and targets come from

A name is written in a program as a static key of an object literal, in the target of an assignment
to a property, or in a call of `Object.defineProperty`.  A re-export target is written as the
specifier of a call of `require`.  Whatever a scan comes to know of names has one of these sources.
-/

namespace NamedExports.Script

/-- A program writes a name where exports are named. -/
inductive Names (program : Program) (name : String) : Prop where
  /-- `{ name: … }` -/
  | key {members : List Member} (h : HasExpr program (.object members))
      (hkey : name ∈ staticKeys members)
  /-- `….name = …` or `…['name'] = …` -/
  | target {op : AssignOp} {target value base : Expr}
      (h : HasExpr program (.assign op target value))
      (htarget : target.propertyTarget? = some (base, name))
  /-- `Object.defineProperty(…, 'name', …)` -/
  | defined {callee : Expr} {args : List Expr} (h : HasExpr program (.call callee args))
      (hcallee : callee.isMemberOf "Object" "defineProperty" = true)
      (hname : secondValue? args = some (.literal (.string name)))

/-- `require('specifier')` stands in a program. -/
def Requires (program : Program) (specifier : String) : Prop :=
  ∃ callee, HasExpr program (.call callee [.literal (.string specifier)]) ∧
    callee.identName? = some "require"

/-- `require('specifier')(…)` stands in a program. -/
def CallsRequired (program : Program) (specifier : String) : Prop :=
  ∃ callee args, HasExpr program (.call callee args) ∧
    callee.requiredSpecifier? = some specifier

variable {program : Program}

/-- A call of `require` that stands in the program is one by which the program requires a module. -/
theorem HasExpr.requires {e : Expr} {specifier : String} (h : HasExpr program e)
    (hspecifier : e.requiredSpecifier? = some specifier) : Requires program specifier := by
  obtain ⟨callee, hshape, hcallee⟩ := Expr.requiredSpecifier?_eq_some_iff.mp hspecifier
  have hcall := h.withoutParens
  rw [hshape] at hcall
  exact ⟨callee, hcall, hcallee⟩

/-- So is one that stands as the first argument of a call. -/
theorem HasExpr.requires_of_firstValue? {callee : Expr} {args : List Expr}
    {specifier : String} (h : HasExpr program (.call callee args))
    (hfirst : (firstValue? args).bind Expr.requiredSpecifier? = some specifier) :
    Requires program specifier := by
  obtain ⟨first, hvalue, hspecifier⟩ := Option.bind_eq_some_iff.mp hfirst
  exact (h.arg (mem_of_firstValue? hvalue)).requires hspecifier

/-! ## What functions return -/

namespace Returns

/-- The keys of the local object literals and those returned so far are written in the program. -/
structure Sourced (program : Program) (r : Returns) : Prop where
  locals : ∀ name keys, r.locals name = some keys → ∀ key ∈ keys, Names program key
  keys : ∀ key ∈ r.keys, Names program key

namespace Sourced

variable {r : Returns}

/-- A function that has built nothing has no keys from anywhere else. -/
theorem start : Sourced program start := ⟨nofun, nofun⟩

/-- Declaring an object with keys of the program keeps it so. -/
theorem declare (h : Sourced program r) (name : String) {keys : List String}
    (hkeys : ∀ key ∈ keys, Names program key) : Sourced program (r.declare name keys) := by
  refine ⟨fun other found hfound => ?_, h.keys⟩
  by_cases hother : other = name
  · obtain rfl : keys = found := by simpa [Returns.declare, hother] using hfound
    exact hkeys
  · exact h.locals other found (by simpa [Returns.declare, hother] using hfound)

/-- So does adding a key of the program. -/
theorem addKey (h : Sourced program r) (name : String) {key : String}
    (hkey : Names program key) : Sourced program (r.addKey name key) := by
  refine ⟨fun other found hfound => ?_, h.keys⟩
  by_cases hother : other = name
  · obtain ⟨keys, hkeys, rfl⟩ : ∃ keys, r.locals name = some keys ∧ keys ++ [key] = found := by
      simpa [Returns.addKey, hother] using hfound
    intro x hx
    rcases List.mem_append.mp hx with hx | hx
    · exact h.locals name keys hkeys x hx
    · rw [List.mem_singleton.mp hx]
      exact hkey
  · exact h.locals other found (by simpa [Returns.addKey, hother] using hfound)

/-- So does giving keys of the program away. -/
theorem give (h : Sourced program r) {keys : List String}
    (hkeys : ∀ key ∈ keys, Names program key) : Sourced program (r.give keys) := by
  refine ⟨h.locals, fun key hkey => ?_⟩
  rcases List.mem_append.mp hkey with hkey | hkey
  · exact h.keys key hkey
  · exact hkeys key hkey

/-- So does a variable whose initial value stands in the program. -/
theorem declarator (h : Sourced program r) {item : Declarator}
    (hitem : ∀ init, item.init? = some init → HasExpr program init) :
    Sourced program (r.declarator item) := by
  unfold Returns.declarator
  split
  · rename_i name init
    have hinit := (hitem init rfl).withoutParens
    split
    · rename_i members hshape
      rw [hshape] at hinit
      exact h.declare name fun key hkey => .key hinit hkey
    · exact h
  · exact h

theorem declarators : ∀ (items : List Declarator) {r : Returns}, Sourced program r →
    (∀ item ∈ items, ∀ init, item.init? = some init → HasExpr program init) →
    Sourced program (items.foldl Returns.declarator r)
  | [], _, h, _ => h
  | first :: rest, _, h, hitems =>
    declarators rest (h.declarator (hitems first List.mem_cons_self))
      fun item hitem => hitems item (List.mem_cons_of_mem first hitem)

/-- So does an expression that stands in the program. -/
theorem effect (h : Sourced program r) {e : Expr} (he : HasExpr program e) :
    Sourced program (r.effect e) := by
  have hassign := he.withoutParens
  unfold Returns.effect
  split
  · rename_i op target value hshape
    rw [hshape] at hassign
    split
    · rename_i base key htarget
      split
      · exact h.addKey _ (.target hassign htarget)
      · exact h
    · exact h
  · exact h

/-- So does a returned value that stands in the program. -/
theorem value (h : Sourced program r) {e : Expr} (he : HasExpr program e) :
    Sourced program (r.value e) := by
  have hvalue := he.withoutParens
  unfold Returns.value
  split
  · rename_i members hshape
    rw [hshape] at hvalue
    exact h.give fun key hkey => .key hvalue hkey
  · rename_i name hshape
    refine h.give fun key hkey => ?_
    cases hlocal : r.locals name with
    | none => simp [hlocal] at hkey
    | some keys => exact h.locals name keys hlocal key (by simpa [hlocal] using hkey)
  · exact h

mutual

/-- So does a statement that stands in the program. -/
theorem statement : ∀ (s : Stmt) {r : Returns}, Sourced program r → HasStmt program s →
    Sourced program (r.statement s)
  | .declare _ items, _, h, hs => declarators items h fun _ hitem _ hinit => hs.initial hitem hinit
  | .expr _, _, h, hs => h.effect (.evaluated hs List.mem_cons_self)
  | .return (some _), _, h, hs => h.value (.evaluated hs List.mem_cons_self)
  | .block body, _, h, hs => statements body h fun _ hpart => .part hs hpart
  | .ifThen _ yes none, _, h, hs => statement yes h (.part hs List.mem_cons_self)
  | .ifThen _ yes (some no), _, h, hs =>
    statement no (statement yes h (.part hs List.mem_cons_self))
      (.part hs (List.mem_cons_of_mem yes List.mem_cons_self))
  | .function _, _, h, _ | .class _ _, _, h, _ | .tryCatch _ _ _ _, _, h, _ | .return none, _, h, _
  | .other _ _ _, _, h, _ => h

theorem statements : ∀ (body : List Stmt) {r : Returns}, Sourced program r →
    (∀ s ∈ body, HasStmt program s) → Sourced program (r.statements body)
  | [], _, h, _ => h
  | first :: rest, _, h, hbody =>
    statements rest (statement first h (hbody first List.mem_cons_self))
      fun s hs => hbody s (List.mem_cons_of_mem first hs)

end

end Sourced

end Returns

/-- The keys of what a function of the program returns are written in the program. -/
theorem Code.names_of_mem_returnedKeys {code : Code} (h : ∀ s ∈ code.body, HasStmt program s) :
    ∀ key ∈ code.returnedKeys, Names program key :=
  (Returns.Sourced.statements code.body .start h).keys

/-- The keys of an object literal of the program are written in the program. -/
theorem HasExpr.names_of_mem_valueKeys {e : Expr} (h : HasExpr program e) :
    ∀ key ∈ e.valueKeys, Names program key := by
  have hvalue := h.withoutParens
  intro key hkey
  rw [Expr.valueKeys] at hkey
  split at hkey
  · rename_i members hshape
    rw [hshape] at hvalue
    exact .key hvalue hkey
  · cases hkey

/-- The keys of what a function expression returns are written in the program. -/
theorem HasExpr.names_of_mem_returnedKeys {e : Expr} {code : Code} (h : HasExpr program e)
    (hbody : e.body = code.body) : ∀ key ∈ code.returnedKeys, Names program key := by
  refine Code.names_of_mem_returnedKeys fun s hs => .body h ?_
  rw [hbody]
  exact hs

/-! ## What names hold -/

/-- What a name is known to hold is written in the program. -/
structure Binding.Sourced (program : Program) (binding : Binding) : Prop where
  keys : ∀ key ∈ binding.keys, Names program key
  reexports : ∀ specifier ∈ binding.reexports, Requires program specifier
  required : ∀ specifier, binding.required = some specifier → Requires program specifier
  returns : ∀ key ∈ binding.returns, Names program key

namespace Binding.Sourced

variable {binding : Binding}

/-- A name of which nothing is known holds nothing from elsewhere. -/
theorem unknown : Sourced program unknown := ⟨nofun, nofun, nofun, nofun⟩

/-- A name that holds a module holds one that the program requires. -/
theorem ofRequired {required : Option String}
    (h : ∀ specifier, required = some specifier → Requires program specifier) :
    Sourced program { Binding.unknown with required } :=
  ⟨nofun, nofun, h, nofun⟩

/-- A name that holds a function returns keys of the program. -/
theorem ofReturns {returns : List String} (h : ∀ key ∈ returns, Names program key) :
    Sourced program { Binding.unknown with returns } :=
  ⟨nofun, nofun, nofun, h⟩

/-- Keys of the program can be added. -/
theorem addKeys (h : Sourced program binding) {keys : List String}
    (hkeys : ∀ key ∈ keys, Names program key) :
    Sourced program { binding with keys := binding.keys ++ keys } := by
  refine ⟨fun key hkey => ?_, h.reexports, h.required, h.returns⟩
  rcases List.mem_append.mp hkey with hkey | hkey
  · exact h.keys key hkey
  · exact hkeys key hkey

/-- An initial value that stands in the program holds nothing from elsewhere. -/
theorem ofValue {e : Expr} (h : HasExpr program e) : Sourced program (Binding.ofValue e) := by
  fun_induction Binding.ofValue e with
  | case1 inner ih => exact ih h.ofParen
  | case2 members =>
    refine ⟨fun key hkey => .key h hkey, fun specifier hspecifier => ?_, nofun, nofun⟩
    obtain ⟨operand, hoperand, hrequired⟩ := List.mem_filterMap.mp hspecifier
    exact (h.spread hoperand).requires hrequired
  | case3 callee args specifier hspecifier =>
    refine ofRequired fun found hfound => ?_
    rw [← Option.some.inj hfound]
    exact h.requires hspecifier
  | case4 callee args hnone hinterop => exact ofRequired fun _ => h.requires_of_firstValue?
  | case5 => exact unknown
  | case6 code => exact ofReturns (h.names_of_mem_returnedKeys rfl)
  | case7 code => exact ofReturns (h.names_of_mem_returnedKeys rfl)
  | case8 async params value =>
    exact ofReturns (HasExpr.names_of_mem_valueKeys (h.operand List.mem_cons_self))
  | case9 op target value ih => exact ih h.assigned
  | case10 => exact unknown

end Binding.Sourced

namespace Bindings

/-- What every name is known to hold is written in the program. -/
def Sourced (program : Program) (b : Bindings) : Prop :=
  ∀ name binding, b.get? name = some binding → binding.Sourced program

namespace Sourced

variable {b : Bindings}

/-- An empty table holds nothing from elsewhere. -/
theorem empty : Sourced program empty := nofun

/-- Recording what comes from the program keeps a table so. -/
theorem set (h : b.Sourced program) (name : String) {binding : Binding}
    (hbinding : binding.Sourced program) : (b.set name binding).Sourced program := by
  intro other found hfound
  by_cases hother : other = name
  · obtain rfl : binding = found := by simpa [Bindings.set, hother] using hfound
    exact hbinding
  · exact h other found (by simpa [Bindings.set, hother] using hfound)

/-- So does adding keys of the program to a name. -/
theorem addKeys (h : b.Sourced program) (name : String) {keys : List String}
    (hkeys : ∀ key ∈ keys, Names program key) : (b.addKeys name keys).Sourced program := by
  intro other found hfound
  by_cases hother : other = name
  · obtain ⟨binding, hbinding, rfl⟩ : ∃ binding, b.get? name = some binding ∧
        { binding with keys := binding.keys ++ keys } = found := by
      simpa [Bindings.addKeys, hother] using hfound
    exact (h name binding hbinding).addKeys hkeys
  · exact h other found (by simpa [Bindings.addKeys, hother] using hfound)

/-- So does a variable whose initial value stands in the program. -/
theorem declare (h : b.Sourced program) {item : Declarator}
    (hitem : ∀ init, item.init? = some init → HasExpr program init) :
    (b.declare item).Sourced program := by
  unfold Bindings.declare
  split
  · exact h.set _ (.ofValue (hitem _ rfl))
  · exact h

/-- So does an assignment that stands in the program. -/
theorem assign (h : b.Sourced program) {op : AssignOp} {target value : Expr}
    (hassign : HasExpr program (.assign op target value)) :
    (b.assign target).Sourced program := by
  unfold Bindings.assign
  split
  · rename_i base key htarget
    split
    · refine h.addKeys _ fun found hfound => ?_
      rw [List.mem_singleton.mp hfound]
      exact .target hassign htarget
    · exact h
  · exact h

/-- So does a call that stands in the program. -/
theorem call (h : b.Sourced program) {callee : Expr} {args : List Expr}
    (hcall : HasExpr program (.call callee args)) : (b.call callee args).Sourced program := by
  simp only [Bindings.call]
  split
  · exact h
  · split
    · rename_i key hsecond
      split
      · rename_i hdefine
        refine h.addKeys _ fun found hfound => ?_
        rw [List.mem_singleton.mp hfound]
        exact .defined hcall hdefine hsecond
      · exact h
    · rename_i members hsecond
      split
      · have hmembers : HasExpr program (.object members) := hcall.arg (mem_of_secondValue? hsecond)
        exact h.addKeys _ fun key hkey => .key hmembers hkey
      · exact h
    · exact h

/-- Each change that the first look makes is for something that is a source. -/
theorem kept (program : Program) : Kept program (Sourced program) where
  declare hs hitem h := h.declare fun _ hinit => hs.initial hitem hinit
  declareFunction hs _ h :=
    h.set _ (.ofReturns (Code.names_of_mem_returnedKeys fun _ hbody => .part hs hbody))
  declareClass _ h := h.set _ .unknown
  assign he h := h.assign he
  call he h := h.call he

/-- All that the first look at a program makes known comes from the program. -/
theorem ofProgram (mode : Mode) (program : Program) : (ofProgram mode program).Sourced program :=
  (kept program).ofProgram empty mode

end Sourced

end Bindings

end NamedExports.Script
