import NamedExports.Proofs.Scan.Reached
import NamedExports.Proofs.Scan.Sources

/-!
# Nothing is invented

Every name that a scan finds is written in the program, and every target is a module that the
program requires.  Names that are found travel through what is known of variables, through what
functions return and through helpers that copy; `FoundIn` holds on the way, and
`Program.findings_written` is what it comes to for a program.
-/

namespace NamedExports.Script

variable {program : Program}

/-! ## What assignments and calls export -/

/-- A re-export target is a module that the program requires.  A scan that is not for a call marks
it as called only if the program calls what it requires. -/
def Targets (program : Program) (called : Bool) (target : String) : Prop :=
  ∃ specifier marked, target = (Reexport.mk specifier marked).encode ∧
    Requires program specifier ∧ (marked = true → called = true ∨ CallsRequired program specifier)

/-- Every name and every target among some findings comes from the program. -/
structure FoundIn (program : Program) (called : Bool) (found : Findings) : Prop where
  exports : ∀ name ∈ found.exports, Names program name
  reexports : ∀ target ∈ found.reexports, Targets program called target

namespace FoundIn

variable {called : Bool} {first second : Findings} {keys : List String} {specifier : String}

/-- Nothing is found anywhere. -/
theorem nothing : FoundIn program called ∅ := ⟨nofun, nofun⟩

/-- What two parts find is found in the program if what each finds is. -/
theorem append (h : FoundIn program called first) (hsecond : FoundIn program called second) :
    FoundIn program called (first ++ second) := by
  constructor
  · intro name hname
    rcases List.mem_append.mp hname with hname | hname
    · exact h.exports name hname
    · exact hsecond.exports name hname
  · intro target htarget
    rcases List.mem_append.mp htarget with htarget | htarget
    · exact h.reexports target htarget
    · exact hsecond.reexports target htarget

/-- The same for any number of parts. -/
theorem join {all : List Findings} (h : ∀ found ∈ all, FoundIn program called found) :
    FoundIn program called (.join all) := by
  induction all with
  | nil => exact nothing
  | cons first rest ih =>
    rw [List.forall_mem_cons] at h
    exact h.1.append (ih h.2)

/-- Keys are found in a program that names each of them. -/
theorem names (h : ∀ key ∈ keys, Names program key) : FoundIn program called (.names keys) :=
  ⟨h, nofun⟩

/-- A module is found in a program that requires it, with a mark only in call mode or if the program
calls it. -/
theorem reexport {marked : Bool} (h : Requires program specifier)
    (hmarked : marked = true → called = true ∨ CallsRequired program specifier) :
    FoundIn program called (.reexport specifier marked) := by
  refine ⟨nofun, fun target htarget => ?_⟩
  exact ⟨specifier, marked, List.mem_singleton.mp htarget, h, hmarked⟩

/-- The known keys of a name and the modules that its value spreads. -/
theorem known {binding : Binding} (h : binding.Sourced program) : FoundIn program called
    (.names binding.keys ++ .join (binding.reexports.map (Findings.reexport · false))) := by
  refine (names h.keys).append (join ?_)
  rw [List.forall_mem_map]
  exact fun specifier hspecifier => reexport (h.reexports specifier hspecifier) nofun

end FoundIn

namespace Context

variable {c : Context} {called : Bool}

mutual

/-- An expression that denotes a required module stands in a program that requires it. -/
theorem requires_of_requiredBy? (hc : c.bindings.Sourced program) :
    ∀ {e : Expr}, HasExpr program e → ∀ specifier, c.requiredBy? e = some specifier →
      Requires program specifier
  | .paren inner, h, specifier, hspecifier =>
    requires_of_requiredBy? hc h.ofParen specifier hspecifier
  | .ident name, _, specifier, hspecifier => by
    obtain ⟨binding, hbinding, hrequired⟩ := Option.bind_eq_some_iff.mp hspecifier
    exact (hc name binding hbinding).required specifier hrequired
  | .call callee args, h, specifier, hspecifier => by
    rw [requiredBy?] at hspecifier
    split at hspecifier
    · rename_i found hfound
      rw [← Option.some.inj hspecifier]
      exact h.requires hfound
    · split at hspecifier
      · exact requires_of_firstRequiredBy? hc args (fun _ hmem => h.arg hmem) specifier hspecifier
      · cases hspecifier

/-- The same for the first of several arguments that denotes a required module. -/
theorem requires_of_firstRequiredBy? (hc : c.bindings.Sourced program) :
    ∀ args : List Expr, (∀ arg ∈ args, HasExpr program arg) →
      ∀ specifier, c.firstRequiredBy? args = some specifier → Requires program specifier
  | first :: _, h, specifier, hspecifier =>
    requires_of_requiredBy? hc (h first List.mem_cons_self) specifier hspecifier

end

/-- What a spread finds is in the program. -/
theorem spread_foundIn (hc : c.bindings.Sourced program) {source : Expr}
    (h : HasExpr program source) : FoundIn program called (c.spread source) := by
  rw [spread]
  split
  · rename_i specifier hspecifier
    exact .reexport (requires_of_requiredBy? hc h specifier hspecifier) nofun
  · split
    · rename_i binding hbinding
      obtain ⟨name, -, hlookup⟩ := Option.bind_eq_some_iff.mp hbinding
      exact .known (hc name binding hlookup)
    · exact .nothing

/-- The keys of a factory are named by the program. -/
theorem names_of_factoryKeys? (hc : c.bindings.Sourced program) {callee : Expr}
    (h : HasExpr program callee) {keys : List String} (hkeys : c.factoryKeys? callee = some keys) :
    ∀ key ∈ keys, Names program key := by
  have hvalue := h.withoutParens
  rw [factoryKeys?] at hkeys
  split at hkeys
  · rename_i code hshape
    rw [hshape] at hvalue
    rw [← Option.some.inj hkeys]
    exact hvalue.names_of_mem_returnedKeys rfl
  · rename_i code hshape
    rw [hshape] at hvalue
    rw [← Option.some.inj hkeys]
    exact hvalue.names_of_mem_returnedKeys rfl
  · rename_i async params value hshape
    rw [hshape] at hvalue
    rw [← Option.some.inj hkeys]
    exact HasExpr.names_of_mem_valueKeys (hvalue.operand List.mem_cons_self)
  · rename_i name hshape
    obtain ⟨binding, hbinding, rfl⟩ := Option.map_eq_some_iff.mp hkeys
    exact (hc name binding hbinding).returns
  · cases hkeys

/-- What a name exports as a value.  `marked` is whether the value is to be called, which it is only
in a scan for a call. -/
theorem named_foundIn (hc : c.bindings.Sourced program) {marked : Bool}
    (hmarked : marked = true → called = true) (name : String) :
    FoundIn program called (c.named marked name) := by
  rw [named]
  split
  · exact .nothing
  · rename_i binding hbinding
    have hsourced : binding.Sourced program := hc name binding hbinding
    split
    · rename_i specifier hrequired
      exact .reexport (hsourced.required specifier hrequired) fun h => Or.inl (hmarked h)
    · split
      · exact .names hsourced.returns
      · exact .known hsourced

mutual

/-- What a value finds is in the program, by recursion over the forms of values, together with the
two lemmas below. -/
theorem value_foundIn (hc : c.bindings.Sourced program) {marked : Bool}
    (hmarked : marked = true → called = true) :
    ∀ e : Expr, HasExpr program e → FoundIn program called (c.value marked e)
  | .paren inner, h => value_foundIn hc hmarked inner h.ofParen
  | .object members, h => by
    rw [value]
    split
    · exact .nothing
    · refine FoundIn.append (.names fun key hkey => .key h hkey) (.join ?_)
      rw [List.forall_mem_map]
      exact fun operand hoperand => spread_foundIn hc (h.spread hoperand)
  | .call callee args, h => by
    have hargs : ∀ arg ∈ args, HasExpr program arg := fun _ hmem => h.arg hmem
    rw [value]
    split
    · rename_i specifier hspecifier
      exact .reexport (h.requires hspecifier) fun hmark => Or.inl (hmarked hmark)
    · rename_i specifier hspecifier
      -- `require('m')(…)`, which is a call whatever the scan is for
      exact .reexport (h.callee.requires hspecifier) fun _ => Or.inr ⟨callee, args, h, hspecifier⟩
    · have hmerged : false = true → called = true := nofun
      split
      · exact values_foundIn hc hmerged args hargs
      split
      · exact firstValue_foundIn hc hmarked args hargs
      split
      · exact .nothing
      · refine .names fun key hkey => ?_
        cases hkeys : c.factoryKeys? callee with
        | none => simp [hkeys] at hkey
        | some keys =>
          exact names_of_factoryKeys? hc h.callee hkeys key (by simpa [hkeys] using hkey)
  | .ident name, _ => named_foundIn hc hmarked name
  | .function code, h => by
    rw [value]
    split
    · exact .names (h.names_of_mem_returnedKeys rfl)
    · exact .nothing
  | .arrow code, h => by
    rw [value]
    split
    · exact .names (h.names_of_mem_returnedKeys rfl)
    · exact .nothing
  | .arrowValue _ _ result, h => by
    rw [value]
    split
    · exact .names (HasExpr.names_of_mem_valueKeys (h.operand List.mem_cons_self))
    · exact .nothing
  | .conditional test yes no, h => by
    have hyes : HasExpr program yes := h.operand (by simp [Expr.operands])
    have hno : HasExpr program no := h.operand (by simp [Expr.operands])
    rw [value]
    split
    · exact value_foundIn hc hmarked yes hyes
    · exact value_foundIn hc hmarked no hno
    · exact (value_foundIn hc hmarked yes hyes).append (value_foundIn hc hmarked no hno)
  | .assign _ _ right, h => value_foundIn hc hmarked right h.assigned
  | .literal _, _ | .unary _ _, _ | .binary _ _ _, _ | .logical _ _ _, _ | .sequence _, _
  | .member _ _, _ | .index _ _, _ | .spread _, _ | .chain _, _ | .other _ _, _ => .nothing

/-- The same for the values of several arguments. -/
theorem values_foundIn (hc : c.bindings.Sourced program) {marked : Bool}
    (hmarked : marked = true → called = true) : ∀ args : List Expr,
    (∀ arg ∈ args, HasExpr program arg) → FoundIn program called (c.values marked args)
  | [], _ => .nothing
  | first :: rest, h => by
    rw [List.forall_mem_cons] at h
    exact (value_foundIn hc hmarked first h.1).append (values_foundIn hc hmarked rest h.2)

/-- The same for the first of several arguments. -/
theorem firstValue_foundIn (hc : c.bindings.Sourced program) {marked : Bool}
    (hmarked : marked = true → called = true) : ∀ args : List Expr,
    (∀ arg ∈ args, HasExpr program arg) → FoundIn program called (c.firstValue marked args)
  | [], _ => .nothing
  | first :: _, h => value_foundIn hc hmarked first (h first List.mem_cons_self)

end

/-- What an assignment finds is in the program. -/
theorem assign_foundIn (hc : c.bindings.Sourced program) {op : AssignOp} {target right : Expr}
    (h : HasExpr program (.assign op target right)) :
    FoundIn program c.called (c.assign target right) := by
  rw [assign]
  split
  · exact value_foundIn hc id right h.assigned
  · split
    · rename_i object key htarget
      split
      · refine .names fun name hname => ?_
        rw [List.mem_singleton.mp hname]
        exact .target h htarget
      · exact .nothing
    · exact .nothing

/-- What a chain of assignments finds is in the program. -/
theorem chain_foundIn (hc : c.bindings.Sourced program) :
    ∀ e : Expr, HasExpr program e → FoundIn program c.called (c.chain e)
  | .paren inner, h => chain_foundIn hc inner h.ofParen
  | .assign _ _ right, h => (assign_foundIn hc h).append (chain_foundIn hc right h.assigned)
  | .ident _, _ | .literal _, _ | .object _, _ | .function _, _ | .arrow _, _
  | .arrowValue _ _ _, _ | .unary _ _, _ | .binary _ _ _, _ | .logical _ _ _, _
  | .conditional _ _ _, _ | .sequence _, _ | .member _ _, _ | .index _ _, _ | .call _ _, _
  | .spread _, _ | .chain _, _ | .other _ _, _ => .nothing

/-- What a call of an interop helper finds is in the program. -/
theorem helperCall_foundIn (hc : c.bindings.Sourced program) {args : List Expr}
    (h : ∀ arg ∈ args, HasExpr program arg) : FoundIn program called (c.helperCall args) := by
  refine FoundIn.append (.join ?_) ?_
  · rw [List.forall_mem_map]
    intro value hvalue
    obtain ⟨arg, harg, hshape⟩ := List.mem_filterMap.mp hvalue
    rw [← Expr.eq_of_asValue? hshape]
    split
    · rename_i specifier hspecifier
      exact .reexport (requires_of_requiredBy? hc (h arg harg) specifier hspecifier) nofun
    · exact .nothing
  · split
    · rename_i target members _ hsecond
      split
      · exact .names fun key hkey => .key (h _ (mem_of_secondValue? hsecond)) hkey
      · exact .nothing
    · exact .nothing

/-- What a call finds is in the program. -/
theorem call_foundIn (hc : c.bindings.Sourced program) {callee : Expr} {args : List Expr}
    (h : HasExpr program (.call callee args)) : FoundIn program c.called (c.call callee args) := by
  have hargs : ∀ arg ∈ args, HasExpr program arg := fun _ hmem => h.arg hmem
  rw [call]
  split
  · rename_i hdefine
    split
    · rename_i target key _ hsecond
      split
      · refine .names fun name hname => ?_
        rw [List.mem_singleton.mp hname]
        exact .defined h hdefine hsecond
      · exact .nothing
    · exact .nothing
  split
  · split
    · have hmerged : false = true → c.called = true := nofun
      exact values_foundIn hc hmerged _ fun arg harg => hargs arg (List.mem_of_mem_drop harg)
    · exact .nothing
  split
  · exact helperCall_foundIn hc hargs
  split
  · rename_i source hsource
    exact spread_foundIn hc (iteratedKeys?_stands h.callee hsource)
  · exact .nothing

/-- What an expression finds that is evaluated for its effect is in the program. -/
theorem effect_foundIn (hc : c.bindings.Sourced program) {e : Expr} (h : HasExpr program e) :
    FoundIn program c.called (c.effect e) := by
  cases e with
  | assign op target right => exact (assign_foundIn hc h).append (chain_foundIn hc right h.assigned)
  | call callee args => exact call_foundIn hc h
  | _ => exact .nothing

/-- What a whole program finds is in it. -/
theorem stmts_foundIn (hc : c.bindings.Sourced program) :
    FoundIn program c.called (c.stmts program) := by
  rw [stmts_eq_effects, effects]
  refine .join ?_
  rw [List.forall_mem_map]
  intro e he
  exact effect_foundIn hc (stmtsReached_stands program (fun _ hs => .top hs) e he)

end Context

/-- Nothing that a scan reports is invented.  Every name stands in the program as a key of an object
literal, as the target of an assignment to a property or as what `Object.defineProperty` defines.
Every re-export target is a module that the program requires, and in a scan that is not for a call
it carries the marker of a call only if the program calls what it requires. -/
theorem Program.findings_written (program : Program) (mode : Mode) (called : Bool) :
    (∀ name ∈ (program.findings mode called).exports, Names program name) ∧
      ∀ target ∈ (program.findings mode called).reexports, ∃ specifier marked,
        target = (Reexport.mk specifier marked).encode ∧ Requires program specifier ∧
          (called = false → marked = true → CallsRequired program specifier) := by
  have hfound : FoundIn program called (program.findings mode called) :=
    Context.stmts_foundIn (c := ⟨mode, called, Bindings.ofProgram mode program⟩)
      (.ofProgram mode program)
  refine ⟨hfound.exports, fun target htarget => ?_⟩
  obtain ⟨specifier, marked, hencode, hrequires, hmarked⟩ := hfound.reexports target htarget
  refine ⟨specifier, marked, hencode, hrequires, fun hcalled hmark => ?_⟩
  exact (hmarked hmark).resolve_left (by simp [hcalled])

end NamedExports.Script
