import NamedExports.Proofs.Scan.Reached

/-!
# What a scan looks up

The second look at a program asks what names hold.  `Program.lookups` lists the names it asks for:
those that values given to `module.exports`, copied onto the exports or passed to a helper are made
of.  Two scans for the same purpose find the same if they can tell the same of these names, whatever
else they know: `stmts_congr`.
-/

namespace NamedExports.Script

/-! ## The names that are looked up -/

mutual

/-- The name looked up to tell the module that an expression requires. -/
def Expr.requiredNames : Expr → List String
  | .paren inner => inner.requiredNames
  | .ident name => [name]
  | .call _ args => firstRequiredNames args
  | _ => []

/-- The name looked up for the first of some arguments. -/
def firstRequiredNames : List Expr → List String
  | [] => []
  | first :: _ => first.requiredNames

end

/-- The names looked up for a value whose properties are copied. -/
def Expr.spreadNames (source : Expr) : List String :=
  source.requiredNames ++ source.identName?.toList

mutual

/-- The names looked up for a value that is given to `module.exports`. -/
def Expr.valueNames : Expr → List String
  | .paren inner => inner.valueNames
  | .object members => (spreadOperands members).flatMap Expr.spreadNames
  | .call callee args => callee.identName?.toList ++ valuesNames args
  | .ident name => [name]
  | .conditional _ yes no => yes.valueNames ++ no.valueNames
  | .assign _ _ right => right.valueNames
  | _ => []

/-- The names looked up for several values. -/
def valuesNames : List Expr → List String
  | [] => []
  | first :: rest => first.valueNames ++ valuesNames rest

end

/-- The names looked up for one assignment: none, unless it is made to `module.exports`. -/
def assignNames (target right : Expr) : List String :=
  if target.isModuleExportsTarget then right.valueNames else []

/-- The names looked up for a chain of assignments. -/
def Expr.chainNames : Expr → List String
  | .paren inner => inner.chainNames
  | .assign _ target right => assignNames target right ++ right.chainNames
  | _ => []

/-- The names looked up for a call. -/
def callNames (callee : Expr) (args : List Expr) : List String :=
  if callee.isMemberOf "Object" "defineProperty" then []
  else if callee.isMemberOf "Object" "assign" then valuesNames (args.drop 1)
  else if callee.calleeName?.any reexportHelpers.contains then
    (argumentValues args).flatMap Expr.requiredNames
  else
    match Context.iteratedKeys? callee with
    | some source => source.spreadNames
    | none => []

/-- The names looked up for an assignment or a call that a scan comes to. -/
def Expr.effectNames : Expr → List String
  | .assign _ target right => assignNames target right ++ right.chainNames
  | .call callee args => callNames callee args
  | _ => []

/-- The names that a scan of a program asks for. -/
def Program.lookups (program : Program) (mode : Mode) : List String :=
  (Context.stmtsReached ⟨mode, false, .empty⟩ program).flatMap Expr.effectNames

/-! ## What shows of a name -/

namespace Binding

/-- What a scan can tell of what a name holds.  A required module is copied as a whole, so keys that
are put on its name never show. -/
def shown (binding : Binding) : Binding :=
  if binding.required.isSome then { binding with keys := [], reexports := [] } else binding

variable {binding other : Binding}

/-- The required module shows. -/
@[simp] theorem required_shown (binding : Binding) : binding.shown.required = binding.required := by
  unfold shown
  split <;> rfl

/-- What a function returns shows. -/
@[simp] theorem returns_shown (binding : Binding) : binding.shown.returns = binding.returns := by
  unfold shown
  split <;> rfl

/-- Of a name that holds no required module everything shows. -/
theorem shown_of_required_eq_none (h : binding.required = none) : binding.shown = binding := by
  rw [shown, h]
  rfl

/-- Names of which the same shows hold the same, unless that is a required module. -/
theorem eq_of_shown_eq (h : binding.shown = other.shown) (hnone : binding.required = none) :
    binding = other := by
  have hother : other.required = none := by rw [← required_shown, ← h, required_shown, hnone]
  rwa [shown_of_required_eq_none hnone, shown_of_required_eq_none hother] at h

/-- Added keys do not show exactly if there are none, or the name holds a required module. -/
theorem shown_addKeys_iff {keys : List String} :
    ({ binding with keys := binding.keys ++ keys } : Binding).shown = binding.shown ↔
      binding.required = none → keys = [] := by
  obtain ⟨found, reexports, required, returns⟩ := binding
  cases required <;> simp [shown]

end Binding

/-- What a scan can tell of a name. -/
def Bindings.shown (b : Bindings) (name : String) : Option Binding :=
  (b.get? name).map Binding.shown

namespace Context

/-- Two scans have the same purpose and can tell the same of some names. -/
structure AgreesOn (names : List String) (c d : Context) : Prop where
  mode : c.mode = d.mode
  called : c.called = d.called
  shown : ∀ name ∈ names, c.bindings.shown name = d.bindings.shown name

variable {c d : Context} {names more : List String}

theorem AgreesOn.mono (h : AgreesOn more c d) (hsub : names ⊆ more) : AgreesOn names c d where
  mode := h.mode
  called := h.called
  shown name hmem := h.shown name (hsub hmem)

theorem AgreesOn.left (h : AgreesOn (names ++ more) c d) : AgreesOn names c d :=
  h.mono (List.subset_append_left _ _)

theorem AgreesOn.right (h : AgreesOn (names ++ more) c d) : AgreesOn more c d :=
  h.mono (List.subset_append_right _ _)

/-- They can tell the same of the names of each of some expressions. -/
theorem AgreesOn.of_mem {all : List Expr} {f : Expr → List String} {e : Expr}
    (h : AgreesOn (all.flatMap f) c d) (he : e ∈ all) : AgreesOn (f e) c d :=
  h.mono fun _ hname => List.mem_flatMap.mpr ⟨e, he, hname⟩

/-- They can tell the same of the name that an expression is. -/
theorem AgreesOn.shown_ident {e : Expr} {name : String} (h : AgreesOn e.identName?.toList c d)
    (hname : e.identName? = some name) : c.bindings.shown name = d.bindings.shown name :=
  h.shown name (by rw [hname]; exact List.mem_cons_self)

section Shown

variable {name : String}

/-- What depends on what shows of a binding alone is the same for names of which the same shows. -/
theorem lookup_map_congr {β : Type} {f : Binding → β} (hf : ∀ binding, f binding.shown = f binding)
    (h : c.bindings.shown name = d.bindings.shown name) :
    (c.lookup name).map f = (d.lookup name).map f := by
  rw [← (funext hf : f ∘ Binding.shown = f), ← Option.map_map, ← Option.map_map]
  exact congrArg (Option.map f) h

/-- Names of which the same shows require the same module. -/
theorem required_congr (h : c.bindings.shown name = d.bindings.shown name) :
    (c.lookup name).bind Binding.required = (d.lookup name).bind Binding.required := by
  have hshown : Binding.required ∘ Binding.shown = Binding.required :=
    funext Binding.required_shown
  rw [← hshown, ← Option.bind_map, ← Option.bind_map]
  exact congrArg (Option.bind · Binding.required) h

/-- Names of which the same shows export the same. -/
theorem named_congr (h : c.bindings.shown name = d.bindings.shown name) (called : Bool) :
    c.named called name = d.named called name := by
  have hmap : (c.lookup name).map Binding.shown = (d.lookup name).map Binding.shown := h
  rw [named, named]
  cases hc : c.lookup name with
  | none =>
    rw [hc] at hmap
    rw [Option.map_eq_none_iff.mp hmap.symm]
  | some binding =>
    rw [hc] at hmap
    obtain ⟨other, hd, hother⟩ := Option.map_eq_some_iff.mp hmap.symm
    simp only [hd]
    cases hrequired : binding.required with
    | none => rw [← Binding.eq_of_shown_eq hother.symm hrequired, hrequired]
    | some specifier => rw [← other.required_shown, hother, binding.required_shown, hrequired]

end Shown

/-! ## Values -/

-- of a name the module that it requires is all that matters here
mutual

/-- Whatever module an expression requires depends on the modules that the names in it hold. -/
theorem requiredBy?_congr_required : ∀ e : Expr,
    (∀ name ∈ e.requiredNames,
      (c.lookup name).bind Binding.required = (d.lookup name).bind Binding.required) →
    c.requiredBy? e = d.requiredBy? e
  | .paren inner, h => requiredBy?_congr_required inner h
  | .ident name, h => h name List.mem_cons_self
  | .call callee args, h => by
    rw [requiredBy?, requiredBy?, firstRequiredBy?_congr_required args h]
  | .literal _, _ | .object _, _ | .function _, _ | .arrow _, _ | .arrowValue _ _ _, _
  | .unary _ _, _ | .binary _ _ _, _ | .logical _ _ _, _ | .conditional _ _ _, _ | .assign _ _ _, _
  | .sequence _, _ | .member _ _, _ | .index _ _, _ | .spread _, _ | .chain _, _
  | .other _ _, _ => rfl

theorem firstRequiredBy?_congr_required : ∀ args : List Expr,
    (∀ name ∈ firstRequiredNames args,
      (c.lookup name).bind Binding.required = (d.lookup name).bind Binding.required) →
    c.firstRequiredBy? args = d.firstRequiredBy? args
  | [], _ => rfl
  | first :: _, h => requiredBy?_congr_required first h

end

/-- Scans that can tell the same of the names in an expression find it to require the same
module. -/
theorem requiredBy?_congr {e : Expr} (h : AgreesOn e.requiredNames c d) :
    c.requiredBy? e = d.requiredBy? e :=
  requiredBy?_congr_required e fun name hname => required_congr (h.shown name hname)

/-! A value is what stands in its parentheses. -/

/-- Parentheses make no difference to the module that an expression requires. -/
theorem requiredBy?_withoutParens (e : Expr) : c.requiredBy? e.withoutParens = c.requiredBy? e := by
  fun_induction Expr.withoutParens e with
  | case1 inner ih => rw [ih, requiredBy?]
  | case2 e => rfl

/-- Parentheses make no difference to what a value exports. -/
theorem value_withoutParens (called : Bool) (e : Expr) :
    c.value called e.withoutParens = c.value called e := by
  fun_induction Expr.withoutParens e with
  | case1 inner ih => rw [ih, value]
  | case2 e => rfl

/-! A call of `require` is seen through without a look at any name. -/

/-- A call of `require` requires its module, whatever names hold. -/
theorem requiredBy?_of_requiredSpecifier? {e : Expr} {specifier : String}
    (h : e.requiredSpecifier? = some specifier) : c.requiredBy? e = some specifier := by
  obtain ⟨callee, hshape, hcallee⟩ := Expr.requiredSpecifier?_eq_some_iff.mp h
  have hcall : (Expr.call callee [.literal (.string specifier)]).requiredSpecifier? =
      some specifier := Expr.requiredSpecifier?_eq_some_iff.mpr ⟨callee, rfl, hcallee⟩
  rw [← requiredBy?_withoutParens, hshape, requiredBy?, hcall]

/-- As a value such a call exports the module. -/
theorem value_of_requiredSpecifier? {e : Expr} {specifier : String}
    (h : e.requiredSpecifier? = some specifier) (called : Bool) :
    c.value called e = .reexport specifier called := by
  obtain ⟨callee, hshape, hcallee⟩ := Expr.requiredSpecifier?_eq_some_iff.mp h
  have hcall : (Expr.call callee [.literal (.string specifier)]).requiredSpecifier? =
      some specifier := Expr.requiredSpecifier?_eq_some_iff.mpr ⟨callee, rfl, hcallee⟩
  rw [← value_withoutParens, hshape, value, hcall]

/-- Copied from, such a call re-exports the module. -/
theorem spread_of_requiredSpecifier? {e : Expr} {specifier : String}
    (h : e.requiredSpecifier? = some specifier) : c.spread e = .reexport specifier false := by
  rw [spread, requiredBy?_of_requiredSpecifier? h]

/-- A name requires the module that it holds. -/
theorem requiredBy?_of_identName? {e : Expr} {name : String} (h : e.identName? = some name) :
    c.requiredBy? e = (c.lookup name).bind Binding.required := by
  rw [← requiredBy?_withoutParens, Expr.withoutParens_of_identName? h, requiredBy?]

/-- The properties of a name are copied as if the name were given away. -/
theorem spread_of_identName? {e : Expr} {name : String} (h : e.identName? = some name) :
    c.spread e = c.named false name := by
  rw [spread, named, requiredBy?_of_identName? h, h]
  cases hlookup : c.lookup name with
  | none => simp [hlookup]
  | some binding =>
    simp only [Option.bind_some, hlookup]
    cases binding.required <;> rfl

/-- Of any other value nothing is copied, unless it requires a module. -/
theorem spread_of_no_name {e : Expr} (h : e.identName? = none) :
    c.spread e = ((c.requiredBy? e).map (Findings.reexport · false)).getD ∅ := by
  rw [spread, h]
  cases c.requiredBy? e <;> rfl

/-- Scans that can tell the same of the names in a source copy the same from it. -/
theorem spread_congr {source : Expr} (h : AgreesOn source.spreadNames c d) :
    c.spread source = d.spread source := by
  cases hname : source.identName? with
  | none => rw [spread_of_no_name hname, spread_of_no_name hname, requiredBy?_congr h.left]
  | some name =>
    rw [spread_of_identName? hname, spread_of_identName? hname,
      named_congr (h.right.shown_ident hname)]

/-- They find the same keys in what a factory makes. -/
theorem factoryKeys?_congr {callee : Expr} (h : AgreesOn callee.identName?.toList c d) :
    c.factoryKeys? callee = d.factoryKeys? callee := by
  unfold factoryKeys?
  split
  -- a function is looked into where it stands, so only a name is looked up
  case h_4 name hshape =>
    exact lookup_map_congr Binding.returns_shown (h.shown_ident (by rw [Expr.identName?, hshape]))
  all_goals rfl

mutual

/-- They find that a value exports the same. -/
theorem value_congr : ∀ (called : Bool) (e : Expr), AgreesOn e.valueNames c d →
    c.value called e = d.value called e
  | called, .paren inner, h => value_congr called inner h
  | called, .object members, h => by
    have hspreads : (spreadOperands members).map c.spread = (spreadOperands members).map d.spread :=
      List.map_congr_left fun operand hmem => spread_congr (h.of_mem hmem)
    rw [value, value, hspreads]
  | called, .call callee args, h => by
    rw [value, value, values_congr false args h.right, firstValue_congr called args h.right,
      factoryKeys?_congr h.left]
  | called, .ident name, h => named_congr (h.shown name List.mem_cons_self) called
  | called, .conditional test yes no, h => by
    rw [value, value, h.mode, value_congr called yes h.left, value_congr called no h.right]
  | called, .assign op target right, h => value_congr called right h
  | _, .literal _, _ | _, .function _, _ | _, .arrow _, _ | _, .arrowValue _ _ _, _
  | _, .unary _ _, _ | _, .binary _ _ _, _ | _, .logical _ _ _, _ | _, .sequence _, _
  | _, .member _ _, _ | _, .index _ _, _ | _, .spread _, _ | _, .chain _, _
  | _, .other _ _, _ => rfl

theorem values_congr : ∀ (called : Bool) (args : List Expr), AgreesOn (valuesNames args) c d →
    c.values called args = d.values called args
  | _, [], _ => rfl
  | called, first :: rest, h => by
    rw [values, values, value_congr called first h.left, values_congr called rest h.right]

theorem firstValue_congr : ∀ (called : Bool) (args : List Expr), AgreesOn (valuesNames args) c d →
    c.firstValue called args = d.firstValue called args
  | _, [], _ => rfl
  | called, first :: _, h => value_congr called first h.left

end

/-! ## Assignments and calls -/

/-- They find the same for an assignment. -/
theorem assign_congr {target right : Expr} (h : AgreesOn (assignNames target right) c d) :
    c.assign target right = d.assign target right := by
  rw [assign, assign, h.called]
  rw [assignNames] at h
  split at h
  · rename_i htarget
    rw [if_pos htarget, if_pos htarget, value_congr d.called right h]
  · rename_i htarget
    rw [if_neg htarget, if_neg htarget]

/-- They find the same for a chain of assignments. -/
theorem chain_congr : ∀ e : Expr, AgreesOn e.chainNames c d → c.chain e = d.chain e
  | .paren inner, h => chain_congr inner h
  | .assign op target right, h => by
    rw [chain, chain, assign_congr h.left, chain_congr right h.right]
  | .ident _, _ | .literal _, _ | .object _, _ | .function _, _ | .arrow _, _ | .arrowValue _ _ _, _
  | .unary _ _, _ | .binary _ _ _, _ | .logical _ _ _, _ | .conditional _ _ _, _ | .sequence _, _
  | .member _ _, _ | .index _ _, _ | .call _ _, _ | .spread _, _ | .chain _, _
  | .other _ _, _ => rfl

/-- They find the same for a call of a helper that re-exports. -/
theorem helperCall_congr {args : List Expr}
    (h : AgreesOn ((argumentValues args).flatMap Expr.requiredNames) c d) :
    c.helperCall args = d.helperCall args := by
  unfold helperCall
  congr 2
  refine List.map_congr_left fun value hmem => ?_
  rw [requiredBy?_congr (h.of_mem hmem)]

/-- They find the same for a call. -/
theorem call_congr {callee : Expr} {args : List Expr} (h : AgreesOn (callNames callee args) c d) :
    c.call callee args = d.call callee args := by
  rw [call, call, h.called]
  rw [callNames] at h
  -- the names follow the same tests as the call, from the most special form to the most general
  split at h
  · rename_i hdefine
    rw [if_pos hdefine, if_pos hdefine]
  · rename_i hdefine
    rw [if_neg hdefine, if_neg hdefine]
    split at h
    · rename_i hassign
      rw [if_pos hassign, if_pos hassign, values_congr false _ h]
    · rename_i hassign
      rw [if_neg hassign, if_neg hassign]
      split at h
      · rename_i hhelper
        rw [if_pos hhelper, if_pos hhelper, helperCall_congr h]
      · rename_i hhelper
        rw [if_neg hhelper, if_neg hhelper]
        cases hsource : iteratedKeys? callee with
        | none => rfl
        | some source =>
          rw [hsource] at h
          exact spread_congr h

/-- They find the same for whatever they come to. -/
theorem effect_congr {e : Expr} (h : AgreesOn e.effectNames c d) : c.effect e = d.effect e := by
  cases e with
  | assign op target right =>
    rw [effect, effect, assign_congr h.left, chain_congr right h.right]
  | call callee args => exact call_congr h
  | _ => rfl

/-- Two scans for the same purpose that can tell the same of the names that are looked up find the
same. -/
theorem stmts_congr {statements : List Stmt}
    (h : AgreesOn (Program.lookups statements c.mode) c d) :
    c.stmts statements = d.stmts statements := by
  have hreached : (⟨c.mode, false, .empty⟩ : Context).stmtsReached statements =
      c.stmtsReached statements := stmtsReached_congr (by rfl) statements
  rw [Program.lookups, hreached] at h
  rw [stmts_eq_effects, stmts_eq_effects, ← stmtsReached_congr h.mode]
  exact congrArg Findings.join (List.map_congr_left fun e he => effect_congr (h.of_mem he))

end Context

/-! ## The names that are looked up stand in the program -/

section Standing

variable {program : Program} {name : String}

/-- An expression that is a name stands in the program as that name. -/
theorem HasExpr.ident_of_identName? {e : Expr} (h : HasExpr program e)
    (hname : e.identName? = some name) : HasExpr program (.ident name) := by
  rw [← Expr.withoutParens_of_identName? hname]
  exact h.withoutParens

mutual

/-- A name that is looked up for a required module stands in the program. -/
theorem HasExpr.ident_of_requiredNames : ∀ {e : Expr}, HasExpr program e →
    name ∈ e.requiredNames → HasExpr program (.ident name)
  | .paren _, h, hname => h.ofParen.ident_of_requiredNames hname
  | .ident _, h, hname => by
    rw [List.mem_singleton.mp hname]
    exact h
  | .call _ _, h, hname => ident_of_firstRequiredNames (fun _ he => h.arg he) hname

theorem ident_of_firstRequiredNames : ∀ {args : List Expr}, (∀ e ∈ args, HasExpr program e) →
    name ∈ firstRequiredNames args → HasExpr program (.ident name)
  | _ :: _, h, hname => HasExpr.ident_of_requiredNames (h _ List.mem_cons_self) hname

end

/-- A name that is looked up for a source stands in the program. -/
theorem HasExpr.ident_of_spreadNames {source : Expr} (h : HasExpr program source)
    (hname : name ∈ source.spreadNames) : HasExpr program (.ident name) := by
  rcases List.mem_append.mp hname with hname | hname
  · exact h.ident_of_requiredNames hname
  · exact h.ident_of_identName? (Option.mem_toList.mp hname)

mutual

/-- A name that is looked up for a value stands in the program. -/
theorem HasExpr.ident_of_valueNames : ∀ {e : Expr}, HasExpr program e → name ∈ e.valueNames →
    HasExpr program (.ident name)
  | .paren _, h, hname => h.ofParen.ident_of_valueNames hname
  | .object _, h, hname => by
    obtain ⟨operand, hoperand, hname⟩ := List.mem_flatMap.mp hname
    exact (h.spread hoperand).ident_of_spreadNames hname
  | .call _ _, h, hname => by
    rcases List.mem_append.mp hname with hname | hname
    · exact h.callee.ident_of_identName? (Option.mem_toList.mp hname)
    · exact ident_of_valuesNames (fun _ he => h.arg he) hname
  | .ident _, h, hname => by
    rw [List.mem_singleton.mp hname]
    exact h
  | .conditional test yes no, h, hname => by
    have hyes : HasExpr program yes := h.operand (by simp [Expr.operands])
    have hno : HasExpr program no := h.operand (by simp [Expr.operands])
    rcases List.mem_append.mp hname with hname | hname
    · exact hyes.ident_of_valueNames hname
    · exact hno.ident_of_valueNames hname
  | .assign _ _ _, h, hname => h.assigned.ident_of_valueNames hname

theorem ident_of_valuesNames : ∀ {args : List Expr}, (∀ e ∈ args, HasExpr program e) →
    name ∈ valuesNames args → HasExpr program (.ident name)
  | _ :: _, h, hname => by
    rcases List.mem_append.mp hname with hname | hname
    · exact HasExpr.ident_of_valueNames (h _ List.mem_cons_self) hname
    · exact ident_of_valuesNames (fun e he => h e (List.mem_cons_of_mem _ he)) hname

end

/-- A name that is looked up for an assignment stands in the program. -/
theorem ident_of_assignNames {target right : Expr} (h : HasExpr program right)
    (hname : name ∈ assignNames target right) : HasExpr program (.ident name) := by
  rw [assignNames] at hname
  split at hname
  · exact h.ident_of_valueNames hname
  · cases hname

/-- A name that is looked up for a chain of assignments stands in the program. -/
theorem HasExpr.ident_of_chainNames : ∀ {e : Expr}, HasExpr program e → name ∈ e.chainNames →
    HasExpr program (.ident name)
  | .paren _, h, hname => h.ofParen.ident_of_chainNames hname
  | .assign _ _ _, h, hname => by
    rcases List.mem_append.mp hname with hname | hname
    · exact ident_of_assignNames h.assigned hname
    · exact h.assigned.ident_of_chainNames hname
termination_by structural e => e

/-- A name that is looked up for a call stands in the program. -/
theorem HasExpr.ident_of_callNames {callee : Expr} {args : List Expr}
    (h : HasExpr program (.call callee args)) (hname : name ∈ callNames callee args) :
    HasExpr program (.ident name) := by
  rw [callNames] at hname
  split at hname
  · cases hname
  split at hname
  · exact ident_of_valuesNames (fun _ he => h.arg (List.mem_of_mem_drop he)) hname
  split at hname
  · obtain ⟨value, hvalue, hname⟩ := List.mem_flatMap.mp hname
    obtain ⟨arg, harg, hvalue⟩ := List.mem_filterMap.mp hvalue
    rw [← Expr.eq_of_asValue? hvalue] at hname
    exact (h.arg harg).ident_of_requiredNames hname
  split at hname
  · rename_i source hsource
    exact (Context.iteratedKeys?_stands h.callee hsource).ident_of_spreadNames hname
  · cases hname

/-- A name that is looked up for an effect stands in the program. -/
theorem HasExpr.ident_of_effectNames {e : Expr} (h : HasExpr program e)
    (hname : name ∈ e.effectNames) : HasExpr program (.ident name) := by
  cases e with
  | assign op target right =>
    rcases List.mem_append.mp hname with hname | hname
    · exact ident_of_assignNames h.assigned hname
    · exact h.assigned.ident_of_chainNames hname
  | call callee args => exact h.ident_of_callNames hname
  | _ => cases hname

/-- A name that a scan asks for stands in the program. -/
theorem Program.ident_of_mem_lookups {mode : Mode} (h : name ∈ Program.lookups program mode) :
    .ident name ∈ stmtsNodes program := by
  obtain ⟨e, he, hname⟩ := List.mem_flatMap.mp h
  have hstands : HasExpr program e :=
    Context.stmtsReached_stands program (fun _ hs => .top hs) e he
  exact (hstands.ident_of_effectNames hname).nodes_subset List.mem_cons_self

end Standing

end NamedExports.Script
