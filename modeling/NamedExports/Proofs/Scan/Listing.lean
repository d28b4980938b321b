import NamedExports.Proofs.Scan.Lookups

/-!
# Names whose keys are listed

Of some of the names that a scan looks up it lists the keys: of a name that is given to
`module.exports`, that is copied onto the exports or that is merged into them.  `Program.listed`
lists these names, one for each time that a scan comes to one.  When more keys of one name are known
to one scan than to another, the second lacks these keys once for each of these times:
`stmts_lacks`.
-/

namespace NamedExports

namespace Findings

/-! ## Findings that lack keys -/

/-- Some findings are others without some keys, which they lack a number of times.  Modules are not
lacking. -/
structure Lacks (keys : List String) (times : Nat) (few more : Findings) : Prop where
  reexports : few.reexports = more.reexports
  sublist : few.exports.Sublist more.exports
  length : more.exports.length = few.exports.length + times * keys.length
  lost : ∀ key ∈ more.exports, key ∈ few.exports ∨ key ∈ keys

namespace Lacks

variable {keys : List String} {times again : Nat} {few more last lastMore : Findings}

/-- Findings lack nothing of themselves. -/
theorem refl (found : Findings) : Lacks keys 0 found found where
  reexports := rfl
  sublist := List.Sublist.refl _
  length := by rw [Nat.zero_mul, Nat.add_zero]
  lost _ hkey := Or.inl hkey

/-- What two pieces lack, they lack together. -/
theorem append (h : Lacks keys times few more) (hlast : Lacks keys again last lastMore) :
    Lacks keys (times + again) (few ++ last) (more ++ lastMore) where
  reexports := by rw [reexports_append, reexports_append, h.reexports, hlast.reexports]
  sublist := h.sublist.append hlast.sublist
  length := by
    rw [exports_append, exports_append, List.length_append, List.length_append, h.length,
      hlast.length, Nat.add_mul]
    omega
  lost key hkey := by
    rw [exports_append, List.mem_append] at hkey ⊢
    rcases hkey with hkey | hkey
    · exact (h.lost key hkey).imp_left Or.inl
    · exact (hlast.lost key hkey).imp_left Or.inr

/-- The keys stand in front of those that are known anyway. -/
theorem names (known : List String) : Lacks keys 1 (.names known) (.names (keys ++ known)) where
  reexports := rfl
  sublist := List.sublist_append_right keys known
  length := by
    rw [exports_names, exports_names, List.length_append]
    omega
  lost _ hkey := (List.mem_append.mp hkey).symm

/-- Parts that lack keys make a whole that does. -/
theorem joinMap {α : Type} {count : α → List String} {name : String} {f g : α → Findings} :
    ∀ (items : List α), (∀ e ∈ items, Lacks keys ((count e).count name) (f e) (g e)) →
      Lacks keys ((items.flatMap count).count name) (.join (items.map f)) (.join (items.map g))
  | [], _ => refl ∅
  | first :: rest, h => by
    rw [List.flatMap_cons, List.count_append]
    exact (h first List.mem_cons_self).append
      (joinMap rest fun e he => h e (List.mem_cons_of_mem first he))

/-- Nothing is lacking exactly if no keys are, or they are lacking at no time. -/
theorem eq_iff (h : Lacks keys times few more) : few = more ↔ keys = [] ∨ times = 0 := by
  have hlength := h.length
  constructor
  · rintro rfl
    have hnone : times * keys.length = 0 := by omega
    rw [Nat.mul_eq_zero, List.length_eq_zero_iff] at hnone
    exact hnone.symm
  · intro hnone
    have hmul : times * keys.length = 0 := by
      rcases hnone with rfl | rfl
      · rfl
      · exact Nat.zero_mul _
    exact Findings.ext (h.sublist.eq_of_length (by omega)) h.reexports

end Lacks

end Findings

namespace Script

/-! ## The names that are listed -/

/-- The name whose keys are listed for a value whose properties are copied. -/
def Expr.spreadListed (source : Expr) : List String := source.identName?.toList

mutual

/-- The names whose keys are listed for a value that is given to `module.exports`. -/
def Expr.valueListed (mode : Mode) (called : Bool) : Expr → List String
  | .paren inner => inner.valueListed mode called
  | .object members =>
    if called then [] else (spreadOperands members).flatMap Expr.spreadListed
  | .call callee args =>
    match (Expr.call callee args).requiredSpecifier?, callee.requiredSpecifier? with
    | none, none =>
      if callee.isMemberOf "Object" "assign" then valuesListed mode false args
      else if callee.calleeName? == some "__toCommonJS" || isInteropCall callee args then
        firstListed mode called args
      else []
    | _, _ => []
  | .ident name => if called then [] else [name]
  | .conditional test yes no =>
    match test.holdsIn? mode with
    | some true => yes.valueListed mode called
    | some false => no.valueListed mode called
    | none => yes.valueListed mode called ++ no.valueListed mode called
  | .assign _ _ right => right.valueListed mode called
  | _ => []

/-- The names whose keys are listed for several values. -/
def valuesListed (mode : Mode) (called : Bool) : List Expr → List String
  | [] => []
  | first :: rest => first.valueListed mode called ++ valuesListed mode called rest

/-- The names whose keys are listed for the first of some arguments. -/
def firstListed (mode : Mode) (called : Bool) : List Expr → List String
  | [] => []
  | first :: _ => first.valueListed mode called

end

/-- The names whose keys are listed for one assignment: none, unless it is made to
`module.exports`. -/
def assignListed (mode : Mode) (called : Bool) (target right : Expr) : List String :=
  if target.isModuleExportsTarget then right.valueListed mode called else []

/-- The names whose keys are listed for a chain of assignments. -/
def Expr.chainListed (mode : Mode) (called : Bool) : Expr → List String
  | .paren inner => inner.chainListed mode called
  | .assign _ target right => assignListed mode called target right ++ right.chainListed mode called
  | _ => []

/-- The names whose keys are listed for a call. -/
def callListed (mode : Mode) (called : Bool) (callee : Expr) (args : List Expr) : List String :=
  if callee.isMemberOf "Object" "defineProperty" then []
  else if callee.isMemberOf "Object" "assign" then
    if (firstValue? args).any Expr.isExportsObject && !called then
      valuesListed mode false (args.drop 1)
    else []
  else if callee.calleeName?.any reexportHelpers.contains then []
  else
    match Context.iteratedKeys? callee with
    | some source => source.spreadListed
    | none => []

/-- The names whose keys are listed for an assignment or a call that a scan comes to. -/
def Expr.effectListed (mode : Mode) (called : Bool) : Expr → List String
  | .assign _ target right => assignListed mode called target right ++ right.chainListed mode called
  | .call callee args => callListed mode called callee args
  | _ => []

/-- The names whose keys a scan of a program lists. -/
def Program.listed (program : Program) (mode : Mode) (called : Bool) : List String :=
  (Context.stmtsReached ⟨mode, called, .empty⟩ program).flatMap (Expr.effectListed mode called)

namespace Context

/-- Two scans have the same purpose and know the same, except that the second knows more keys of one
name, in front of those that the first one knows.  The name holds no required module. -/
structure Ahead (name : String) (keys : List String) (c d : Context) : Prop where
  mode : c.mode = d.mode
  called : c.called = d.called
  others : ∀ other, other ≠ name → c.lookup other = d.lookup other
  known : ∃ binding, c.lookup name = some binding ∧ binding.required = none ∧
    d.lookup name = some { binding with keys := keys ++ binding.keys }

variable {c d : Context} {name : String} {keys : List String}

namespace Ahead

/-- A table that is ahead knows of the same required modules. -/
theorem required (h : Ahead name keys c d) (other : String) :
    (c.lookup other).bind Binding.required = (d.lookup other).bind Binding.required := by
  by_cases hother : other = name
  · obtain ⟨binding, hc, -, hd⟩ := h.known
    rw [hother, hc, hd]
    rfl
  · rw [h.others other hother]

/-- It knows of the same functions. -/
theorem returns (h : Ahead name keys c d) (other : String) :
    (c.lookup other).map Binding.returns = (d.lookup other).map Binding.returns := by
  by_cases hother : other = name
  · obtain ⟨binding, hc, -, hd⟩ := h.known
    rw [hother, hc, hd]
    rfl
  · rw [h.others other hother]

/-- So an expression denotes the same module in both. -/
theorem requiredBy? (h : Ahead name keys c d) (e : Expr) : c.requiredBy? e = d.requiredBy? e :=
  requiredBy?_congr_required e fun other _ => h.required other

/-- And a callee returns the same keys in both. -/
theorem factoryKeys? (h : Ahead name keys c d) (callee : Expr) :
    c.factoryKeys? callee = d.factoryKeys? callee := by
  unfold Context.factoryKeys?
  split
  case h_4 other _ => exact h.returns other
  all_goals rfl

/-- Another name is no occurrence of the name. -/
theorem count_other {other : String} (hother : other ≠ name) : [other].count name = 0 :=
  List.count_eq_zero_of_not_mem fun hmem => hother (List.mem_singleton.mp hmem).symm

/-- A name that is given away. -/
theorem named (h : Ahead name keys c d) (called : Bool) (other : String) :
    Findings.Lacks keys ((if called then [] else [other]).count name) (c.named called other)
      (d.named called other) := by
  by_cases hother : other = name
  · obtain ⟨binding, hc, hrequired, hd⟩ := h.known
    rw [hother, Context.named, Context.named, hc, hd]
    simp only [hrequired]
    cases called with
    | true => exact .refl _
    | false =>
      have hone : [name].count name = 1 := List.count_singleton_self
      simp only [Bool.false_eq_true, if_false, hone]
      exact (Findings.Lacks.names binding.keys).append (.refl _)
  · rw [Context.named, Context.named, h.others other hother]
    have hnone : (if called then [] else [other]).count name = 0 := by
      split
      · rfl
      · exact count_other hother
    rw [hnone]
    exact .refl _

/-- A value whose properties are copied. -/
theorem spread (h : Ahead name keys c d) (source : Expr) :
    Findings.Lacks keys (source.spreadListed.count name) (c.spread source) (d.spread source) := by
  rw [Expr.spreadListed]
  cases hident : source.identName? with
  | none =>
    rw [spread_of_no_name hident, spread_of_no_name hident, h.requiredBy? source]
    exact .refl _
  | some other =>
    rw [spread_of_identName? hident, spread_of_identName? hident]
    exact h.named false other

end Ahead

/-! ## Values -/

mutual

/-- The findings of a value lack the keys once for each time that the name is listed. This and the
two lemmas below are one recursion over values. -/
theorem value_lacks (h : Ahead name keys c d) : ∀ (called : Bool) (e : Expr),
    Findings.Lacks keys ((e.valueListed c.mode called).count name) (c.value called e)
      (d.value called e)
  | called, .paren inner => value_lacks h called inner
  | called, .object members => by
    rw [value, value, Expr.valueListed]
    cases called with
    | true => exact .refl ∅
    | false =>
      have hspreads := Findings.Lacks.joinMap (spreadOperands members) fun e _ => h.spread e
      rw [← Nat.zero_add (List.count _ _)]
      exact (Findings.Lacks.refl _).append hspreads
  | called, .call callee args => by
    rw [value, value, Expr.valueListed]
    cases (Expr.call callee args).requiredSpecifier? with
    | some specifier => exact .refl _
    | none =>
      cases callee.requiredSpecifier? with
      | some specifier => exact .refl _
      | none =>
        simp only
        by_cases hassign : callee.isMemberOf "Object" "assign" = true
        · simp only [if_pos hassign]
          exact values_lacks h false args
        simp only [if_neg hassign]
        by_cases hfirst : (callee.calleeName? == some "__toCommonJS" ||
            isInteropCall callee args) = true
        · simp only [if_pos hfirst]
          exact firstValue_lacks h called args
        -- a factory answers with what it returns, and not with its own keys
        simp only [if_neg hfirst, h.factoryKeys? callee]
        exact .refl _
  | called, .ident other => h.named called other
  | called, .conditional test yes no => by
    rw [value, value, Expr.valueListed, ← h.mode]
    rcases test.holdsIn? c.mode with _ | _ | _
    · rw [List.count_append]
      exact (value_lacks h called yes).append (value_lacks h called no)
    · exact value_lacks h called no
    · exact value_lacks h called yes
  | called, .assign _ _ right => value_lacks h called right
  | _, .literal _ | _, .function _ | _, .arrow _ | _, .arrowValue _ _ _ | _, .unary _ _
  | _, .binary _ _ _ | _, .logical _ _ _ | _, .sequence _ | _, .member _ _ | _, .index _ _
  | _, .spread _ | _, .chain _ | _, .other _ _ => .refl _

/-- The same for several values. -/
theorem values_lacks (h : Ahead name keys c d) : ∀ (called : Bool) (args : List Expr),
    Findings.Lacks keys ((valuesListed c.mode called args).count name) (c.values called args)
      (d.values called args)
  | _, [] => .refl ∅
  | called, first :: rest => by
    rw [values, values, valuesListed, List.count_append]
    exact (value_lacks h called first).append (values_lacks h called rest)

/-- The same for the first of several values. -/
theorem firstValue_lacks (h : Ahead name keys c d) : ∀ (called : Bool) (args : List Expr),
    Findings.Lacks keys ((firstListed c.mode called args).count name) (c.firstValue called args)
      (d.firstValue called args)
  | _, [] => .refl ∅
  | called, first :: _ => value_lacks h called first

end

/-! ## Assignments and calls -/

/-- The same for an assignment. -/
theorem assign_lacks (h : Ahead name keys c d) (target right : Expr) :
    Findings.Lacks keys ((assignListed c.mode c.called target right).count name)
      (c.assign target right) (d.assign target right) := by
  rw [assign, assign, assignListed, ← h.called]
  split
  · exact value_lacks h c.called right
  · exact .refl _

/-- The same for a chain of assignments. -/
theorem chain_lacks (h : Ahead name keys c d) : ∀ e : Expr,
    Findings.Lacks keys ((e.chainListed c.mode c.called).count name) (c.chain e) (d.chain e)
  | .paren inner => chain_lacks h inner
  | .assign _ target right => by
    rw [chain, chain, Expr.chainListed, List.count_append]
    exact (assign_lacks h target right).append (chain_lacks h right)
  | .ident _ | .literal _ | .object _ | .function _ | .arrow _ | .arrowValue _ _ _ | .unary _ _
  | .binary _ _ _ | .logical _ _ _ | .conditional _ _ _ | .sequence _ | .member _ _ | .index _ _
  | .call _ _ | .spread _ | .chain _ | .other _ _ => .refl _

/-- The same for a call. -/
theorem call_lacks (h : Ahead name keys c d) (callee : Expr) (args : List Expr) :
    Findings.Lacks keys ((callListed c.mode c.called callee args).count name) (c.call callee args)
      (d.call callee args) := by
  rw [call, call, callListed, ← h.called]
  split
  · exact .refl _
  split
  · split
    · exact values_lacks h false _
    · exact .refl _
  split
  -- a helper asks which module its arguments require, and for no keys
  · have hhelper : c.helperCall args = d.helperCall args := by
      unfold helperCall
      congr 2
      refine List.map_congr_left fun value _ => ?_
      rw [h.requiredBy? value]
    rw [hhelper]
    exact .refl _
  · cases iteratedKeys? callee with
    | none => exact .refl _
    | some source => exact h.spread source

/-- The same for an expression that is evaluated for its effect. -/
theorem effect_lacks (h : Ahead name keys c d) (e : Expr) :
    Findings.Lacks keys ((e.effectListed c.mode c.called).count name) (c.effect e)
      (d.effect e) := by
  cases e with
  | assign op target right =>
    rw [effect, effect, Expr.effectListed, List.count_append]
    exact (assign_lacks h target right).append (chain_lacks h right)
  | call callee args => exact call_lacks h callee args
  | _ => exact .refl _

/-- A scan that knows fewer keys of a name lacks them once for each time that it lists the name. -/
theorem stmts_lacks (h : Ahead name keys c d) (statements : List Stmt) :
    Findings.Lacks keys ((Program.listed statements c.mode c.called).count name)
      (c.stmts statements) (d.stmts statements) := by
  have hreached : (⟨c.mode, c.called, .empty⟩ : Context).stmtsReached statements =
      c.stmtsReached statements := stmtsReached_congr (by rfl) statements
  rw [Program.listed, hreached, stmts_eq_effects, stmts_eq_effects, ← stmtsReached_congr h.mode]
  exact .joinMap _ fun e _ => effect_lacks h e

end Context

end Script

end NamedExports
