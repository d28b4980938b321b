import Mathlib.Data.List.Forall2
import NamedExports.Proofs.Scan.Following
import NamedExports.Proofs.Scan.Forwarding
import NamedExports.Proofs.Scan.Lookups
import NamedExports.Proofs.Scan.Untouched

/-!
# Ways to merge modules

The properties of other values are merged into the exports in four ways: they are spread into an
object literal that is given to `module.exports`, copied with `Object.assign` into a new object that
is given to it, copied with `Object.assign` onto `exports`, or copied in a loop over the keys of
each value.  The first and the last way ask which module a value requires, the other two take the
value as if it were given away.  `Program.findings_merging` says that they find the same exactly if
no helper that wraps modules is applied to a name which is known to hold something else.
-/

namespace NamedExports

/-! ## Parts that may be missing -/

namespace Findings

/-- How much is found. -/
def size (found : Findings) : Nat := found.exports.length + found.reexports.length

/-- The size of findings one after the other. -/
theorem size_append (a b : Findings) : (a ++ b).size = a.size + b.size := by
  rw [size, exports_append, reexports_append, List.length_append, List.length_append, size, size]
  omega

/-- Only the empty findings have size zero. -/
theorem size_eq_zero_iff {a : Findings} : a.size = 0 ↔ a = ∅ := by
  rw [eq_empty_iff, size, Nat.add_eq_zero_iff, List.length_eq_zero_iff, List.length_eq_zero_iff]

variable {α : Type} {f g : α → Findings} {items : List α}

/-- Pieces that find what others find, or nothing, find no more altogether. -/
theorem size_join_le (h : ∀ e ∈ items, f e = g e ∨ f e = ∅) :
    (join (items.map f)).size ≤ (join (items.map g)).size := by
  induction items with
  | nil => exact Nat.le_refl _
  | cons first rest ih =>
    rw [List.forall_mem_cons] at h
    have hfirst : (f first).size ≤ (g first).size := by
      rcases h.1 with hsame | hnone
      · exact Nat.le_of_eq (congrArg size hsame)
      · rw [size_eq_zero_iff.mpr hnone]
        exact Nat.zero_le _
    rw [List.map_cons, List.map_cons, join_cons, join_cons, size_append, size_append]
    exact Nat.add_le_add hfirst (ih h.2)

/-- Where each part is as it should be or missing, the whole is as it should be exactly if each part
is. -/
theorem join_map_eq_iff (h : ∀ e ∈ items, f e = g e ∨ f e = ∅) :
    join (items.map f) = join (items.map g) ↔ ∀ e ∈ items, f e = g e := by
  constructor
  · intro heq
    induction items with
    | nil => simp
    | cons first rest ih =>
      rw [List.forall_mem_cons] at h ⊢
      rw [List.map_cons, List.map_cons, join_cons, join_cons] at heq
      have hfirst : f first = g first := by
        rcases h.1 with hsame | hnone
        · exact hsame
        -- the rest cannot make up for a part that is missing
        · have hsize := congrArg size heq
          have hrest := size_join_le h.2
          rw [size_append, size_append, size_eq_zero_iff.mpr hnone] at hsize
          rw [hnone, eq_comm, ← size_eq_zero_iff]
          omega
      rw [hfirst] at heq
      exact ⟨hfirst, ih h.2 (append_left_cancel heq)⟩
  · intro hparts
    rw [List.map_congr_left hparts]

end Findings

namespace Script

/-! ## What is merged -/

/-- A value stands inside any number of helpers that wrap modules. -/
inductive Expr.WrappedIn (core : Expr) : Expr → Prop
  | self : WrappedIn core core
  | paren {inner : Expr} (wrapped : WrappedIn core inner) : WrappedIn core (.paren inner)
  | helper {callee inner : Expr} {rest : List Expr} (helper : IsHelper callee)
      (value : inner.asValue? = some inner) (wrapped : WrappedIn core inner) :
      WrappedIn core (.call callee (inner :: rest))

/-- A value is a call of `require` or a name, inside any number of helpers that wrap modules. -/
def Expr.IsSource (e : Expr) : Prop :=
  ∃ core : Expr, core.WrappedIn e ∧ (core.requiredSpecifier? ≠ none ∨ core.identName? ≠ none)

/-- `Object.assign(first, …sources)` -/
def assignCall (first : Expr) (sources : List Expr) : Expr :=
  .call (.member (.ident "Object") "assign") (first :: sources)

/-- `Object.keys(source).forEach` -/
def forEachKey (source : Expr) : Expr :=
  .member (.call (.member (.ident "Object") "keys") [source]) "forEach"

/-- `Object.keys(source).forEach(callback)` -/
def keyLoop (source callback : Expr) : Expr := .call (forEachKey source) [callback]

/-- Statements merge the properties of some values into the exports. -/
inductive Merges (sources : List Expr) : List Stmt → Prop
  | spreading : Merges sources [.expr (exporting (.object (sources.map .spread)))]
  | assigning : Merges sources [.expr (exporting (assignCall (.object []) sources))]
  | assigningExports : Merges sources [.expr (assignCall (.ident "exports") sources)]
  | looping {loops : List Stmt}
      (each : List.Forall₂ (fun source s => ∃ callback, s = .expr (keyLoop source callback))
        sources loops) : Merges sources loops

/-- A source stands for itself as a value. -/
theorem Expr.IsSource.asValue? {e : Expr} (h : e.IsSource) : e.asValue? = some e := by
  obtain ⟨core, hwrapped, hcore⟩ := h
  cases e with
  | spread operand =>
    cases hwrapped with
    | self => exact absurd rfl (hcore.elim id id)
  | _ => rfl

/-! ## What becomes known -/

namespace Bindings

variable {b : Bindings} {mode : Mode} {sources : List Expr} {ending : List Stmt}

/-- Nothing is added to a name that is not known. -/
theorem addKeys_of_none {name : String} {keys : List String} (h : b.get? name = none) :
    b.addKeys name keys = b := by
  have hsame : ∀ other, (b.addKeys name keys).get? other = b.get? other := by
    intro other
    by_cases hother : other = name
    · subst hother
      rw [get?_addKeys_of_none h, h]
    · exact get?_addKeys_of_ne hother
  exact congrArg Bindings.mk (funext hsame)

/-- A call that defines no properties records nothing. -/
theorem call_of_plain {callee : Expr} {args : List Expr}
    (hdefine : callee.isMemberOf "Object" "defineProperty" = false)
    (hexport : (callee.calleeName? == some "__export") = false) : b.call callee args = b := by
  simp only [call, hdefine, hexport, Bool.false_eq_true, if_false]
  split
  · rfl
  · split <;> rfl

/-- The first look records nothing at a call of `Object.assign`. -/
theorem expr_assignCall (first : Expr) (sources : List Expr) :
    b.expr mode (assignCall first sources) = b := by
  have hdefine : (Expr.member (.ident "Object") "assign").isMemberOf "Object" "defineProperty" =
      false := rfl
  exact call_of_plain hdefine rfl

/-- The first look records nothing at a loop over the keys of a source. -/
theorem expr_keyLoop (source callback : Expr) : b.expr mode (keyLoop source callback) = b := by
  have hdefine : (forEachKey source).isMemberOf "Object" "defineProperty" = false := rfl
  exact call_of_plain hdefine rfl

/-- Merging records nothing, if nothing is known of `module`. -/
theorem stmts_merging (hmodule : b.get? "module" = none) (h : Merges sources ending) :
    b.stmts mode ending = b := by
  have hexporting : b.assign (.member (.ident "module") "exports") = b := addKeys_of_none hmodule
  cases h with
  | spreading => exact hexporting
  | assigning =>
    show (b.assign (.member (.ident "module") "exports")).expr mode
      (assignCall (.object []) sources) = b
    rw [hexporting, expr_assignCall]
  | assigningExports =>
    rw [stmts, stmt, expr_assignCall, stmts]
  | looping each =>
    induction each with
    | nil => rfl
    | cons hfirst _ ih =>
      obtain ⟨callback, rfl⟩ := hfirst
      rw [stmts, stmt, expr_keyLoop, ih]

end Bindings

/-! ## What is found -/

namespace Context

variable {c : Context} {e core : Expr} {sources : List Expr} {ending : List Stmt}

/-- Of a name nothing but a required module is known. -/
def Plain (c : Context) (name : String) : Prop :=
  ∀ binding, c.lookup name = some binding → binding.required = none →
    binding.keys = [] ∧ binding.reexports = []

/-- Helpers in a value are only applied to such names. -/
def WrapsPlain (c : Context) (e : Expr) : Prop :=
  e.identName? = none → ∀ (core : Expr) (name : String), core.WrappedIn e →
    core.identName? = some name → c.Plain name

/-- A source in interop wrappers requires what the source requires. -/
theorem requiredBy?_of_wrappedIn (h : core.WrappedIn e) : c.requiredBy? e = c.requiredBy? core := by
  induction h with
  | self => rfl
  | paren _ ih => rw [requiredBy?, ih]
  | helper helper value _ ih =>
    rw [requiredBy?, helper.requiredSpecifier?_call, helper.isInteropCall value, ← ih]
    rfl

/-- A source in interop wrappers is worth what the source is. -/
theorem value_of_wrappedIn (called : Bool) (h : core.WrappedIn e) :
    c.value called e = c.value called core := by
  induction h with
  | self => rfl
  | paren _ ih => rw [value, ih]
  | helper helper value _ ih => rw [value_helperCall helper value, ih]

/-- A name is worth what is known of it. -/
theorem value_of_identName? {name : String} (called : Bool) (h : e.identName? = some name) :
    c.value called e = c.named called name := by
  rw [← value_withoutParens, Expr.withoutParens_of_identName? h, value]

/-- A source that requires a module is given away as that module. -/
theorem value_of_requiredBy? {specifier : String} (h : e.IsSource)
    (hrequired : c.requiredBy? e = some specifier) (called : Bool) :
    c.value called e = .reexport specifier called := by
  obtain ⟨core, hwrapped, hcore⟩ := h
  rw [requiredBy?_of_wrappedIn hwrapped] at hrequired
  rw [value_of_wrappedIn called hwrapped]
  rcases hcore with hmodule | hname
  · obtain ⟨found, hfound⟩ := Option.ne_none_iff_exists'.mp hmodule
    rw [requiredBy?_of_requiredSpecifier? hfound] at hrequired
    rw [value_of_requiredSpecifier? hfound, Option.some.inj hrequired]
  · obtain ⟨name, hname⟩ := Option.ne_none_iff_exists'.mp hname
    rw [requiredBy?_of_identName? hname, Option.bind_eq_some_iff] at hrequired
    obtain ⟨binding, hlookup, hbinding⟩ := hrequired
    rw [value_of_identName? called hname, named, hlookup]
    simp only [hbinding]

/-- A name exports nothing besides a required module exactly if nothing else is known of it. -/
theorem named_eq_required_iff {name : String} :
    (((c.lookup name).bind Binding.required).map (Findings.reexport · false)).getD ∅ =
      c.named false name ↔ c.Plain name := by
  cases hlookup : c.lookup name with
  | none => simp [Plain, named, hlookup]
  | some binding =>
    cases hrequired : binding.required with
    | some specifier => simp [Plain, named, hlookup, hrequired]
    | none =>
      have hnothing : ∅ = c.named false name ↔ binding.keys = [] ∧ binding.reexports = [] := by
        rw [named, hlookup]
        simp only [hrequired, Bool.false_eq_true, if_false]
        rw [eq_comm, Findings.names_append_reexports_eq_empty_iff]
      simpa [Plain, hlookup, hrequired] using hnothing

/-- A source is copied as it is given away, unless a helper is applied to a name that is known to
hold something else than a module. -/
theorem spread_eq_value_iff (h : e.IsSource) :
    c.spread e = c.value false e ↔ c.WrapsPlain e := by
  rw [WrapsPlain]
  cases hname : e.identName? with
  | some name => simp [spread_of_identName? hname, value_of_identName? false hname]
  | none =>
    have hcore : ∀ (core : Expr) (name : String), core.WrappedIn e → core.identName? = some name →
        (c.spread e = c.value false e ↔ c.Plain name) := by
      intro core name hwrapped hcore
      rw [spread_of_no_name hname, value_of_wrappedIn false hwrapped,
        requiredBy?_of_wrappedIn hwrapped, requiredBy?_of_identName? hcore,
        value_of_identName? false hcore, named_eq_required_iff]
    constructor
    · intro heq _ core name hwrapped hname
      exact (hcore core name hwrapped hname).mp heq
    · intro hplain
      cases hrequired : c.requiredBy? e with
      | some specifier =>
        rw [spread, hrequired, value_of_requiredBy? h hrequired]
      | none =>
        obtain ⟨core, hwrapped, hmodule | hnamed⟩ := h
        · obtain ⟨specifier, hspecifier⟩ := Option.ne_none_iff_exists'.mp hmodule
          rw [requiredBy?_of_wrappedIn hwrapped, requiredBy?_of_requiredSpecifier? hspecifier]
            at hrequired
          cases hrequired
        · obtain ⟨name, hnamed⟩ := Option.ne_none_iff_exists'.mp hnamed
          exact (hcore core name hwrapped hnamed).mpr (hplain rfl core name hwrapped hnamed)

/-- A spread finds what the value would, or nothing at all. -/
theorem spread_eq_value_or_empty (h : e.IsSource) :
    c.spread e = c.value false e ∨ c.spread e = ∅ := by
  cases hrequired : c.requiredBy? e with
  | some specifier =>
    left
    rw [spread, hrequired, value_of_requiredBy? h hrequired]
  | none =>
    cases hname : e.identName? with
    | some name =>
      left
      rw [spread_of_identName? hname, value_of_identName? false hname]
    | none =>
      right
      rw [spread_of_no_name hname, hrequired]
      rfl

/-- The values of several arguments, one after the other. -/
theorem values_eq_join (called : Bool) (args : List Expr) :
    c.values called args = .join (args.map (c.value called)) := by
  induction args with
  | nil => rfl
  | cons first rest ih => rw [values, ih, List.map_cons, Findings.join_cons]

/-- An object literal of spreads alone finds what each spread does. -/
theorem value_spreading (sources : List Expr) :
    c.value false (.object (sources.map .spread)) = .join (sources.map c.spread) := by
  have hkeys : staticKeys (sources.map Member.spread) = [] := by
    rw [staticKeys, List.filterMap_map, List.filterMap_eq_nil_iff]
    exact fun _ _ => rfl
  have hoperands : spreadOperands (sources.map Member.spread) = sources := by
    rw [spreadOperands, List.filterMap_map]
    exact List.filterMap_some
  rw [value, hkeys, hoperands]
  rfl

/-- A call of `Object.assign` that is given to `module.exports` finds the value of each source. -/
theorem value_assignCall (sources : List Expr) :
    c.value false (assignCall (.object []) sources) = .join (sources.map (c.value false)) := by
  show c.values false (.object [] :: sources) = _
  rw [values, values_eq_join]
  rfl

/-- A call of `Object.assign` on `exports` finds the value of each source. -/
theorem expr_assignCall (hcalled : c.called = false) (sources : List Expr) :
    c.expr (assignCall (.ident "exports") sources) = .join (sources.map (c.value false)) := by
  rw [← values_eq_join]
  show (if (true && !c.called) = true then c.values false sources else ∅) = _
  rw [hcalled]
  rfl

/-- A loop over the keys of a source finds what the spread of the source does. -/
theorem expr_keyLoop {source : Expr} (h : source.asValue? = some source) (callback : Expr) :
    c.expr (keyLoop source callback) = c.spread source := by
  have hdefine : (forEachKey source).isMemberOf "Object" "defineProperty" = false := rfl
  have hassign : (forEachKey source).isMemberOf "Object" "assign" = false := rfl
  have hhelper : (forEachKey source).calleeName?.any reexportHelpers.contains = false := rfl
  have hiterated : iteratedKeys? (forEachKey source) = some source := h
  show c.call (forEachKey source) [callback] = _
  rw [call, hdefine, hassign, hhelper, hiterated]
  rfl

/-- An assignment to `module.exports` finds the value of what it gives. -/
theorem expr_exporting (hcalled : c.called = false) {given : Expr} (h : c.chain given = ∅) :
    c.expr (exporting given) = c.value false given := by
  show c.value c.called given ++ c.chain given = _
  rw [hcalled, h, Findings.append_empty]

/-- The program that gives such a call finds the values of the sources. -/
theorem stmts_assigning (hcalled : c.called = false) (sources : List Expr) :
    c.stmts [.expr (exporting (assignCall (.object []) sources))] =
      .join (sources.map (c.value false)) := by
  rw [stmts, stmt, expr_exporting hcalled rfl, value_assignCall, stmts, Findings.append_empty]

/-- What a way to merge finds: what is copied of the sources, or what is given away of them. -/
theorem stmts_merging (hcalled : c.called = false) (hsources : ∀ s ∈ sources, s.IsSource)
    (h : Merges sources ending) :
    c.stmts ending = .join (sources.map c.spread) ∨
      c.stmts ending = .join (sources.map (c.value false)) := by
  cases h with
  | spreading =>
    left
    rw [stmts, stmt, expr_exporting hcalled rfl, value_spreading, stmts, Findings.append_empty]
  | assigning => exact Or.inr (stmts_assigning hcalled sources)
  | assigningExports =>
    right
    rw [stmts, stmt, expr_assignCall hcalled, stmts, Findings.append_empty]
  | looping each =>
    left
    induction each with
    | nil => rfl
    | cons hfirst _ ih =>
      rw [List.forall_mem_cons] at hsources
      obtain ⟨callback, rfl⟩ := hfirst
      rw [stmts, stmt, expr_keyLoop hsources.1.asValue?, ih hsources.2, List.map_cons,
        Findings.join_cons]

end Context

/-- After a program that does not declare `module`, the four ways to merge some sources add what is
copied of each source, in the same order, exactly if no helper that wraps modules is applied to a
name that is known to hold something else than a module. -/
theorem Program.findings_merging {program : Program} (hmodule : ¬ program.Declares "module")
    {sources : List Expr} (hsources : ∀ s ∈ sources, s.IsSource) (mode : Mode) :
    (∀ ending, Merges sources ending → Program.findings (program ++ ending) mode false =
        program.findings mode false ++
          .join (sources.map (program.context mode false).spread)) ↔
      ∀ s ∈ sources, (program.context mode false).WrapsPlain s := by
  have hadded : ∀ ending, Merges sources ending → Program.findings (program ++ ending) mode false =
      program.findings mode false ++ (program.context mode false).stmts ending := by
    intro ending hending
    have hknown : Bindings.ofProgram mode (program ++ ending) = .ofProgram mode program := by
      rw [Bindings.ofProgram, Bindings.stmts_append]
      exact Bindings.stmts_merging ((Bindings.kept_of_not_declares hmodule).ofProgram rfl mode)
        hending
    rw [Program.findings, hknown, Context.stmts_append]
    rfl
  have hparts : (∀ s ∈ sources, (program.context mode false).WrapsPlain s) ↔
      Findings.join (sources.map (program.context mode false).spread) =
        .join (sources.map ((program.context mode false).value false)) := by
    rw [Findings.join_map_eq_iff fun s hs => Context.spread_eq_value_or_empty (hsources s hs)]
    exact forall₂_congr fun s hs => (Context.spread_eq_value_iff (hsources s hs)).symm
  rw [hparts]
  have hcalled : (program.context mode false).called = false := rfl
  constructor
  · intro hsame
    have hassigning := hsame _ Merges.assigning
    rw [hadded _ Merges.assigning, Context.stmts_assigning hcalled] at hassigning
    exact (Findings.append_left_cancel hassigning).symm
  · intro heq ending hending
    rw [hadded ending hending]
    rcases Context.stmts_merging hcalled hsources hending with hfound | hfound
    · rw [hfound]
    · rw [hfound, heq]

/-- `__importStar(wrapped)` -/
def starCall (wrapped : Expr) : Expr := .call (.ident "__importStar") [wrapped]

/-- The wrapper of the `import * as` form is an interop wrapper. -/
theorem Expr.WrappedIn.starCall {core wrapped : Expr} (h : core.WrappedIn wrapped)
    (hvalue : wrapped.asValue? = some wrapped) : core.WrappedIn (starCall wrapped) :=
  .helper ⟨"__importStar", rfl, rfl⟩ hvalue h

/-- `const a = require('x');` -/
def holding : Stmt := .declare .const [.mk (.ident "a") (some (requireCall "x"))]

/-- `a`, `__importStar(a)` and `__importStar(require('b'))` -/
def starred : List Expr := [.ident "a", starCall (.ident "a"), starCall (requireCall "b")]

/-- Modules that are required by a name, by a name in a helper and in a helper are merged in
order. -/
theorem findings_merging_starred :
    ¬ Program.Declares [holding] "module" ∧ (∀ s ∈ starred, s.IsSource) ∧
      Program.findings ([holding] ++ [.expr (assignCall (.ident "exports") starred)]) .production
        false = ⟨[], ["x", "x", "b"]⟩ := by
  have hmodule : ¬ Program.Declares [holding] "module" :=
    Program.not_declares_of_flat (by decide) (by decide)
  have hsources : ∀ s ∈ starred, s.IsSource := by
    simp only [starred, List.forall_mem_cons]
    refine ⟨⟨_, .self, ?_⟩, ⟨_, .starCall .self rfl, ?_⟩, ⟨_, .starCall .self rfl, ?_⟩, ?_⟩
    · exact Or.inr (Option.some_ne_none _)
    · exact Or.inr (Option.some_ne_none _)
    · exact Or.inl (Option.some_ne_none _)
    · exact List.forall_mem_nil _
  refine ⟨hmodule, hsources, ?_⟩
  have hplain : ∀ s ∈ starred, (Program.context [holding] .production false).WrapsPlain s := by
    -- only `a` is known, and it is known to be a module
    intro s _ _ core name _ _ binding hlookup hrequired
    have hbinding : (if name == "a" then some (Binding.ofValue (requireCall "x")) else none) =
      some binding := hlookup
    split at hbinding
    · rw [← Option.some.inj hbinding] at hrequired
      cases hrequired
    · cases hbinding
  rw [(Program.findings_merging hmodule hsources .production).mpr hplain _ .assigningExports]
  rfl

/-- `const a = { k: 1 };` -/
def shadowingInside : Stmt :=
  .declare .const [.mk (.ident "a")
    (some (.object [.property (.literal (.string "k")) (.literal (.number "1"))]))]

/-- `const a = require('x'); { const a = { k: 1 }; }` -/
def shadowing : Program := [holding, .block [shadowingInside]]

/-- A helper is applied to a name that holds a module, and a name of the same spelling in a block
holds an object literal: the literal's key is merged in one way and not in another. -/
theorem findings_merging_ne :
    holding ∈ shadowing ∧
      (∀ name ∈ ["exports", "module", "require", "Object"], ¬ shadowing.Declares name) ∧
      (starCall (.ident "a")).IsSource ∧ shadowing.findings .production false = ∅ ∧
      Program.findings (shadowing ++ [.expr (exporting (.object
          [.spread (starCall (.ident "a"))]))]) .production false = ∅ ∧
      Program.findings (shadowing ++ [.expr (exporting (assignCall (.object [])
          [starCall (.ident "a")]))]) .production false = .names ["k"] := by
  refine ⟨List.mem_cons_self, ?_, ⟨_, .starCall .self rfl, Or.inr (Option.some_ne_none _)⟩, rfl,
    rfl, rfl⟩
  intro name hname
  refine Program.not_declares_of_closed (shadowing ++ [shadowingInside])
    (List.subset_append_left _ _) ?_ (by decide) (by revert name; decide)
  simp [shadowing, holding, shadowingInside, Stmt.parts]

end Script

end NamedExports
