import NamedExports.Proofs.Scan.Condition
import NamedExports.Proofs.Scan.Shape
import NamedExports.Proofs.Script.Restyling

/-!
# Shapes in another style

What the tests on shapes tell of an expression they tell of it in another style as well, as long as
the names that they look for only stand for themselves.
-/

namespace NamedExports.Script

/-! ## Names that mean something -/

/-- The names that a scan looks for, and those that begin like a helper of Babel's. -/
def specialNames : List String :=
  ["exports", "module", "require", "Object", "process", "__exportStar", "__export", "__reExport",
    "__toCommonJS", "__importStar", "__importDefault", "__toESM"]

/-- A name means something to a scan. -/
def IsSpecial (name : String) : Prop :=
  name ∈ specialNames ∨ "_interopRequire".toList.isPrefixOf name.toList = true

/-- Names are replaced one for one, and special names only stand for themselves. -/
structure Relabels (R : String → String → Prop) : Prop where
  unique : ∀ {name name' other other' : String}, R name name' → R other other' →
    (name = other ↔ name' = other')
  special : ∀ {name name' : String}, R name name' → IsSpecial name ∨ IsSpecial name' → name = name'

variable {R : String → String → Prop}

/-- A test that only special names pass makes no difference between a name and its replacement. -/
theorem Relabels.test_eq (hR : Relabels R) {p : String → Bool}
    (hp : ∀ name, p name = true → IsSpecial name) {name name' : String} (h : R name name') :
    p name = p name' := by
  by_cases hspecial : IsSpecial name ∨ IsSpecial name'
  · rw [hR.special h hspecial]
  · rw [not_or] at hspecial
    rw [Bool.eq_false_iff.mpr (hspecial.1 ∘ hp name), Bool.eq_false_iff.mpr (hspecial.2 ∘ hp name')]

/-- A name that is found to be a special one is special. -/
theorem isSpecial_of_beq {special name : String} (hspecial : special ∈ specialNames)
    (h : (name == special) = true) : IsSpecial name := by
  rw [beq_iff_eq.mp h]
  exact Or.inl hspecial

/-- The names of helpers for interoperation are special. -/
theorem isSpecial_of_isInteropHelper {name : String} (h : isInteropHelper name = true) :
    IsSpecial name := by
  simp only [isInteropHelper, Bool.or_eq_true, beq_iff_eq] at h
  rcases h with ((h | rfl) | rfl) | rfl
  · exact Or.inr h
  · exact Or.inl (by decide)
  · exact Or.inl (by decide)
  · exact Or.inl (by decide)

/-- The names of helpers that re-export are special. -/
theorem isSpecial_of_mem_reexportHelpers {name : String}
    (h : reexportHelpers.contains name = true) : IsSpecial name := by
  have hsub : reexportHelpers ⊆ specialNames := by decide
  exact Or.inl (hsub (List.contains_iff_mem.mp h))

/-! ## Options that are related -/

section Related

variable {α β γ : Type} {Q : α → β → Prop} {first : Option α} {second : Option β}

/-- What both sides of related options lead to is the same, if it is for related values. -/
theorem bind_eq_of_rel (h : Option.Rel Q first second) {f : α → Option γ} {g : β → Option γ}
    (hfg : ∀ {a b}, Q a b → f a = g b) : first.bind f = second.bind g := by
  cases h with
  | some h => exact hfg h
  | none => rfl

/-- A test that makes no difference between related values makes none between related options. -/
theorem any_eq_of_rel (h : Option.Rel Q first second) {f : α → Bool} {g : β → Bool}
    (hfg : ∀ {a b}, Q a b → f a = g b) : first.any f = second.any g := by
  cases h with
  | some h => exact hfg h
  | none => rfl

/-- Related options both hold a value or both hold none. -/
theorem isSome_eq_of_rel (h : Option.Rel Q first second) : first.isSome = second.isSome := by
  cases h <;> rfl

theorem rel_cases (h : Option.Rel Q first second) :
    first = none ∧ second = none ∨ ∃ a b, first = some a ∧ second = some b ∧ Q a b := by
  cases h with
  | none => exact Or.inl ⟨rfl, rfl⟩
  | some h => exact Or.inr ⟨_, _, rfl, rfl, h⟩

/-- Related options lead to related options, if related values do. -/
theorem rel_bind {δ : Type} {P : γ → δ → Prop} {f : α → Option γ} {g : β → Option δ}
    (h : Option.Rel Q first second) (hfg : ∀ {a b}, Q a b → Option.Rel P (f a) (g b)) :
    Option.Rel P (first.bind f) (second.bind g) := by
  cases h with
  | none => exact .none
  | some h => exact hfg h

theorem rel_mono {P : α → β → Prop} (hQP : ∀ {a b}, Q a b → P a b)
    (h : Option.Rel Q first second) : Option.Rel P first second := by
  cases h with
  | some h => exact .some (hQP h)
  | none => exact .none

/-- An option holds a value exactly if a test for that value passes. -/
theorem beq_some_eq_any [BEq α] (x : Option α) (a : α) : (x == some a) = x.any (· == a) := by
  cases x <;> rfl

end Related

/-! ## Names and members -/

namespace Expr

variable {e e' : Expr}

/-- Restyled expressions are both names, of which the one replaces the other, or neither is a
name. -/
theorem Restyled.identName? (h : e.Restyled R e') : Option.Rel R e.identName? e'.identName? := by
  have hinside := h.withoutParens
  rw [Expr.identName?, Expr.identName?]
  generalize e.withoutParens = shape at hinside ⊢
  generalize e'.withoutParens = shape' at hinside ⊢
  cases hinside with
  | ident h => exact .some h
  | _ => exact .none

/-- Restyled expressions are both a special name, or neither is. -/
theorem Restyled.identName?_beq (hR : Relabels R) (h : e.Restyled R e') (special : String)
    (hspecial : special ∈ specialNames) :
    (e.identName? == some special) = (e'.identName? == some special) := by
  rw [beq_some_eq_any, beq_some_eq_any]
  exact any_eq_of_rel h.identName? (hR.test_eq fun _ => isSpecial_of_beq hspecial)

/-- Restyled expressions are both the same property of a special name, or neither is. -/
theorem Restyled.isMemberOf (hR : Relabels R) (h : e.Restyled R e') (object property : String)
    (hobject : object ∈ specialNames) :
    e.isMemberOf object property = e'.isMemberOf object property := by
  have hinside := h.withoutParens
  rw [Expr.isMemberOf, Expr.isMemberOf]
  generalize e.withoutParens = shape at hinside ⊢
  generalize e'.withoutParens = shape' at hinside ⊢
  cases hinside with
  | member hbase => simp only [hbase.identName?_beq hR object hobject]
  | _ => rfl

/-- Restyled expressions are both the exports object, or neither is. -/
theorem Restyled.isExportsObject (hR : Relabels R) (h : e.Restyled R e') :
    e.isExportsObject = e'.isExportsObject := by
  rw [Expr.isExportsObject, Expr.isExportsObject, isModuleExports, isModuleExports,
    h.identName?_beq hR "exports" (by decide), h.isMemberOf hR "module" "exports" (by decide)]

/-- Restyled expressions both ask for the mode, or neither does. -/
theorem Restyled.isNodeEnv (hR : Relabels R) (h : e.Restyled R e') :
    e.isNodeEnv = e'.isNodeEnv := by
  have hinside := h.withoutParens
  rw [Expr.isNodeEnv, Expr.isNodeEnv]
  generalize e.withoutParens = shape at hinside ⊢
  generalize e'.withoutParens = shape' at hinside ⊢
  cases hinside with
  | member hbase =>
    have hsame := hbase.isMemberOf hR "process" "env" (by decide)
    simp only [hsame]
  | _ => rfl

/-- Restyled expressions are both `module.exports`, or neither is. -/
theorem RestyledInside.isModuleExportsTarget (hR : Relabels R) (h : e.RestyledInside R e') :
    e.isModuleExportsTarget = e'.isModuleExportsTarget := by
  cases h with
  | member hbase =>
    rw [Expr.isModuleExportsTarget, Expr.isModuleExportsTarget,
      hbase.identName?_beq hR "module" (by decide)]
  | _ => rfl

/-- Targets are properties alike, if they are any. -/
theorem RestyledInside.propertyTarget? (h : e.RestyledInside R e') :
    e.propertyTarget? = none ∧ e'.propertyTarget? = none ∨
      ∃ object object' key, e.propertyTarget? = some (object, key) ∧
        e'.propertyTarget? = some (object', key) ∧ object.Restyled R object' := by
  cases h with
  | member hbase => exact Or.inr ⟨_, _, _, rfl, rfl, hbase⟩
  | @index base base' key key' hbase hkey =>
    have hinside := hkey.withoutParens
    rw [Expr.propertyTarget?, Expr.propertyTarget?]
    generalize key.withoutParens = shape at hinside ⊢
    generalize key'.withoutParens = shape' at hinside ⊢
    cases hinside with
    | @literal value =>
      cases value with
      | string text => exact Or.inr ⟨_, _, _, rfl, rfl, hbase⟩
      | _ => exact Or.inl ⟨rfl, rfl⟩
    | _ => exact Or.inl ⟨rfl, rfl⟩
  | _ => exact Or.inl ⟨rfl, rfl⟩

/-- Keys that are known without running the program are the same. -/
theorem RestyledInside.staticName? (h : e.RestyledInside R e') :
    e.staticName? = e'.staticName? := by
  cases h <;> rfl

/-! ## Calls -/

-- by recursion on what relates the callees
mutual

/-- A test that only special names pass makes no difference between what restyled callees are
called. -/
theorem Restyled.any_calleeName? (hR : Relabels R) {p : String → Bool}
    (hp : ∀ name, p name = true → IsSpecial name) : ∀ {e e' : Expr}, e.Restyled R e' →
    e.calleeName?.any p = e'.calleeName?.any p
  | _, _, .bare h => h.any_calleeName? hR hp
  | _, _, .wrapped h => h.any_calleeName? hR hp

theorem RestyledInside.any_calleeName? (hR : Relabels R) {p : String → Bool}
    (hp : ∀ name, p name = true → IsSpecial name) : ∀ {e e' : Expr}, e.RestyledInside R e' →
    e.calleeName?.any p = e'.calleeName?.any p
  | _, _, .ident h => hR.test_eq hp h
  | _, _, .paren h => h.any_calleeName? hR hp
  | _, _, .sequence h => any_lastCalleeName?_restyled hR hp h
  | _, _, .member _ => rfl
  | _, _, .literal | _, _, .object _ | _, _, .function _ | _, _, .arrow _ | _, _, .arrowValue _ _
  | _, _, .unary _ | _, _, .binary _ _ | _, _, .logical _ _ | _, _, .conditional _ _ _
  | _, _, .assign _ _ | _, _, .index _ _ | _, _, .call _ _ | _, _, .spread _ | _, _, .chain _
  | _, _, .other _ _ => rfl

/-- The same holds for the last items of restyled sequences. -/
theorem any_lastCalleeName?_restyled (hR : Relabels R) {p : String → Bool}
    (hp : ∀ name, p name = true → IsSpecial name) : ∀ {items items' : List Expr},
    ExprsRestyled R items items' →
    (lastCalleeName? items).any p = (lastCalleeName? items').any p
  | _, _, .nil => rfl
  | [_], [_], .cons h _ => h.any_calleeName? hR hp
  | _ :: _ :: _, _ :: _ :: _, .cons _ hrest => by
    simp only [lastCalleeName?]
    exact any_lastCalleeName?_restyled hR hp hrest

end

/-- Restyled callees both go by a special name, or neither does. -/
theorem Restyled.calleeName?_beq (hR : Relabels R) (h : e.Restyled R e') (special : String)
    (hspecial : special ∈ specialNames) :
    (e.calleeName? == some special) = (e'.calleeName? == some special) := by
  rw [beq_some_eq_any, beq_some_eq_any]
  exact h.any_calleeName? hR fun _ => isSpecial_of_beq hspecial

/-- No parentheses are put around what stands without. -/
theorem Restyled.inside_of_standsBare (h : e.Restyled R e') (hbare : e'.standsBare = true) :
    e.RestyledInside R e' := by
  cases h with
  | bare h => exact h
  | wrapped h => cases hbare

/-- An argument in two styles. -/
def ArgRestyled (R : String → String → Prop) (arg arg' : Expr) : Prop :=
  arg.Restyled R arg' ∧ arg'.standsBare = arg.standsBare

/-- Restyled arguments are both values or both spread. -/
theorem ArgRestyled.asValue? (h : ArgRestyled R e e') :
    Option.Rel (ArgRestyled R) e.asValue? e'.asValue? := by
  obtain ⟨hrestyled, hbare⟩ := h
  have hrel : ArgRestyled R e e' := ⟨hrestyled, hbare⟩
  cases hrestyled with
  | bare hinside =>
    cases hinside with
    | spread _ => exact .none
    | _ => exact .some hrel
  | wrapped hinner =>
    cases e with
    | spread _ => cases hbare
    | _ => exact .some hrel

/-- An argument that is neither a string nor an object literal, as it stands. -/
structure IsOther (e : Expr) : Prop where
  string : ∀ text, e ≠ .literal (.string text)
  object : ∀ members, e ≠ .object members

/-- Arguments in two styles are the same string, object literals alike, or neither. -/
theorem ArgRestyled.cases (h : ArgRestyled R e e') :
    (∃ text, e = .literal (.string text) ∧ e' = .literal (.string text)) ∨
      (∃ members members', e = .object members ∧ e' = .object members' ∧
        MembersRestyled R members members') ∨ e.IsOther ∧ e'.IsOther := by
  obtain ⟨hrestyled, hbare⟩ := h
  cases hrestyled with
  | bare hinside =>
    cases hinside with
    | @literal value =>
      cases value with
      | string text => exact Or.inl ⟨text, rfl, rfl⟩
      | _ => exact Or.inr (Or.inr ⟨⟨nofun, nofun⟩, ⟨nofun, nofun⟩⟩)
    | object hmembers => exact Or.inr (Or.inl ⟨_, _, rfl, rfl, hmembers⟩)
    | _ => exact Or.inr (Or.inr ⟨⟨nofun, nofun⟩, ⟨nofun, nofun⟩⟩)
  | wrapped hinner =>
    refine Or.inr (Or.inr ⟨⟨?_, ?_⟩, ⟨nofun, nofun⟩⟩)
    · rintro text rfl
      cases hbare
    · rintro members rfl
      cases hbare

/-- Restyled expressions are the same literal, parentheses set aside, or neither is that literal. -/
theorem Restyled.withoutParens_eq_literal_iff (h : e.Restyled R e') {value : Literal} :
    e.withoutParens = .literal value ↔ e'.withoutParens = .literal value := by
  have hinside := h.withoutParens
  generalize e.withoutParens = shape at hinside ⊢
  generalize e'.withoutParens = shape' at hinside ⊢
  cases hinside with
  | literal => rfl
  | _ => simp

end Expr

/-! ## Lists of expressions -/

section Lists

variable {γ : Type} {f g : Expr → γ}

/-- What is the same for restyled expressions is the same for lists of them. -/
theorem ExprsRestyled.map_eq (hfg : ∀ {e e' : Expr}, e.Restyled R e' → f e = g e') :
    ∀ {items items' : List Expr}, ExprsRestyled R items items' → items.map f = items'.map g
  | _, _, .nil => rfl
  | _, _, .cons hfirst hrest => by
    rw [List.map_cons, List.map_cons, hfg hfirst, hrest.map_eq hfg]

/-- Restyled object literals have the same keys. -/
theorem MembersRestyled.staticKeys : ∀ {members members' : List Member},
    MembersRestyled R members members' → staticKeys members = staticKeys members'
  | _, _, .nil => rfl
  | _, _, .property hkey _ hrest => by
    rw [staticKeys_property, staticKeys_property, hkey.staticName?, hrest.staticKeys]
  | _, _, .spread _ hrest => hrest.staticKeys

/-- Restyled object literals spread restyled operands. -/
theorem MembersRestyled.spreadOperands : ∀ {members members' : List Member},
    MembersRestyled R members members' →
      ExprsRestyled R (spreadOperands members) (spreadOperands members')
  | _, _, .nil => .nil
  | _, _, .property _ _ hrest => hrest.spreadOperands
  | _, _, .spread h hrest => .cons h hrest.spreadOperands

end Lists

/-! ## Arguments -/

namespace ArgsRestyled

variable {args args' : List Expr}

theorem drop_one (h : ArgsRestyled R args args') : ArgsRestyled R (args.drop 1) (args'.drop 1) := by
  cases h with
  | nil => exact .nil
  | cons _ _ hrest => exact hrest

/-- Restyled arguments are restyled expressions. -/
theorem exprs : ∀ {args args' : List Expr}, ArgsRestyled R args args' → ExprsRestyled R args args'
  | _, _, .nil => .nil
  | _, _, .cons hfirst _ hrest => .cons hfirst hrest.exprs

/-- A string that is the only argument is so in both styles. -/
theorem eq_string_iff (h : ArgsRestyled R args args') {text : String} :
    args = [.literal (.string text)] ↔ args' = [.literal (.string text)] := by
  cases h with
  | nil => rfl
  | cons hfirst hbare hrest =>
    constructor
    · rintro ⟨⟩
      cases hrest
      cases hfirst.inside_of_standsBare hbare
      rfl
    · rintro ⟨⟩
      cases hrest
      cases hfirst.inside_of_standsBare rfl
      rfl

/-- The first arguments are restyled, if there are any. -/
theorem firstValue? (h : ArgsRestyled R args args') :
    Option.Rel (Expr.ArgRestyled R) (firstValue? args) (firstValue? args') := by
  cases h with
  | nil => exact .none
  | cons hfirst hbare _ => exact Expr.ArgRestyled.asValue? ⟨hfirst, hbare⟩

/-- The second arguments are restyled, if there are any. -/
theorem secondValue? (h : ArgsRestyled R args args') :
    Option.Rel (Expr.ArgRestyled R) (secondValue? args) (secondValue? args') :=
  h.drop_one.firstValue?

/-- The arguments that are values are restyled. -/
theorem argumentValues : ∀ {args args' : List Expr}, ArgsRestyled R args args' →
    ExprsRestyled R (argumentValues args) (argumentValues args')
  | _, _, .nil => .nil
  | first :: _, first' :: _, .cons hfirst hbare hrest => by
    have hvalue := Expr.ArgRestyled.asValue? ⟨hfirst, hbare⟩
    rw [Script.argumentValues, Script.argumentValues, List.filterMap_cons, List.filterMap_cons]
    generalize first.asValue? = value at hvalue ⊢
    generalize first'.asValue? = value' at hvalue ⊢
    cases hvalue with
    | none => exact hrest.argumentValues
    | some h => exact .cons h.1 hrest.argumentValues

end ArgsRestyled

namespace Expr

variable {e e' callee callee' : Expr} {args args' : List Expr}

/-- Restyled expressions require the same module, or neither requires one directly. -/
theorem Restyled.requiredSpecifier? (hR : Relabels R) (h : e.Restyled R e') :
    e.requiredSpecifier? = e'.requiredSpecifier? := by
  have hinside := h.withoutParens
  ext specifier
  rw [requiredSpecifier?_eq_some_iff, requiredSpecifier?_eq_some_iff]
  generalize e.withoutParens = shape at hinside ⊢
  generalize e'.withoutParens = shape' at hinside ⊢
  cases hinside with
  | call hcallee hargs =>
    have hname := hcallee.identName?_beq hR "require" (by decide)
    rw [Bool.eq_iff_iff, beq_iff_eq, beq_iff_eq] at hname
    simp only [Expr.call.injEq, hargs.eq_string_iff]
    constructor
    · rintro ⟨_, ⟨rfl, hargument⟩, hrequire⟩
      exact ⟨_, ⟨rfl, hargument⟩, hname.mp hrequire⟩
    · rintro ⟨_, ⟨rfl, hargument⟩, hrequire⟩
      exact ⟨_, ⟨rfl, hargument⟩, hname.mpr hrequire⟩
  | _ => simp

/-- A call is for interoperation by the name of its callee and by its having a value to wrap. -/
theorem isInteropCall_eq_any (callee : Expr) (args : List Expr) :
    isInteropCall callee args =
      (callee.calleeName?.any isInteropHelper && (Script.firstValue? args).isSome) := by
  rw [isInteropCall]
  cases callee.calleeName? <;> rfl

/-- Restyled calls are both for interoperation, or neither is. -/
theorem Restyled.isInteropCall (hR : Relabels R) (h : callee.Restyled R callee')
    (hargs : ArgsRestyled R args args') :
    isInteropCall callee args = isInteropCall callee' args' := by
  rw [isInteropCall_eq_any, isInteropCall_eq_any, isSome_eq_of_rel hargs.firstValue?,
    h.any_calleeName? hR fun _ => isSpecial_of_isInteropHelper]

/-- Restyled callees iterate over the keys of restyled values, or neither iterates. -/
theorem Restyled.iteratedKeys? (hR : Relabels R) (h : callee.Restyled R callee') :
    Option.Rel (Expr.Restyled R) (Context.iteratedKeys? callee)
      (Context.iteratedKeys? callee') := by
  have hinside := h.withoutParens
  rw [Context.iteratedKeys?, Context.iteratedKeys?]
  generalize callee.withoutParens = shape at hinside ⊢
  generalize callee'.withoutParens = shape' at hinside ⊢
  cases hinside with
  | @member owner owner' name howner =>
    by_cases hname : name = "forEach"
    · subst hname
      have hcall := howner.withoutParens
      simp only
      generalize owner.withoutParens = inner at hcall ⊢
      generalize owner'.withoutParens = inner' at hcall ⊢
      cases hcall with
      | call hkeys hargs =>
        simp only [hkeys.isMemberOf hR "Object" "keys" (by decide)]
        split
        · exact rel_mono (fun h => h.1) hargs.firstValue?
        · exact .none
      | _ => exact .none
    · simp [hname]
  | _ => exact .none

/-! ## Conditions -/

/-- Restyled operands compare the mode with the same text, or neither pair does. -/
theorem Restyled.comparedMode? (hR : Relabels R) {left left' right right' : Expr}
    (hleft : left.Restyled R left') (hright : right.Restyled R right') :
    comparedMode? left right = comparedMode? left' right' := by
  ext text
  rw [comparedMode?_eq_some_iff, comparedMode?_eq_some_iff, hleft.isNodeEnv hR,
    hright.isNodeEnv hR, hleft.withoutParens_eq_literal_iff, hright.withoutParens_eq_literal_iff]

-- by recursion on what relates the conditions
mutual

/-- Restyled conditions come out alike in every mode. -/
theorem Restyled.holdsIn? (hR : Relabels R) (mode : Mode) : ∀ {e e' : Expr}, e.Restyled R e' →
    e.holdsIn? mode = e'.holdsIn? mode
  | _, _, .bare h => h.holdsIn? hR mode
  | _, _, .wrapped h => h.holdsIn? hR mode

theorem RestyledInside.holdsIn? (hR : Relabels R) (mode : Mode) : ∀ {e e' : Expr},
    e.RestyledInside R e' → e.holdsIn? mode = e'.holdsIn? mode
  | _, _, .paren h => h.holdsIn? hR mode
  | .unary op _, _, .unary h => by
    have hsame := h.holdsIn? hR mode
    cases op <;> simp only [Expr.holdsIn?, hsame]
  | .logical op _ _, _, .logical hleft hright => by
    have hsame := hleft.holdsIn? hR mode
    have hsame' := hright.holdsIn? hR mode
    cases op <;> simp only [Expr.holdsIn?, hsame, hsame']
  | _, _, .binary hleft hright => by
    simp only [Expr.holdsIn?, hleft.comparedMode? hR hright]
  | _, _, .ident _ | _, _, .literal | _, _, .object _ | _, _, .function _ | _, _, .arrow _
  | _, _, .arrowValue _ _ | _, _, .conditional _ _ _ | _, _, .assign _ _ | _, _, .sequence _
  | _, _, .member _ | _, _, .index _ _ | _, _, .call _ _ | _, _, .spread _ | _, _, .chain _
  | _, _, .other _ _ => rfl

end

end Expr

end NamedExports.Script
