import NamedExports.Proofs.Scan.Forwarding
import NamedExports.Proofs.Scan.Origins
import NamedExports.Proofs.Scan.Separation
import NamedExports.Proofs.Scan.Untouched

/-!
# Object literals behind a variable

An object literal can be given to `module.exports` on the spot, or a variable can be declared with
it and the variable be given.  On the spot the second look goes into the literal, and it sees
through every value that is spread into it.  Behind a variable the first look goes into it, and it
only sees the modules that are required in the literal itself.  `Program.findings_literal` says that the two
ways export the same exactly if nothing is lost that way.
-/

namespace NamedExports

/-! ## Findings among others -/

namespace Findings

/-- What is found is among what else is found, in any order. -/
structure Within (a b : Findings) : Prop where
  exports : a.exports ⊆ b.exports
  reexports : a.reexports ⊆ b.reexports

/-- The same is found, in any order and any number of times. -/
structure SameSets (a b : Findings) : Prop where
  exports : ∀ name, name ∈ a.exports ↔ name ∈ b.exports
  reexports : ∀ target, target ∈ a.reexports ↔ target ∈ b.reexports

variable {a b c : Findings}

theorem Within.refl (a : Findings) : a.Within a := ⟨List.Subset.refl _, List.Subset.refl _⟩

theorem Within.empty (a : Findings) : Within ∅ a := ⟨List.nil_subset _, List.nil_subset _⟩

/-- Findings one after the other are within others if both are. -/
theorem append_within_iff : (a ++ b).Within c ↔ a.Within c ∧ b.Within c := by
  constructor
  · rintro ⟨hexports, hreexports⟩
    rw [exports_append, List.append_subset] at hexports
    rw [reexports_append, List.append_subset] at hreexports
    exact ⟨⟨hexports.1, hreexports.1⟩, ⟨hexports.2, hreexports.2⟩⟩
  · rintro ⟨ha, hb⟩
    exact ⟨List.append_subset.mpr ⟨ha.exports, hb.exports⟩,
      List.append_subset.mpr ⟨ha.reexports, hb.reexports⟩⟩

/-- The same for any number of findings. -/
theorem join_within_iff {all : List Findings} :
    (join all).Within c ↔ ∀ found ∈ all, found.Within c := by
  induction all with
  | nil => simp [Within.empty]
  | cons first rest ih => rw [join_cons, append_within_iff, ih, List.forall_mem_cons]

theorem Within.append_left (h : a.Within b) (c : Findings) : a.Within (b ++ c) :=
  ⟨List.subset_append_of_subset_left _ h.exports, List.subset_append_of_subset_left _ h.reexports⟩

theorem Within.append_right (h : a.Within c) (b : Findings) : a.Within (b ++ c) :=
  ⟨List.subset_append_of_subset_right _ h.exports,
    List.subset_append_of_subset_right _ h.reexports⟩

/-- The same sets are found exactly if each is within the other. -/
theorem sameSets_iff : a.SameSets b ↔ a.Within b ∧ b.Within a := by
  constructor
  · intro h
    exact ⟨⟨fun name => (h.exports name).mp, fun target => (h.reexports target).mp⟩,
      ⟨fun name => (h.exports name).mpr, fun target => (h.reexports target).mpr⟩⟩
  · rintro ⟨hab, hba⟩
    exact ⟨fun name => ⟨@hab.exports name, @hba.exports name⟩,
      fun target => ⟨@hab.reexports target, @hba.reexports target⟩⟩

end Findings

namespace Script

/-! ## The two ways -/

/-- `program; var name = { … }; module.exports = name;` -/
def Program.throughVariable (program : Program) (kind : DeclKind) (name : String)
    (members : List Member) : Program :=
  program ++ [.declare kind [.mk (.ident name) (some (.object members))],
    .expr (exporting (.ident name))]

/-- `program; module.exports = { … };` -/
def Program.inPlace (program : Program) (members : List Member) : Program :=
  program ++ [.expr (exporting (.object members))]

/-- The modules that are required in the spread entries of an object literal. -/
def spreadModules (members : List Member) : List String :=
  (spreadOperands members).filterMap Expr.requiredSpecifier?

namespace Context

variable {c : Context}

/-- What a variable exports that holds an object literal. -/
theorem named_of_literal {name : String} {members : List Member}
    (h : c.lookup name = some (.ofValue (.object members))) :
    c.named false name = .names (staticKeys members) ++
      .join ((spreadModules members).map (Findings.reexport · false)) := by
  rw [named, h]
  rfl

/-- The modules that are required in the literal itself are all that a variable keeps of what the
literal spreads. -/
theorem modules_within_spreads (members : List Member) :
    (Findings.join ((spreadModules members).map (Findings.reexport · false))).Within
      (.join ((spreadOperands members).map c.spread)) := by
  rw [Findings.join_within_iff, List.forall_mem_map]
  intro specifier hspecifier
  obtain ⟨operand, hoperand, hrequired⟩ := List.mem_filterMap.mp hspecifier
  have hspread := Findings.join_within_iff.mp (Findings.Within.refl _) (c.spread operand)
    (List.mem_map_of_mem hoperand)
  rwa [spread_of_requiredSpecifier? hrequired] at hspread

/-- Where every spread entry requires a module, nothing of it is lost. -/
theorem spreads_eq_modules {members : List Member}
    (h : ∀ operand ∈ spreadOperands members, operand.requiredSpecifier? ≠ none) :
    (spreadOperands members).map c.spread =
      (spreadModules members).map (Findings.reexport · false) := by
  rw [spreadModules]
  generalize spreadOperands members = operands at h ⊢
  induction operands with
  | nil => rfl
  | cons first rest ih =>
    rw [List.forall_mem_cons] at h
    obtain ⟨specifier, hspecifier⟩ := Option.ne_none_iff_exists'.mp h.1
    rw [List.map_cons, List.filterMap_cons_some hspecifier, List.map_cons, ih h.2,
      spread_of_requiredSpecifier? hspecifier]

end Context

section Ways

variable {program : Program} {name : String} {mode : Mode} {kind : DeclKind}
  {members : List Member}

/-- The first look at a program with the literal in its place knows no more names. -/
theorem bindings_inPlace (program : Program) (members : List Member) (mode : Mode) :
    Bindings.ofProgram mode (program.inPlace members) =
      (Bindings.ofProgram mode program).addKeys "module" ["exports"] :=
  Bindings.stmts_append .empty program _

/-- The first look at a program with the literal in a variable knows the variable. -/
theorem bindings_throughVariable (program : Program) (kind : DeclKind) (name : String)
    (members : List Member) (mode : Mode) :
    Bindings.ofProgram mode (program.throughVariable kind name members) =
      ((Bindings.ofProgram mode program).set name (.ofValue (.object members))).addKeys "module"
        ["exports"] :=
  Bindings.stmts_append .empty program _

/-- The variable's declaration changes nothing but what is known of the variable. -/
theorem get?_throughVariable_of_ne {other : String} (h : other ≠ name) :
    (Bindings.ofProgram mode (program.throughVariable kind name members)).get? other =
      (Bindings.ofProgram mode (program.inPlace members)).get? other := by
  rw [bindings_throughVariable, bindings_inPlace, Bindings.addKeys, Bindings.addKeys]
  simp only [Bindings.get?_set_of_ne h]

/-- The variable is known for the literal. -/
theorem get?_throughVariable_self (h : name ≠ "module") :
    (Bindings.ofProgram mode (program.throughVariable kind name members)).get? name =
      some (.ofValue (.object members)) := by
  rw [bindings_throughVariable, Bindings.get?_addKeys_of_ne h, Bindings.get?_set_self]

/-- What is found where the literal stands in place. -/
theorem findings_inPlace (program : Program) (members : List Member) (mode : Mode) :
    (program.inPlace members).findings mode false =
      (Program.context (program.inPlace members) mode false).stmts program ++
        (.names (staticKeys members) ++ .join ((spreadOperands members).map
          (Program.context (program.inPlace members) mode false).spread)) := by
  refine (Context.stmts_append program _).trans (congrArg (_ ++ ·) ?_)
  show Context.value _ false (.object members) ++ ∅ ++ ∅ = _
  rw [Findings.append_empty, Findings.append_empty]
  rfl

/-- What is found where the literal stands behind a fresh variable. -/
theorem findings_throughVariable (hfresh : .ident name ∉ stmtsNodes program)
    (hmodule : name ≠ "module") (kind : DeclKind) (members : List Member) (mode : Mode) :
    (program.throughVariable kind name members).findings mode false =
      (Program.context (program.inPlace members) mode false).stmts program ++
        (.names (staticKeys members) ++
          .join ((spreadModules members).map (Findings.reexport · false))) := by
  -- the program does not look the variable up, so it is scanned alike
  have hprogram : (Program.context (program.throughVariable kind name members) mode false).stmts
      program = (Program.context (program.inPlace members) mode false).stmts program := by
    refine Context.stmts_congr ⟨rfl, rfl, fun other hother => ?_⟩
    refine congrArg (Option.map Binding.shown) (get?_throughVariable_of_ne ?_)
    rintro rfl
    exact hfresh (Program.ident_of_mem_lookups hother)
  have hvariable : (Program.context (program.throughVariable kind name members) mode
      false).lookup name = some (.ofValue (.object members)) := get?_throughVariable_self hmodule
  rw [← Context.named_of_literal hvariable, ← hprogram]
  refine (Context.stmts_append program _).trans (congrArg (_ ++ ·) ?_)
  show ∅ ++ (Context.named _ false name ++ ∅ ++ ∅) = _
  rw [Findings.append_empty, Findings.append_empty]
  rfl

end Ways

/-- Behind a fresh variable no more is found of an object literal than in place.  The same is found
exactly if whatever the literal spreads that is no call of `require` only copies what is found
anyway.  In particular it is found in the same order where the literal only spreads such calls. -/
theorem Program.findings_literal {program : Program} {name : String}
    (hfresh : .ident name ∉ stmtsNodes program) (hmodule : name ≠ "module") (kind : DeclKind)
    (members : List Member) (mode : Mode) :
    ((program.throughVariable kind name members).findings mode false).Within
        ((program.inPlace members).findings mode false) ∧
      (((program.throughVariable kind name members).findings mode false).SameSets
          ((program.inPlace members).findings mode false) ↔
        ∀ operand ∈ spreadOperands members, operand.requiredSpecifier? = none →
          ((Program.context (program.inPlace members) mode false).spread operand).Within
            ((program.throughVariable kind name members).findings mode false)) ∧
      ((∀ operand ∈ spreadOperands members, operand.requiredSpecifier? ≠ none) →
        (program.throughVariable kind name members).findings mode false =
          (program.inPlace members).findings mode false) := by
  have hthrough := findings_throughVariable hfresh hmodule kind members mode
  have hplace := findings_inPlace program members mode
  have hwithin : ((program.throughVariable kind name members).findings mode false).Within
      ((program.inPlace members).findings mode false) := by
    rw [hthrough, hplace, Findings.append_within_iff, Findings.append_within_iff]
    exact ⟨(Findings.Within.refl _).append_left _,
      ((Findings.Within.refl _).append_left _).append_right _,
      ((Context.modules_within_spreads members).append_right _).append_right _⟩
  refine ⟨hwithin, ?_, fun hrequired => ?_⟩
  · rw [Findings.sameSets_iff, and_iff_right hwithin]
    -- of what is found in place, only what the literal spreads may be missing
    have hrest : ∀ operand specifier, operand ∈ spreadOperands members →
        operand.requiredSpecifier? = some specifier →
        ((Program.context (program.inPlace members) mode false).spread operand).Within
          ((program.throughVariable kind name members).findings mode false) := by
      intro operand specifier hoperand hspecifier
      rw [Context.spread_of_requiredSpecifier? hspecifier, hthrough]
      refine (Findings.Within.append_right ?_ _).append_right _
      exact Findings.join_within_iff.mp (Findings.Within.refl _) _
        (List.mem_map_of_mem (List.mem_filterMap.mpr ⟨operand, hoperand, hspecifier⟩))
    rw [hplace, Findings.append_within_iff, Findings.append_within_iff, Findings.join_within_iff,
      List.forall_mem_map]
    constructor
    · rintro ⟨-, -, hspreads⟩ operand hoperand -
      exact hspreads operand hoperand
    · intro hspreads
      refine ⟨?_, ?_, fun operand hoperand => ?_⟩
      · rw [hthrough]
        exact (Findings.Within.refl _).append_left _
      · rw [hthrough]
        exact ((Findings.Within.refl _).append_left _).append_right _
      · cases hspecifier : operand.requiredSpecifier? with
        | none => exact hspreads operand hoperand hspecifier
        | some specifier => exact hrest operand specifier hoperand hspecifier
  · rw [hthrough, hplace, Context.spreads_eq_modules hrequired]

/-- `var x = require('a');` -/
def requiring : Program := [.declare .var [.mk (.ident "x") (some (requireCall "a"))]]

/-- `{ k: 1, ...require('b') }` -/
def spreadingModule : List Member :=
  [.property (.literal (.string "k")) (.literal (.number "1")), .spread (requireCall "b")]

/-- A module that is required in the literal is found behind the variable. -/
theorem findings_literal_spreadingModule :
    .ident "v" ∉ stmtsNodes requiring ∧ "v" ≠ "module" ∧
      (requiring.throughVariable .var "v" spreadingModule).findings .production false =
        ⟨["k"], ["b"]⟩ := by
  have hfresh : .ident "v" ∉ stmtsNodes requiring := by
    simp [requiring, stmtsNodes, Stmt.nodes, declaratorsNodes, requireCall, Expr.inside, exprsNodes]
  have hmodule : "v" ≠ "module" := by decide
  have hall : ∀ operand ∈ spreadOperands spreadingModule, operand.requiredSpecifier? ≠ none := by
    intro operand hoperand
    rw [List.mem_singleton.mp hoperand]
    exact Option.some_ne_none _
  refine ⟨hfresh, hmodule, ?_⟩
  rw [(Program.findings_literal hfresh hmodule .var spreadingModule .production).2.2 hall]
  rfl

/-- A module that is required by a name which the literal spreads is found in place, and is lost
behind the variable. -/
theorem findings_literal_ne :
    .ident "v" ∉ stmtsNodes requiring ∧ "v" ≠ "module" ∧
      (requiring.throughVariable .var "v" [.spread (.ident "x")]).findings .production false =
        ∅ ∧
      (requiring.inPlace [.spread (.ident "x")]).findings .production false = ⟨[], ["a"]⟩ ∧
      ¬ Findings.SameSets ∅ ⟨[], ["a"]⟩ := by
  refine ⟨?_, by decide, rfl, rfl, fun h => ?_⟩
  · simp [requiring, stmtsNodes, Stmt.nodes, declaratorsNodes, requireCall, Expr.inside, exprsNodes]
  · have hmem : "a" ∈ (∅ : Findings).reexports := (h.reexports "a").mpr List.mem_cons_self
    cases hmem

end Script

end NamedExports
