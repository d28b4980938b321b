import NamedExports.Proofs.Scan.Condition
import NamedExports.Proofs.Scan.Following
import NamedExports.Proofs.Scan.Lookups
import NamedExports.Proofs.Scan.Regrouping
import NamedExports.Proofs.Scan.Untouched

/-!
# Scopes side by side

Two lists of statements can stand side by side in scopes of their own: in the two branches of an
`if`, in two blocks, in two functions that are called where they are written.  The scan keeps one
table of names for the whole program and no scopes, so it finds what it finds in the one list
followed by the other.  What keeps the lists apart is not the scopes, but the names: lists are
`Compatible` if neither changes what the other looks up, and then the scan finds what it finds in
the one by itself, followed by what it finds in the other by itself.
-/

namespace NamedExports.Script

/-! ## What a program does to a name -/

/-- What a program by itself makes known of a name. -/
def Program.known (program : Program) (mode : Mode) (name : String) : Option Binding :=
  (Bindings.ofProgram mode program).get? name

/-- The keys that a program puts on a name of which it makes nothing known, if the name is known
already. -/
def Program.added (program : Program) (mode : Mode) (name : String) : List String :=
  (((Bindings.empty.set name .unknown).stmts mode program).get? name).elim [] Binding.keys

section Known

variable {program : Program} {mode : Mode} {name : String}

theorem Program.known_of_not_declares (h : ¬ program.Declares name) :
    program.known mode name = none :=
  (Bindings.kept_of_not_declares h).ofProgram rfl mode

/-- A program puts the same keys on a name of which it makes nothing known, whatever is known
before. -/
theorem Program.get?_stmts_of_known_eq_none (h : program.known mode name = none) (b : Bindings) :
    (b.stmts mode program).get? name = (b.get? name).map fun binding =>
      { binding with keys := binding.keys ++ program.added mode name } := by
  obtain ⟨change, hchange, -⟩ := Bindings.stmts_changes mode program name
  have hnone : change.apply none = none := (hchange Bindings.empty).symm.trans h
  cases change with
  | add keys =>
    have hadded : program.added mode name = keys := by
      rw [Program.added, hchange, Bindings.get?_set_self]
      rfl
    rw [hadded, hchange]
    rfl
  | replace binding => cases hnone

/-- It puts no keys on a name that does not stand in it. -/
theorem Program.added_of_not_mem (hmem : .ident name ∉ stmtsNodes program)
    (h : program.known mode name = none) : program.added mode name = [] := by
  rw [Program.added, (Bindings.stmts_changes mode program).get?_of_not_mem h hmem,
    Bindings.get?_set_self]
  rfl

/-- A program leaves a name as it is, as far as a scan can tell: it makes the same known of it, or
it makes nothing known of it and puts no keys on it that would show. -/
def Program.Leaves (program : Program) (mode : Mode) (name : String) (known : Option Binding) :
    Prop :=
  (program.known mode name).map Binding.shown = known.map Binding.shown ∨
    program.known mode name = none ∧
      (known.bind Binding.required = none → program.added mode name = [])

/-- After a program the same shows of a name as before, exactly if the program leaves it as it
is. -/
theorem Program.leaves_iff {b : Bindings} :
    program.Leaves mode name (b.get? name) ↔
      (b.stmts mode program).shown name = b.shown name := by
  rw [Bindings.shown, Bindings.shown, Program.Leaves]
  cases hprogram : program.known mode name with
  | some binding =>
    rw [(Bindings.stmts_changes mode program).get?_of_some hprogram]
    simp
  | none =>
    rw [Program.get?_stmts_of_known_eq_none hprogram]
    cases b.get? name with
    | none => simp
    | some binding => simp [Binding.shown_addKeys_iff]

end Known

/-! ## Parts of a program -/

/-- Each assignment and each call of a part exports the same with the names of the whole program as
with those of the part alone. -/
def Program.Undisturbed (part whole : Program) (mode : Mode) (called : Bool) : Prop :=
  ∀ e ∈ (part.context mode called).stmtsReached part,
    (whole.context mode called).effect e = (part.context mode called).effect e

namespace Program.Undisturbed

variable {part whole : Program} {mode : Mode} {called : Bool}

/-- In an undisturbed part a scan of the whole program finds what it finds in the part alone. -/
theorem stmts_eq (h : part.Undisturbed whole mode called) :
    (whole.context mode called).stmts part = part.findings mode called := by
  have hreached : (whole.context mode called).stmtsReached part =
      (part.context mode called).stmtsReached part := Context.stmtsReached_congr (by rfl) part
  rw [findings, ← context, Context.stmts_eq_effects, Context.stmts_eq_effects, hreached]
  exact congrArg Findings.join (List.map_congr_left h)

/-- A part is undisturbed if the same shows of each name that it looks up. -/
theorem ofShown (h : ∀ name ∈ part.lookups mode,
      (Bindings.ofProgram mode whole).shown name = (Bindings.ofProgram mode part).shown name)
    (called : Bool) : part.Undisturbed whole mode called := by
  intro e he
  have hreached : (part.context mode called).stmtsReached part =
      (⟨mode, false, .empty⟩ : Context).stmtsReached part := Context.stmtsReached_congr (by rfl) part
  rw [hreached] at he
  exact Context.effect_congr ⟨rfl, rfl, fun name hname =>
    h name (List.mem_flatMap.mpr ⟨e, he, hname⟩)⟩

end Program.Undisturbed

/-! ## Lists that do not get in each other's way -/

/-- Two lists of statements, of which neither changes what the other looks up: the second one leaves
the names as they are that a scan of the first one looks up, and the first one makes nothing known
of names that a scan of the second one looks up without making anything known of them. -/
structure Compatible (mode : Mode) (first second : List Stmt) : Prop where
  keepsFirst : ∀ name ∈ Program.lookups first mode,
    Program.Leaves second mode name (Program.known first mode name)
  keepsSecond : ∀ name ∈ Program.lookups second mode,
    Program.known second mode name = none → Program.known first mode name = none

section Compatible

variable {mode : Mode} {first second : List Stmt}

theorem Bindings.ofProgram_append (mode : Mode) (first second : List Stmt) :
    ofProgram mode (first ++ second) = stmts mode (ofProgram mode first) second :=
  stmts_append empty first second

/-- Lists are compatible exactly if of the names that either one looks up one list after the other
shows what that one shows by itself. -/
theorem compatible_iff : Compatible mode first second ↔
    (∀ name ∈ Program.lookups first mode,
      (Bindings.ofProgram mode (first ++ second)).shown name =
        (Bindings.ofProgram mode first).shown name) ∧
    ∀ name ∈ Program.lookups second mode,
      (Bindings.ofProgram mode (first ++ second)).shown name =
        (Bindings.ofProgram mode second).shown name := by
  have hsecond (name : String) :
      (Program.known second mode name = none → Program.known first mode name = none) ↔
        (Bindings.ofProgram mode (first ++ second)).shown name =
          (Bindings.ofProgram mode second).shown name := by
    rw [Bindings.ofProgram_append, Bindings.shown, Bindings.shown]
    cases hknown : Program.known second mode name with
    | some binding =>
      have hsome := (Bindings.stmts_changes mode second).get?_of_some hknown
        (b := .ofProgram mode first)
      have hsame : (Bindings.ofProgram mode second).get? name = some binding := hknown
      simp [hsome, hsame]
    | none =>
      have hsame : (Bindings.ofProgram mode second).get? name = none := hknown
      rw [Program.get?_stmts_of_known_eq_none hknown, hsame]
      simp [Program.known]
  constructor
  · intro h
    refine ⟨fun name hname => ?_, fun name hname => (hsecond name).mp (h.keepsSecond name hname)⟩
    rw [Bindings.ofProgram_append]
    exact Program.leaves_iff.mp (h.keepsFirst name hname)
  · rintro ⟨hfirst, hrest⟩
    refine ⟨fun name hname => ?_, fun name hname => (hsecond name).mpr (hrest name hname)⟩
    have hshown := hfirst name hname
    rw [Bindings.ofProgram_append] at hshown
    exact Program.leaves_iff.mpr hshown

/-- Compatible lists, one after the other, are both left undisturbed. -/
theorem Compatible.undisturbed (h : Compatible mode first second) (called : Bool) :
    Program.Undisturbed first (first ++ second) mode called ∧
      Program.Undisturbed second (first ++ second) mode called := by
  obtain ⟨hfirst, hsecond⟩ := compatible_iff.mp h
  exact ⟨.ofShown hfirst called, .ofShown hsecond called⟩

/-- Two lists of statements, of which neither mentions a name that the other declares. -/
structure NamesApart (first second : List Stmt) : Prop where
  declaredFirst : ∀ name, Program.Declares first name → .ident name ∉ stmtsNodes second
  declaredSecond : ∀ name, Program.Declares second name → .ident name ∉ stmtsNodes first

/-- Lists that keep to names of their own are compatible. -/
theorem NamesApart.compatible (h : NamesApart first second) (mode : Mode) :
    Compatible mode first second where
  keepsFirst name hname := by
    -- the second list does not declare the name, and if the first one does, it does not mention it
    have hsecond : Program.known second mode name = none :=
      Program.known_of_not_declares fun hdeclares =>
        h.declaredSecond name hdeclares (Program.ident_of_mem_lookups hname)
    by_cases hdeclares : Program.Declares first name
    · have hadded := Program.added_of_not_mem (h.declaredFirst name hdeclares) hsecond
      exact Or.inr ⟨hsecond, fun _ => hadded⟩
    · rw [Program.known_of_not_declares hdeclares]
      exact Or.inl (congrArg (Option.map Binding.shown) hsecond)
  keepsSecond name hname _ :=
    Program.known_of_not_declares fun hdeclares =>
      h.declaredFirst name hdeclares (Program.ident_of_mem_lookups hname)

end Compatible

/-! ## Lists in scopes of their own -/

/-- A program of two lists of statements that stand side by side, each in a scope of its own. -/
inductive SideBySide (first second : List Stmt) : Program → Prop where
  /-- `if (test) { … } else { … }`, where the test is not about the mode. -/
  | branches {test : Expr} (htest : ∀ e ∈ test.nodes, e.isNodeEnv = false) :
      SideBySide first second [.ifThen test (.block first) (some (.block second))]
  /-- `{ … } { … }` -/
  | blocks : SideBySide first second [.block first, .block second]
  /-- `(function () { … })(); (function () { … })();` -/
  | functions {e f : Expr} (he : e.immediate?.map Code.body = some first)
      (hf : f.immediate?.map Code.body = some second) :
      SideBySide first second [.expr e, .expr f]

/-- Both looks go through the lists side by side as through one list after the other. -/
theorem SideBySide.seenAlike {first second : List Stmt} {program : Program}
    (h : SideBySide first second program) : SeenAlike (first ++ second) program := by
  have happend {s t : Stmt} (hs : SeenAlike first [s]) (ht : SeenAlike second [t]) :
      SeenAlike (first ++ second) [s, t] := by
    have hleft : SeenAlike (first ++ second) ([s] ++ second) := hs.among [] second
    have hright : SeenAlike ([s] ++ second) ([s] ++ [t]) := by
      simpa using ht.among [s] []
    exact hleft.trans hright
  cases h with
  | @branches test htest =>
    have hunknown (mode : Mode) : test.holdsIn? mode = none := Expr.holdsIn?_eq_none htest
    refine .ofStmt (fun mode b => ?_) fun c => ?_
    · rw [Bindings.stmts_append, Bindings.stmt, hunknown]
      rfl
    · rw [Context.stmts_append, Context.stmt, hunknown]
      rfl
  | blocks => exact happend (.ofGroups .block) (.ofGroups .block)
  | functions he hf => exact happend (.ofImmediate he) (.ofImmediate hf)

/-- A scan takes no notice of the scopes: of two lists of statements side by side it finds what it
finds in one list after the other.  That is what it finds in the one by itself, followed by what it
finds in the other by itself, if neither disturbs what the other exports.  Neither does if it leaves
what the other looks up as it is, and so it is if neither mentions a name that the other declares. -/
theorem Program.findings_sideBySide {first second : List Stmt} {program : Program}
    (h : SideBySide first second program) (mode : Mode) (called : Bool) :
    program.findings mode called = Program.findings (first ++ second) mode called ∧
    (Program.Undisturbed first (first ++ second) mode called ∧
        Program.Undisturbed second (first ++ second) mode called →
      program.findings mode called =
        Program.findings first mode called ++ Program.findings second mode called) ∧
    (Compatible mode first second →
      Program.Undisturbed first (first ++ second) mode called ∧
        Program.Undisturbed second (first ++ second) mode called) ∧
    (NamesApart first second → Compatible mode first second) := by
  have hjoined := (h.seenAlike.findings_eq mode called).symm
  refine ⟨hjoined, fun ⟨hfirst, hsecond⟩ => ?_, fun hcompatible => ?_, fun hapart => ?_⟩
  · rw [hjoined, ← hfirst.stmts_eq, ← hsecond.stmts_eq]
    exact Context.stmts_append first second
  · exact hcompatible.undisturbed called
  · exact hapart.compatible mode

/-- `const t = { key: 0 }; const name = require('specifier'); module.exports = name;` -/
def forwarding (key name specifier : String) : List Stmt :=
  [.declare .const [.mk (.ident "t")
      (some (.object [.property (.literal (.string key)) (.literal (.number "0"))]))],
    .declare .const [.mk (.ident name)
      (some (.call (.ident "require") [.literal (.string specifier)]))],
    .expr (.assign .plain (.member (.ident "module") "exports") (.ident name))]

/-- Besides `require` and `module` these statements use names that they declare. -/
theorem mem_of_ident_mem_forwarding {key name specifier other : String}
    (h : .ident other ∈ stmtsNodes (forwarding key name specifier)) :
    other ∈ ["t", name, "require", "module"] := by
  simp only [forwarding, stmtsNodes, Stmt.nodes, declaratorsNodes, Expr.inside, exprsNodes,
    membersNodes, List.cons_append, List.nil_append, List.append_nil, List.mem_cons,
    Expr.ident.injEq, reduceCtorEq, false_or, List.not_mem_nil, or_false] at h
  rcases h with rfl | rfl | rfl | rfl | rfl <;> simp

/-- `let name; exports.f = name;` -/
def keeping (name : String) : List Stmt :=
  [.declare .let [.mk (.ident name) none],
    .expr (.assign .plain (.member (.ident "exports") "f") (.ident name))]

/-- `if (flag) { … x … } else { let x; … }`: the second list has an `x` of its own, of which it makes
nothing known. -/
def keepingInBranches : Program :=
  [.ifThen (.ident "flag") (.block (forwarding "k" "x" "a")) (some (.block (keeping "x")))]

/-- `(function () { … x … })(); (function () { let y; … })();`: the lists have no name in common. -/
def keepingInFunctions : Program :=
  [.expr (immediately (forwarding "k" "x" "a")), .expr (immediately (keeping "y"))]

/-- The module that the first list forwards is found beside the key of the second list. -/
theorem findings_keeping :
    SideBySide (forwarding "k" "x" "a") (keeping "x") keepingInBranches ∧
      Compatible .production (forwarding "k" "x" "a") (keeping "x") ∧
      keepingInBranches.findings .production false = ⟨["f"], ["a"]⟩ ∧
      SideBySide (forwarding "k" "x" "a") (keeping "y") keepingInFunctions ∧
      NamesApart (forwarding "k" "x" "a") (keeping "y") ∧
      keepingInFunctions.findings .production false = ⟨["f"], ["a"]⟩ := by
  have hbranches : SideBySide (forwarding "k" "x" "a") (keeping "x") keepingInBranches :=
    .branches (by decide)
  have hcompatible : Compatible .production (forwarding "k" "x" "a") (keeping "x") := by
    refine ⟨fun name hname => Or.inr ?_, fun name hname => nomatch hname⟩
    obtain rfl : name = "x" := List.mem_singleton.mp hname
    exact ⟨rfl, fun _ => rfl⟩
  have hfunctions : SideBySide (forwarding "k" "x" "a") (keeping "y") keepingInFunctions :=
    .functions rfl rfl
  have hapart : NamesApart (forwarding "k" "x" "a") (keeping "y") := by
    refine ⟨fun name hdeclares hmem => ?_, fun name hdeclares hmem => ?_⟩
    · have hname : name = "y" ∨ name = "exports" ∨ name = "y" := by
        simpa [keeping, stmtsNodes, Stmt.nodes, declaratorsNodes, Expr.inside] using hmem
      rcases hname with rfl | rfl | rfl <;>
        exact Program.not_declares_of_flat (by decide) (by decide) hdeclares
    · have hname := mem_of_ident_mem_forwarding hmem
      simp only [List.mem_cons, List.not_mem_nil, or_false] at hname
      rcases hname with rfl | rfl | rfl | rfl <;>
        exact Program.not_declares_of_flat (by decide) (by decide) hdeclares
  refine ⟨hbranches, hcompatible, ?_, hfunctions, hapart, ?_⟩
  · obtain ⟨-, hequal, hundisturbed, -⟩ := Program.findings_sideBySide hbranches .production false
    rw [hequal (hundisturbed hcompatible)]
    rfl
  · obtain ⟨-, hequal, hundisturbed, hkept⟩ :=
      Program.findings_sideBySide hfunctions .production false
    rw [hequal (hundisturbed (hkept hapart))]
    rfl

/-- Two lists that use `x` for different modules, each of which declares `x` for itself: whatever
scopes they stand in, the second module is found twice and the first one not at all. -/
theorem findings_forwarding_clash :
    (∀ specifier name, .ident name ∈ stmtsNodes (forwarding "k" "x" specifier) →
      name ∈ ["t", "x", "require", "module"]) ∧
    Program.findings (forwarding "k" "x" "a") .production false ++
      Program.findings (forwarding "k" "x" "b") .production false = ⟨[], ["a", "b"]⟩ ∧
    Program.findings [.ifThen (.ident "flag") (.block (forwarding "k" "x" "a"))
      (some (.block (forwarding "k" "x" "b")))] .production false = ⟨[], ["b", "b"]⟩ ∧
    Program.findings [.block (forwarding "k" "x" "a"), .block (forwarding "k" "x" "b")]
      .production false = ⟨[], ["b", "b"]⟩ ∧
    Program.findings [.expr (immediately (forwarding "k" "x" "a")),
      .expr (immediately (forwarding "k" "x" "b"))] .production false = ⟨[], ["b", "b"]⟩ ∧
    (⟨[], ["b", "b"]⟩ : Findings) ≠ ⟨[], ["a", "b"]⟩ :=
  ⟨fun _ _ => mem_of_ident_mem_forwarding, rfl, rfl, rfl, rfl, by decide⟩

end NamedExports.Script
