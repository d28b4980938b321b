import NamedExports.Proofs.Scan.Attached
import NamedExports.Proofs.Scan.Following
import NamedExports.Proofs.Scan.Forwarding
import NamedExports.Proofs.Scan.Listing
import NamedExports.Proofs.Scan.Separation

/-!
# Function declarations that stand late

A function is known by its name in the whole program, wherever its declaration stands.  The first
look at a program goes by the order of the text: it drops a property that is put on the function
before the declaration comes.  So a declaration can be moved to the front exactly if nothing is put
on the function before it, or if a scan never lists the function's properties:
`Program.findings_hoisted`.
-/

namespace NamedExports.Script

variable {mode : Mode} {name : String} {code : Code} {before after : List Stmt}

/-- A program that does not declare a name puts the same keys on it, whatever is known before. -/
theorem Program.gains_added {program : Program} (h : ¬ program.Declares name) :
    Bindings.Gains name (program.added mode name) (Bindings.stmts mode · program) :=
  Program.get?_stmts_of_known_eq_none (Program.known_of_not_declares h)

/-- What a declared function is known to hold. -/
def Code.binding (code : Code) : Binding := { Binding.unknown with returns := code.returnedKeys }

theorem Bindings.stmt_function (hname : code.name = some name) (b : Bindings) :
    b.stmt mode (.function code) = b.set name code.binding := by
  rw [Bindings.stmt, hname]
  rfl

/-- Where the declaration stands in front, the same is known as where it stands late, and besides
the keys that are put on the function before the late one. -/
theorem ahead_of_hoisting (hname : code.name = some name) (hbefore : ¬ Program.Declares before name)
    (hafter : ¬ Program.Declares after name) (mode : Mode) (called : Bool) :
    Context.Ahead name (Program.added before mode name)
      ⟨mode, called, .ofProgram mode (before ++ .function code :: after)⟩
      ⟨mode, called, .ofProgram mode (.function code :: (before ++ after))⟩ := by
  have hlate : Bindings.ofProgram mode (before ++ .function code :: after) =
      (((Bindings.empty.stmts mode before).set name code.binding).stmts mode after) := by
    rw [Bindings.ofProgram, Bindings.stmts_append, Bindings.stmts, Bindings.stmt_function hname]
  have hearly : Bindings.ofProgram mode (.function code :: (before ++ after)) =
      (((Bindings.empty.set name code.binding).stmts mode before).stmts mode after) := by
    rw [Bindings.ofProgram, Bindings.stmts, Bindings.stmt_function hname, Bindings.stmts_append]
  rw [hlate, hearly]
  refine ⟨rfl, rfl, fun other hother => ?_, ?_⟩
  -- any other name fares as it does without the declaration
  · obtain ⟨first, hfirst, -⟩ := Bindings.stmts_changes mode before other
    obtain ⟨second, hsecond, -⟩ := Bindings.stmts_changes mode after other
    show (Bindings.stmts _ _ _).get? other = (Bindings.stmts _ _ _).get? other
    rw [hsecond, Bindings.get?_set_of_ne hother, hfirst, hsecond, hfirst,
      Bindings.get?_set_of_ne hother]
  · refine ⟨{ code.binding with keys := Program.added after mode name }, ?_, rfl, ?_⟩
    · show (Bindings.stmts _ _ _).get? name = _
      rw [Program.gains_added hafter, Bindings.get?_set_self]
      rfl
    · show (Bindings.stmts _ _ _).get? name = _
      rw [Program.gains_added hafter, Program.gains_added hbefore, Bindings.get?_set_self]
      rfl

/-- The scan with a late declaration lacks the keys that are put on the function before it, once for
each time that a scan lists the function's keys, and it lacks nothing else.  So it is the scan with
the declaration in front exactly if there are no such keys or the function's keys are not listed. -/
theorem Program.findings_hoisted (hname : code.name = some name)
    (hbefore : ¬ Program.Declares before name) (hafter : ¬ Program.Declares after name)
    (mode : Mode) (called : Bool) :
    (Program.findings (before ++ .function code :: after) mode called =
        Program.findings (.function code :: (before ++ after)) mode called ↔
      Program.added before mode name = [] ∨
        name ∉ Program.listed (before ++ after) mode called) ∧
    Findings.Lacks (Program.added before mode name)
      ((Program.listed (before ++ after) mode called).count name)
      (Program.findings (before ++ .function code :: after) mode called)
      (Program.findings (.function code :: (before ++ after)) mode called) := by
  have hlacks := Context.stmts_lacks (ahead_of_hoisting hname hbefore hafter mode called)
    (before ++ after)
  -- the declaration itself exports nothing
  have hlate : Program.findings (before ++ .function code :: after) mode called =
      Context.stmts ⟨mode, called, .ofProgram mode (before ++ .function code :: after)⟩
        (before ++ after) := by
    rw [Program.findings, Context.stmts_append, Context.stmts_append]
    rfl
  rw [← hlate] at hlacks
  refine ⟨?_, hlacks⟩
  rw [← List.count_eq_zero]
  exact hlacks.eq_iff

/-- `function f() { return { made: 1 }; }` -/
def making : Code :=
  .mk (some "f") false false []
    [.return (some (.object [.property (.literal (.string "made")) (.literal (.number "1"))]))]

/-- `name.key = 1;` -/
def putting (name key : String) : Stmt :=
  .expr (.assign .plain (.member (.ident name) key) (.literal (.number "1")))

/-- `exports.a = 1; g.k = 1;` -/
def puttingElsewhere : List Stmt := [putting "exports" "a", putting "g" "k"]

/-- `f.k = 1; module.exports = f;` -/
def puttingThenGiving : List Stmt := [putting "f" "k", .expr (exporting (.ident "f"))]

/-- What is put on the function after its declaration is found, wherever the declaration stands. -/
theorem findings_hoisted_puttingThenGiving :
    ¬ Program.Declares puttingElsewhere "f" ∧ ¬ Program.Declares puttingThenGiving "f" ∧
      Program.findings (puttingElsewhere ++ .function making :: puttingThenGiving) .production
        false = .names ["a", "k"] := by
  have hbefore : ¬ Program.Declares puttingElsewhere "f" :=
    Program.not_declares_of_flat (by decide) (by decide)
  have hafter : ¬ Program.Declares puttingThenGiving "f" :=
    Program.not_declares_of_flat (by decide) (by decide)
  refine ⟨hbefore, hafter, ?_⟩
  have hname : making.name = some "f" := rfl
  have hmoved := (Program.findings_hoisted hname hbefore hafter .production false).1
  rw [hmoved.mpr (Or.inl rfl)]
  rfl

/-- What is put on the function before its declaration is lost, and it is found when the
declaration stands in front. -/
theorem findings_hoisted_ne :
    ¬ Program.Declares [putting "f" "k"] "f" ∧
      ¬ Program.Declares [.expr (exporting (.ident "f"))] "f" ∧
      Program.findings ([putting "f" "k"] ++ .function making :: [.expr (exporting (.ident "f"))])
          .production false = ∅ ∧
      Program.findings (.function making :: ([putting "f" "k"] ++ [.expr (exporting (.ident "f"))]))
          .production false = .names ["k"] ∧
      (∅ : Findings) ≠ .names ["k"] := by
  refine ⟨?_, ?_, rfl, rfl, by decide⟩
  · exact Program.not_declares_of_flat (by decide) (by decide)
  · exact Program.not_declares_of_flat (by decide) (by decide)

end NamedExports.Script
