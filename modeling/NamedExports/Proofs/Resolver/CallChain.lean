import NamedExports.CommandLine.Command
import NamedExports.Proofs.Resolver
import NamedExports.Proofs.Scan.Forwarding
import NamedExports.Proofs.Traversal.Discipline
import NamedExports.Proofs.Traversal.Unfolding

/-!
# Calls that are passed on

An entry may export what calling another module returns.  That module may pass the call on to a
further one, and so on, until a module answers it with a factory.  `Answers` follows such modules
from file to file; the answer is what the entry exports, however many modules pass the call on.
-/

namespace NamedExports

open Script (Given Program)

/-- What a path holds is read, and then scanned as a program is. -/
def Collaborators.Holds (c : Collaborators) (mode : Mode) (path : Path) (program : Program) :
    Prop :=
  ∃ source, c.read path = .ok source ∧
    ∀ called, c.scan path source mode called = .ok (program.findings mode called)

/-- The module at a path, when it is called, answers with an object with these keys, once so many
modules have passed the call on. -/
inductive Answers (c : Collaborators) (mode : Mode) (keys : List String) : Nat → Path → Prop
  | creates {path : Path} {program : Program} (isModule : path.isJson = false)
      (holds : c.Holds mode path program) (gives : program.Gives mode (.factory keys)) :
      Answers c mode keys 0 path
  | passes {count : Nat} {path next : Path} {program : Program} {specifier : String}
      (isModule : path.isJson = false) (holds : c.Holds mode path program)
      (gives : program.Gives mode (.module specifier))
      (resolved : c.resolve (Traversal.directoryOf path) specifier = .ok next)
      (answers : Answers c mode keys count next) : Answers c mode keys (count + 1) path

variable {c : Collaborators} {mode : Mode} {keys : List String} {count : Nat} {path next : Path}
  {program : Program} {specifier : String} {called : Bool}

theorem Answers.isJson_eq_false (h : Answers c mode keys count path) : path.isJson = false := by
  cases h with
  | creates isModule holds gives => exact isModule
  | passes isModule holds gives resolved answers => exact isModule

namespace Traversal

/-- The tree of a module in which nothing is found but a call has one child, that of the module that
is called. -/
theorem Unfolds.of_reexport {child : Tree} (hholds : c.Holds mode path program)
    (hfound : program.findings mode called = .reexport specifier true)
    (hresolve : c.resolve (directoryOf path) specifier = .ok next)
    (hmodule : next.isJson = false) (hchild : Unfolds c mode ⟨next, true⟩ child) :
    Unfolds c mode ⟨path, called⟩ (.node [] [] [child]) := by
  obtain ⟨source, hread, hscan⟩ := hholds
  have hscanned : c.scan path source mode called = .ok (.reexport specifier true) := by
    rw [hscan, hfound]
  -- the marker of the call is written by the scan and read back by the traversal
  have hdecode := Reexport.decode_encode_of_called specifier
  have hleads : Leads c (directoryOf path) (Findings.reexport specifier true).reexports []
      [⟨next, (Reexport.decode (Reexport.mk specifier true).encode).called⟩] :=
    .module (by rw [hdecode, hresolve]) hmodule .nil
  rw [hdecode] at hleads
  have htree : Unfolds c mode ⟨path, called⟩
      (.node (Findings.reexport specifier true).exports [] [child]) :=
    .node hread hscanned hleads (.cons hchild .nil)
  exact htree

end Traversal

open Traversal

/-- A call is carried from module to module: its tree is as deep as there are modules, and has the
keys of the last. -/
theorem Answers.exists_tree (h : Answers c mode keys count path) :
    ∃ tree, Unfolds c mode ⟨path, true⟩ tree ∧ tree.size = count + 1 ∧ tree.names = keys := by
  induction h with
  | @creates path program isModule holds gives =>
    obtain ⟨source, hread, hscan⟩ := holds
    have hscanned : c.scan path source mode true = .ok (.names keys) := by
      rw [hscan, Program.findings_of_gives gives]
      rfl
    have htree : Unfolds c mode ⟨path, true⟩ (.node (Findings.names keys).exports [] []) :=
      .node hread hscanned .nil .nil
    exact ⟨_, htree, rfl, by simp [Tree.names, Tree.namesFromLast]⟩
  | @passes count path next program specifier isModule holds gives resolved answers ih =>
    obtain ⟨child, hchild, hsize, hnames⟩ := ih
    refine ⟨.node [] [] [child], ?_, ?_, ?_⟩
    · exact .of_reexport holds (Program.findings_of_gives gives) resolved answers.isJson_eq_false
        hchild
    · simp [Tree.size, Tree.totalSize, hsize]
    · simp [Tree.names, Tree.namesFromLast, hnames]

/-- An entry that exports what calling another module returns exports the legal names among the keys
of the answer, in the order first seen, however many modules pass the call on. -/
theorem Resolver.run_of_answers {r : Resolver} {request : Request} {entry first : Path}
    {specifier : String} {program : Program} {keys : List String} {count : Nat}
    (hentry : r.collaborators.resolve request.buildDirectory request.specifier = .ok entry)
    (hextension : entry.extension? = some "js" ∨ entry.extension? = some "cjs")
    (hholds : r.collaborators.Holds request.mode entry program)
    (hcalls : program.Calls request.mode specifier)
    (hfirst : r.collaborators.resolve (directoryOf entry) specifier = .ok first)
    (hanswers : Answers r.collaborators request.mode keys count first)
    (hkeys : keys ≠ []) (hlimit : count + 2 ≤ r.limit) :
    (r.run request).outcome = .ok ⟨(keys.filter Name.isExportable).eraseDups⟩ := by
  obtain ⟨child, hchild, hsize, hnames⟩ := hanswers.exists_tree
  have htree : Unfolds r.collaborators request.mode ⟨entry, false⟩ (.node [] [] [child]) :=
    .of_reexport hholds (Program.findings_of_calls hcalls) hfirst hanswers.isJson_eq_false hchild
  have hcollect : (collect r.collaborators request.mode r.limit entry).outcome = .ok keys := by
    refine (collect_outcome_eq_ok_iff hextension).mpr ⟨_, htree, ?_, ?_⟩
    · simp only [Tree.size, Tree.totalSize, hsize]
      omega
    · simp [Tree.names, Tree.namesFromLast, hnames]
  -- there are keys, so the entry is not loaded
  have hfall : ¬ r.FallsBack request entry keys := fun hfall => hkeys hfall.2.1
  rw [run_of_resolved hentry, candidates_of_not_fallsBack hcollect hfall]
  show Except.ok (ExportList.ofCandidates keys) = _
  rw [ExportList.ofCandidates_eq]

/-! ## A project that passes a call on -/

/-- An entry that calls a module. -/
def callingText : String := "'use strict'; module.exports = require('./a')();"

/-- A module that passes the call on, in production to what a variable holds. -/
def passingText : String :=
  "var b = _interopRequireDefault(require('./b')); " ++
    "module.exports = process.env.NODE_ENV === 'production' ? b : 0;"

/-- A module that answers the call by a declared function. -/
def answeringText : String :=
  "exports.k = 1; module.exports = make; " ++
    "function make() \x7b return \x7b alpha: 1, default: 2 \x7d \x7d"

/-- The three modules on a disk, from where nothing can be run. -/
def callingHost : Host where
  disk :=
    { entries := [(["p".toList], .directory),
        (["p".toList, "index.js".toList], .file (Text.Utf8.encode callingText.toList) false),
        (["p".toList, "a.js".toList], .file (Text.Utf8.encode passingText.toList) false),
        (["p".toList, "b.js".toList], .file (Text.Utf8.encode answeringText.toList) false)]
      workingDirectory := [] }
  environment := []
  processors := 1
  runner _ := .error .notFound
  workerError _ := none
  outputError := none

/-- What the text of the entry is read as. -/
def callingProgram : Program :=
  [.expr (.literal (.string "use strict")),
    .expr (Script.exporting (.call (Script.requireCall "./a") []))]

/-- `function make() { return { alpha: 1, default: 2 } }` -/
def answeringCode : Script.Code :=
  .mk (some "make") false false [] [.return (some (.object
    [.property (.literal (.string "alpha")) (.literal (.number "1")),
      .property (.literal (.string "default")) (.literal (.number "2"))]))]

/-- The variable beside the assignment that passes the call on. -/
def besidePassing : List Script.Aside :=
  [.holder .var "b" (.call (.ident "_interopRequireDefault") [Script.requireCall "./b"])
    (.module "./b") (.wrapped ⟨"_interopRequireDefault", rfl, by decide⟩)]

/-- `process.env.NODE_ENV === 'production' ? b : 0` -/
def passed : Script.Expr :=
  .conditional (.binary .strictEqual (.member (.member (.ident "process") "env") "NODE_ENV")
    (.literal (.string "production"))) (.ident "b") (.literal (.number "0"))

/-- A property in front of the assignment that answers the call. -/
def beforeAnswering : List Script.Aside :=
  [.property (.member (.ident "exports") "k") "k" (.number "1") (.member (Or.inl rfl))]

/-- The function behind it. -/
def afterAnswering : List Script.Aside :=
  [.factory answeringCode "make" ["alpha", "default"] rfl ⟨_, rfl, _, rfl, rfl⟩]

/-- The call is passed on once and answered, and of the two keys one is legal. -/
theorem run_of_passed_call :
    ((Settings.standard 1).collaborators callingHost).Holds .production "/p/index.js"
        callingProgram ∧
      callingProgram.Calls .production "./a" ∧
      Answers ((Settings.standard 1).collaborators callingHost) .production ["alpha", "default"] 1
        "/p/a.js" ∧
      (((Settings.standard 1).resolver callingHost).run
        ⟨"/p", "./index.js", .production⟩).outcome = .ok ⟨["alpha"]⟩ := by
  have hlast : Answers ((Settings.standard 1).collaborators callingHost) .production
      ["alpha", "default"] 0 "/p/b.js" :=
    .creates rfl ⟨answeringText, by decide +kernel, by decide +kernel⟩
      ⟨beforeAnswering, .expr (Script.exporting (.ident "make")), afterAnswering, rfl,
        .assign (.name rfl)⟩
  have hanswers : Answers ((Settings.standard 1).collaborators callingHost) .production
      ["alpha", "default"] 1 "/p/a.js" :=
    .passes rfl ⟨passingText, by decide +kernel, by decide +kernel⟩
      ⟨besidePassing, .expr (Script.exporting passed), [], rfl,
        .assign (.whenTrue (by decide) (.name rfl))⟩ (by decide +kernel) hlast
  have hentry : ((Settings.standard 1).collaborators callingHost).resolve "/p" "./index.js" =
      .ok "/p/index.js" := by
    decide +kernel
  have hholds : ((Settings.standard 1).collaborators callingHost).Holds .production "/p/index.js"
      callingProgram :=
    ⟨callingText, by decide +kernel, by decide +kernel⟩
  have hcalls : callingProgram.Calls .production "./a" :=
    ⟨[.expr (.literal (.string "use strict"))], [], [], rfl, by decide⟩
  have hfirst : ((Settings.standard 1).collaborators callingHost).resolve "/p" "./a" =
      .ok "/p/a.js" := by
    decide +kernel
  have hlegal : (["alpha", "default"].filter Name.isExportable).eraseDups = ["alpha"] := by decide
  refine ⟨hholds, hcalls, hanswers, ?_⟩
  rw [← hlegal]
  exact @Resolver.run_of_answers ((Settings.standard 1).resolver callingHost)
    ⟨"/p", "./index.js", .production⟩ "/p/index.js" "/p/a.js" "./a" _ _ 1 hentry
    (Or.inl (by decide)) hholds hcalls hfirst hanswers (by decide) (by decide)

end NamedExports
