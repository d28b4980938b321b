import NamedExports.CommandLine.Command
import NamedExports.Proofs.Script.Reading
import NamedExports.Proofs.Traversal.Discipline
import NamedExports.Proofs.Traversal.Unfolding

/-!
# Targets on their way from the scan to the traversal

A scan hands its re-export targets over as text.  The marker of a call stands behind the specifier,
and nothing tells it from the end of a specifier that looks the same, so `decode_encode_iff` leaves
out one kind of target: one that is not called but ends with the marker.

A module that holds nothing but `module.exports = require('…')` shows what a traversal makes of any
other target.  The resolver is asked for the text of the literal itself, and the module that it
names is scanned without a call, like the entry.
-/

namespace NamedExports

/-- A target comes through as text, unless it is not called and ends with the marker of a call. -/
theorem Reexport.decode_encode_iff (reexport : Reexport) :
    decode reexport.encode = reexport ↔
      reexport.called = true ∨ ¬ callMarker.toList <:+ reexport.specifier.toList := by
  obtain ⟨specifier, called⟩ := reexport
  cases called with
  | true => exact iff_of_true (decode_encode_of_called specifier) (.inl rfl)
  | false =>
    simp only [Bool.false_eq_true, false_or]
    constructor
    · intro h hmarked
      cases (congrArg called h).symm.trans ((called_decode_iff specifier).mpr hmarked)
    · intro hplain
      show decode specifier = _
      rw [decode, if_neg fun h => hplain (List.isSuffixOf_iff_suffix.mp h)]

/-- All that a scan finds in a module that exports another one is this module. -/
theorem scanSource_requiring {body : List Char} {specifier : String}
    (h : Script.Quotes body specifier) (path : Path) (mode : Mode) (called : Bool) :
    scanSource path (String.ofList (Script.requiringText body)) mode called =
      .ok (.reexport specifier called) := by
  rw [scanSource, String.toList_ofList, h.read_requiring]
  rfl

namespace Traversal

variable {c : Collaborators} {mode : Mode} {path : Path} {body : List Char} {specifier : String}

/-- The calls for a module with one target, up to its resolution. -/
def callsTo (path : Path) (mode : Mode) (called : Bool) (specifier : String) : List Call :=
  [.read path, .scan path mode called, .resolve (directoryOf path) specifier]

/-- What comes of a module's only target once it is resolved. -/
def followed (c : Collaborators) (called : Bool) (next : Path) :
    Traced (List String × List Task) :=
  if next.isJson then do
    let keys ← readKeys c next
    return (keys, [])
  else return ([], [⟨next, called⟩])

/-- Following one target resolves it. -/
theorem follow_singleton (c : Collaborators) (base : Path) (target : String) :
    follow c base [target] =
      c.resolvePath base (Reexport.decode target).specifier >>=
        followed c (Reexport.decode target).called := by
  rw [follow]
  congr 1
  funext next
  rw [followed]
  split
  · congr 1
    funext keys
    show Traced.done (keys ++ [], []) = Traced.done (keys, [])
    rw [List.append_nil]
  · rfl

/-- A visit of a module that exports another one resolves what it requires, and passes on whether it
is called itself. -/
theorem visit_requiring (hscan : c.scan = NamedExports.scanSource)
    (hread : c.read path = .ok (String.ofList (Script.requiringText body)))
    (hbody : Script.Quotes body specifier) {called : Bool}
    (h : called = true ∨ ¬ callMarker.toList <:+ specifier.toList) :
    visit c mode ⟨path, called⟩ =
      Traced.mk (callsTo path mode called specifier) (c.resolve (directoryOf path) specifier) >>=
        followed c called := by
  have hdecode : Reexport.decode (Reexport.mk specifier called).encode = ⟨specifier, called⟩ :=
    (Reexport.decode_encode_iff _).mpr h
  have hfound :
      (c.scanSource path (String.ofList (Script.requiringText body)) mode called).outcome =
        .ok (.reexport specifier called) := by
    rw [Collaborators.outcome_scanSource, hscan, scanSource_requiring hbody]
  have hfollow : follow c (directoryOf path) [(Reexport.mk specifier called).encode] =
      c.resolvePath (directoryOf path) specifier >>= followed c called := by
    rw [follow_singleton, hdecode]
  rw [visit, Traced.bind_of_ok hread, Traced.bind_of_ok hfound]
  -- the module exports no names itself, so all comes from the target
  show Traced.mk (_ ++ (_ ++ (follow c _ [(Reexport.mk specifier called).encode] >>= pure).calls))
    (follow c _ [(Reexport.mk specifier called).encode] >>= pure).outcome = _
  rw [Traced.bind_pure, hfollow, ← List.append_assoc]
  exact (Traced.after_bind _ _ _).symm

/-- Scans that are left go to the first task on the stack: its module is read and scanned. -/
theorem calls_prefix_run (journey : Journey) {fuel : Nat} (task : Task) {waiting : List Task}
    {source : String} (hread : c.read task.path = .ok source) :
    [.read task.path, .scan task.path journey.mode task.called] <+:
      (journey.run c (fuel + 1) (task :: waiting)).calls := by
  have hvisit : [.read task.path, .scan task.path journey.mode task.called] <+:
      (visit c journey.mode task).calls := by
    rw [visit, Traced.bind_of_ok hread]
    exact (List.prefix_append_right_inj [_]).mpr
      (Traced.calls_prefix_bind (c.scanSource task.path source journey.mode task.called) _)
  rw [Journey.run]
  exact hvisit.trans (Traced.calls_prefix_bind _ _)

/-- Every target comes through as text unless it is not called and ends with the marker of a call.
So from a module with nothing but `module.exports = require('…')` the resolver is asked for the text
of the literal as it is, and what it names is scanned without a call if this module is. -/
theorem target_survives_encoding :
    (∀ target : Reexport, Reexport.decode target.encode = target ↔
      target.called = true ∨ ¬ callMarker.toList <:+ target.specifier.toList) ∧
    (∀ specifier : String, Script.Quotes (Script.quoted specifier.toList) specifier ∧
      ((∀ ch ∈ specifier.toList, ch ∉ ['\'', '\\', '\n', '\r']) →
        Script.quoted specifier.toList = specifier.toList)) ∧
    ∀ (c : Collaborators) (mode : Mode) (path : Path) (body : List Char) (specifier : String),
      c.scan = NamedExports.scanSource →
      c.read path = .ok (String.ofList (Script.requiringText body)) →
      Script.Quotes body specifier →
      (∀ called, called = true ∨ ¬ callMarker.toList <:+ specifier.toList →
        visit c mode ⟨path, called⟩ =
          Traced.mk (callsTo path mode called specifier) (c.resolve (directoryOf path) specifier)
            >>= followed c called) ∧
      (path.extension? = some "js" ∨ path.extension? = some "cjs" →
        ¬ callMarker.toList <:+ specifier.toList → ∀ limit,
        callsTo path mode false specifier <+: (collect c mode (limit + 1) path).calls ∧
          ∀ next, c.resolve (directoryOf path) specifier = .ok next → next.isJson = false →
            let rest := Journey.run c ⟨path, mode, limit + 1⟩ limit [⟨next, false⟩]
            collect c mode (limit + 1) path =
                ⟨callsTo path mode false specifier ++ rest.calls, rest.outcome⟩ ∧
              ∀ source, 0 < limit → c.read next = .ok source →
                [.read next, .scan next mode false] <+: rest.calls) := by
  refine ⟨Reexport.decode_encode_iff,
    fun specifier => ⟨Script.quotes_quoted specifier, Script.quoted_eq_self⟩,
    fun c mode path body specifier hscan hread hbody =>
      ⟨fun called => visit_requiring hscan hread hbody, fun hpath hplain limit => ?_⟩⟩
  have hvisit : visit c mode ⟨path, false⟩ =
      Traced.mk (callsTo path mode false specifier) (c.resolve (directoryOf path) specifier) >>=
        followed c false :=
    visit_requiring hscan hread hbody (.inr hplain)
  rw [collect_of_extension hpath]
  constructor
  · have hcalls : callsTo path mode false specifier <+: (visit c mode ⟨path, false⟩).calls := by
      rw [hvisit]
      exact Traced.calls_prefix_bind (Traced.mk _ _) _
    rw [Journey.run]
    exact hcalls.trans (Traced.calls_prefix_bind _ _)
  · intro next hnext hmodule rest
    have hfollowed : followed c false next = pure ([], [⟨next, false⟩]) := by
      rw [followed, if_neg (by simp [hmodule])]
    rw [Traced.bind_of_ok hnext, hfollowed] at hvisit
    refine ⟨?_, fun source hlimit hsource => ?_⟩
    · rw [run_cons_of_ok ⟨path, mode, limit + 1⟩ (congrArg Traced.outcome hvisit), hvisit]
      show Traced.mk ((_ ++ []) ++ rest.calls) (rest.outcome.map ([] ++ ·)) = _
      rw [List.append_nil]
      cases rest.outcome <;> rfl
    · obtain ⟨scans, rfl⟩ : ∃ scans, limit = scans + 1 := Nat.exists_eq_add_one.mpr hlimit
      exact calls_prefix_run ⟨path, mode, _⟩ ⟨next, false⟩ hsource

/-- Two modules, of which one exports the other. -/
def passingOn : Collaborators where
  read path :=
    if path = "/p/a.js" then .ok (String.ofList (Script.requiringText "./b.js".toList))
    else .ok "exports.b = 1;"
  resolve _ specifier := if specifier = "./b.js" then .ok "/p/b.js" else .ok "/p/c.js"
  scan := NamedExports.scanSource
  load path _ := .error (.runtimeLoad path "")

/-- The specifier is asked for as it stands in the literal, and its module is scanned next; if the
module that requires it is called, so is the required one. -/
theorem target_survives_encoding_passingOn :
    Reexport.decode (Reexport.mk "./b()" true).encode = ⟨"./b()", true⟩ ∧
      Script.quoted "./b.js".toList = "./b.js".toList ∧
      Script.Quotes "./b.js".toList "./b.js" ∧
      (visit passingOn .production ⟨"/p/a.js", true⟩).outcome = .ok ([], [⟨"/p/b.js", true⟩]) ∧
      callsTo "/p/a.js" .production false "./b.js" <+:
        (collect passingOn .production 2 "/p/a.js").calls ∧
      [.read "/p/b.js", .scan "/p/b.js" .production false] <+:
        (Journey.run passingOn ⟨"/p/a.js", .production, 2⟩ 1 [⟨"/p/b.js", false⟩]).calls := by
  obtain ⟨htarget, hquoted, htraversal⟩ := target_survives_encoding
  have hsame : Script.quoted "./b.js".toList = "./b.js".toList := (hquoted "./b.js").2 (by simp)
  have hbody : Script.Quotes "./b.js".toList "./b.js" := by
    rw [← hsame]
    exact (hquoted "./b.js").1
  have hread : passingOn.read "/p/a.js" =
      .ok (String.ofList (Script.requiringText "./b.js".toList)) := rfl
  have hplain : ¬ callMarker.toList <:+ "./b.js".toList := by decide
  obtain ⟨hvisit, hentry⟩ := htraversal passingOn .production "/p/a.js" _ _ rfl hread hbody
  obtain ⟨hcalls, hnext⟩ := hentry (Or.inl (by decide)) hplain 1
  refine ⟨(htarget ⟨"./b()", true⟩).mpr (Or.inl rfl), hsame, hbody, ?_, hcalls, ?_⟩
  · rw [hvisit true (Or.inl rfl)]
    rfl
  · exact (hnext "/p/b.js" rfl (by decide)).2 "exports.b = 1;" (by decide) rfl

/-- A host with a module whose name ends with the marker of a call, and one whose name does not. -/
def markedHost : Host where
  disk := {
    entries := [(["pkg".toList], .directory),
      (["pkg".toList, "index.js".toList],
        .file (Text.Utf8.encode (Script.requiringText "./x()".toList)) false),
      (["pkg".toList, "x().js".toList], .file (Text.Utf8.encode "exports.a = 1;".toList) false),
      (["pkg".toList, "x.js".toList], .file (Text.Utf8.encode "exports.b = 1;".toList) false)]
    workingDirectory := [] }
  environment := []
  processors := 1
  runner _ := .error .notFound
  workerError _ := none
  outputError := none

/-- The end of the specifier is taken for the marker: the other module is resolved, and scanned as
one that is called. -/
theorem marked_specifier_lost :
    Script.Quotes "./x()".toList "./x()" ∧
      Reexport.decode (Reexport.mk "./x()" false).encode = ⟨"./x", true⟩ ∧
      let c := (Settings.standard 1).collaborators markedHost
      (collect c .production 3 "/pkg/index.js").calls =
        [.read "/pkg/index.js", .scan "/pkg/index.js" .production false, .resolve "/pkg" "./x",
          .read "/pkg/x.js", .scan "/pkg/x.js" .production true] := by
  refine ⟨Script.quotes_quoted "./x()", by decide, ?_⟩
  decide +kernel

end Traversal

end NamedExports
