import NamedExports.Loading.Loader
import NamedExports.Proofs.Json.Forms
import NamedExports.Proofs.Text.Cut
import NamedExports.Proofs.Text.Utf8

/-!
# Answers among other output

Whatever bytes a module prints, the line with the answer stays a line of its own: unfinished
characters before it do not swallow its line feed.  It is the last line with a marker unless the
module prints one behind it, and its JSON is read back.
-/

namespace NamedExports.Loading

open Json (Spelling)
open Text.Utf8 (decodeLossy encode)

/-- What is printed of an answer, between what the module prints before and after that. -/
def answered (before : List UInt8) (text : List Char) (after : List UInt8) : List UInt8 :=
  before ++ encode ('\n' :: marker.toList ++ text ++ ['\n']) ++ after

/-- Bytes of which no line starts with the marker, after lossy decoding. -/
def Unmarked (stdout : List UInt8) : Prop :=
  ∀ line ∈ Text.lines (decodeLossy stdout), ¬ marker.toList <+: line

instance (stdout : List UInt8) : Decidable (Unmarked stdout) :=
  inferInstanceAs (Decidable (∀ line ∈ Text.lines (decodeLossy stdout), ¬ marker.toList <+: line))

/-! ## Lines -/

/-- The line of an answer is one of the lines of the output, between those before and after it. -/
theorem lines_answered {text : List Char} (hline : '\n' ∉ text)
    (hlast : (marker.toList ++ text).getLast? ≠ some '\r') (before after : List UInt8) :
    Text.lines (decodeLossy (answered before text after)) =
      (Text.splitOn '\n' (decodeLossy before)).map Text.dropReturn ++
        (marker.toList ++ text) :: Text.lines (decodeLossy after) := by
  have hmarker : '\n' ∉ marker.toList := by decide
  have hdecoded : decodeLossy (answered before text after) =
      decodeLossy before ++ '\n' :: ((marker.toList ++ text) ++ '\n' :: decodeLossy after) := by
    have hencode : encode ('\n' :: marker.toList ++ text ++ ['\n']) =
        encode ['\n'] ++ encode (marker.toList ++ text ++ ['\n']) := by
      rw [encode, encode, encode, ← List.flatMap_append]
      rfl
    rw [answered, hencode, ← List.append_assoc, List.append_assoc,
      Text.Utf8.decodeLossy_append_newline, Text.Utf8.decodeLossy_encode_append,
      List.append_assoc _ ['\n'], List.singleton_append]
  rw [hdecoded, Text.lines_append_cons, Text.lines_cons_of_not_mem _ hlast]
  rw [List.mem_append]
  exact not_or.mpr ⟨hmarker, hline⟩

/-- The last line with a marker is the one that counts. -/
theorem findSome?_payload? {front back : List (List Char)} {text : List Char}
    (hback : ∀ line ∈ back, ¬ marker.toList <+: line) :
    (front ++ (marker.toList ++ text) :: back).reverse.findSome? payload? = some text := by
  have hnone : back.reverse.findSome? payload? = none := by
    rw [List.findSome?_eq_none_iff]
    intro line hline
    exact Text.stripStart_eq_none_iff.mpr (hback line (List.mem_reverse.mp hline))
  have hpayload : payload? (marker.toList ++ text) = some text :=
    Text.stripStart_eq_some_iff.mpr rfl
  rw [List.reverse_append, List.reverse_cons, List.append_assoc, List.findSome?_append, hnone,
    Option.none_or, List.singleton_append, List.findSome?_cons, hpayload]

/-! ## Answers -/

/-- An answer's text ends with a brace. -/
theorem getLast?_of_spelling {value : ModuleValue} {text : List Char}
    (h : Spelling (ModuleValue.form.value value) text) (front : List Char) :
    (front ++ text).getLast? = some '\x7d' := by
  cases h with
  | object =>
    rw [← List.append_assoc]
    exact List.getLast?_concat

theorem read_of_spelling {value : ModuleValue} {text : List Char}
    (h : Spelling (ModuleValue.form.value value) text) :
    ModuleValue.form.read text = .ok value := by
  have hfits : ∀ field ∈ ModuleValue.form.toValues value, field.FitsIn (Json.maxDepth - 1) := by
    intro field hfield
    simp only [ModuleValue.form, List.mem_cons, List.not_mem_nil, or_false] at hfield
    obtain rfl | rfl := hfield
    · trivial
    · exact Json.fitsIn_ofTexts 125 value.keys
  simpa using ModuleValue.form_lawful.read_append hfits .nil h .nil

/-- The text of an answer that is written without white space is a single line. -/
theorem compact_answer (value : ModuleValue) :
    Spelling (ModuleValue.form.value value)
        (Json.printAt .compact 0 (ModuleValue.form.value value)) ∧
      '\n' ∉ Json.printAt .compact 0 (ModuleValue.form.value value) := by
  have hformed : (ModuleValue.form.value value).IsWellFormed := by
    refine Json.Form.isWellFormed_value fun field hfield => ?_
    simp only [ModuleValue.form, List.mem_cons, List.not_mem_nil, or_false] at hfield
    obtain rfl | rfl := hfield
    · exact .string value.kind.word
    · exact Json.isWellFormed_ofTexts value.keys
  exact ⟨Json.spelling_printAt .compact hformed 0,
    (Json.hasNoControl_printAt hformed 0).not_mem_newline⟩

/-- An answer on a line of its own is read back, whatever is printed before it and unless a line
with a marker is printed after it. -/
theorem readAnswer_answered {value : ModuleValue} {text : List Char} {after : List UInt8}
    (h : Spelling (ModuleValue.form.value value) text) (hline : '\n' ∉ text)
    (hafter : Unmarked after) (before : List UInt8) :
    readAnswer (answered before text after) = .ok value := by
  have hlast : (marker.toList ++ text).getLast? ≠ some '\r' := by
    rw [getLast?_of_spelling h]
    decide
  rw [readAnswer, lines_answered hline hlast, findSome?_payload? hafter]
  dsimp only
  rw [read_of_spelling h]

theorem readAnswer_unmarked {stdout : List UInt8} (h : Unmarked stdout) :
    readAnswer stdout = .error .missing := by
  have hnone : (Text.lines (decodeLossy stdout)).reverse.findSome? payload? = none := by
    rw [List.findSome?_eq_none_iff]
    intro line hline
    exact Text.stripStart_eq_none_iff.mpr (h line (List.mem_reverse.mp hline))
  rw [readAnswer, hnone]

/-- A program that succeeds loads what its answer says, and fails to load without one. -/
theorem load_of_success {runner : Runner} {program entry : Path} {mode : Mode}
    {finished : Finished} (hrun : runner (invocation program entry mode) = .ok finished)
    (hsuccess : finished.status.isSuccess = true) :
    load runner program entry mode =
      (readAnswer finished.stdout).mapError fun cause => .runtimeLoad entry cause.message := by
  rw [load, hrun]
  dsimp only
  rw [if_pos hsuccess]
  cases readAnswer finished.stdout <;> rfl

/-- The answer survives whatever the module prints.  Of a program that succeeds, the kind and the
keys are read from every one-line spelling of their object behind a marker, between any bytes before
it and any bytes without a marked line after it, and output without a marked line is a failure to
load. -/
theorem answer_survives {runner : Runner} {program entry : Path} {mode : Mode}
    {finished : Finished} (hrun : runner (invocation program entry mode) = .ok finished)
    (hsuccess : finished.status.isSuccess = true) :
    (∀ before after value text, Spelling (ModuleValue.form.value value) text → '\n' ∉ text →
        Unmarked after → finished.stdout = answered before text after →
        readAnswer finished.stdout = .ok value ∧ load runner program entry mode = .ok value) ∧
      (∀ before after value, Unmarked after →
        finished.stdout =
          answered before (Json.printAt .compact 0 (ModuleValue.form.value value)) after →
        load runner program entry mode = .ok value) ∧
      (Unmarked finished.stdout →
        readAnswer finished.stdout = .error .missing ∧
        load runner program entry mode =
          .error (.runtimeLoad entry "loader printed no result")) := by
  have hload := load_of_success hrun hsuccess
  refine ⟨?_, ?_, fun hunmarked => ?_⟩
  · intro before after value text h hline hafter hstdout
    have hread := readAnswer_answered h hline hafter before
    rw [hstdout, hread] at hload
    exact ⟨hstdout ▸ hread, hload⟩
  · intro before after value hafter hstdout
    obtain ⟨h, hline⟩ := compact_answer value
    rw [hstdout, readAnswer_answered h hline hafter before] at hload
    exact hload
  · have hread := readAnswer_unmarked hunmarked
    rw [hread] at hload
    exact ⟨hread, hload⟩

/-- The first bytes of a character and a marked line that is none come before an answer, and a line
that is not finished comes after it. -/
theorem answer_survives_noise :
    let value : ModuleValue := ⟨.function, ["a", "\n\""]⟩
    let noise : List UInt8 := encode "\n@@cjs-exports-result@@\x7b\x7d\r\n".toList ++ [0xE2, 0x82]
    let text := Json.printAt .compact 0 (ModuleValue.form.value value)
    let answering (stdout : List UInt8) : Runner := fun _ => .ok ⟨stdout, [], .code 0⟩
    load (answering (answered noise text (encode "bye".toList))) ⟨"node"⟩ ⟨"/m.js"⟩ .production =
        .ok value ∧
      load (answering (encode "bye".toList)) ⟨"node"⟩ ⟨"/m.js"⟩ .production =
        .error (.runtimeLoad ⟨"/m.js"⟩ "loader printed no result") := by
  intro value noise text answering
  have hafter : Unmarked (encode "bye".toList) := by decide
  obtain ⟨h, hline⟩ := compact_answer value
  have hfirst := @answer_survives (answering (answered noise text (encode "bye".toList))) ⟨"node"⟩
    ⟨"/m.js"⟩ .production _ rfl rfl
  have hsecond := @answer_survives (answering (encode "bye".toList)) ⟨"node"⟩ ⟨"/m.js"⟩
    .production _ rfl rfl
  exact ⟨(hfirst.1 noise _ value text h hline hafter rfl).2, (hsecond.2.2 hafter).2⟩

end NamedExports.Loading
