import Mathlib.Data.List.Forall2
import NamedExports.Proofs.Text.Cut
import NamedExports.Report

/-!
# Colours change nothing but colour

A coloured report is the report without colours with escape sequences around some of its pieces.
Taking them out again is a matter of each piece by itself, whatever follows it, so it goes through
line by line and entry by entry.  The report without colours is one block of lines for each entry.
-/

namespace NamedExports

/-! ## Taking out escape sequences -/

namespace Style

/-- Whether a character may stand among the parameters of an escape sequence. -/
def isParameter (c : Char) : Bool := '0' ≤ c && c ≤ '?'

/-- What follows a bracket, parameters and the letter `m`, which end an escape sequence. -/
def behindSequence? : List Char → Option (List Char)
  | '[' :: rest =>
    match rest.dropWhile isParameter with
    | 'm' :: behind => some behind
    | _ => none
  | _ => none

/-- Something is dropped with each sequence, so erasing comes to an end. -/
theorem length_behindSequence? {text behind : List Char} (h : behindSequence? text = some behind) :
    behind.length < text.length := by
  unfold behindSequence? at h
  split at h
  · rename_i rest
    split at h
    · rename_i found hrest
      have hlength := (rest.dropWhile_suffix isParameter).length_le
      rw [hrest, Option.some.inj h] at hlength
      simp only [List.length_cons] at hlength ⊢
      omega
    · cases h
  · cases h

/-- A text without its escape sequences. -/
def erase : List Char → List Char
  | [] => []
  | c :: rest =>
    if c == escape then
      match _h : behindSequence? rest with
      | some behind => erase behind
      | none => c :: erase rest
    else c :: erase rest
termination_by text => text.length
decreasing_by
  · have := length_behindSequence? _h
    simp only [List.length_cons]
    omega
  · simp
  · simp

/-- Without the character that starts them there are no escape sequences. -/
theorem erase_append_of_not_mem {text : List Char} (h : escape ∉ text) (rest : List Char) :
    erase (text ++ rest) = text ++ erase rest := by
  induction text with
  | nil => rfl
  | cons c others ih =>
    have hc : (c == escape) = false := by
      simpa using fun e : c = escape => h (e ▸ List.mem_cons_self)
    rw [List.cons_append, erase, hc, ih fun hmem => h (List.mem_cons_of_mem c hmem)]
    rfl

/-- A whole sequence is taken out. -/
theorem erase_sequence {parameters : List Char} (h : parameters.all isParameter = true)
    (rest : List Char) :
    erase (escape :: '[' :: (parameters ++ 'm' :: rest)) = erase rest := by
  have hdrop : (parameters ++ 'm' :: rest).dropWhile isParameter = 'm' :: rest := by
    rw [List.dropWhile_append_of_pos (List.all_eq_true.mp h)]
    rfl
  have hbehind : behindSequence? ('[' :: (parameters ++ 'm' :: rest)) = some rest := by
    simp only [behindSequence?, hdrop]
  rw [erase, if_pos (by decide)]
  split
  · rename_i behind hfound
    rw [Option.some.inj (hfound.symm.trans hbehind)]
  · rename_i hnone
    rw [hbehind] at hnone
    cases hnone

/-- A text comes to another one when its escape sequences are taken out, whatever follows it. -/
def Erases (colored plain : String) : Prop :=
  ∀ rest, erase (colored.toList ++ rest) = plain.toList ++ erase rest

namespace Erases

/-- A text without escape characters is what is left of it. -/
theorem of_not_mem {text : String} (h : escape ∉ text.toList) : Erases text text :=
  erase_append_of_not_mem h

/-- Texts can be erased one after the other. -/
theorem append {colored plain colored' plain' : String} (h : Erases colored plain)
    (h' : Erases colored' plain') : Erases (colored ++ colored') (plain ++ plain') := by
  intro rest
  rw [String.toList_append, String.toList_append, List.append_assoc, h, h', List.append_assoc]

/-- A painted text comes to the text. -/
theorem paint {style : Style} {text : String}
    (hstyle : style.parameters.toList.all isParameter = true) (h : escape ∉ text.toList) :
    Erases (style.paint true text) (style.paint false text) := by
  intro rest
  have hpainted : (style.paint true text).toList ++ rest =
      escape :: '[' :: (style.parameters.toList ++ 'm' ::
        (text.toList ++ escape :: '[' :: (['0'] ++ 'm' :: rest))) := by
    simp [Style.paint, start, stop]
  rw [hpainted, erase_sequence hstyle, erase_append_of_not_mem h, erase_sequence (by decide)]
  rfl

/-- What `Erases` says of the function that erases. -/
theorem erase_eq {colored plain : String} (h : Erases colored plain) :
    erase colored.toList = plain.toList := by
  have hend := h []
  rwa [List.append_nil, erase, List.append_nil] at hend

end Erases

end Style

/-! ## Pieces of a report -/

/-- The texts that the report of an entry is made of. -/
def BatchEntry.texts (entry : BatchEntry) : List String :=
  entry.request.specifier :: entry.request.buildDirectory.text ::
    match entry.outcome with
    | .resolved list => list.exports
    | .failed message => [message]

/-- A character stands in none of the texts of an entry. -/
def BatchEntry.Lacks (entry : BatchEntry) (c : Char) : Prop :=
  ∀ text ∈ entry.texts, c ∉ text.toList

namespace Report

open Style (Erases)

variable {entry : BatchEntry} {entries : List BatchEntry} {c : Char}

/-- The first of several lines. -/
theorem unlines_cons (line : String) (lines : List String) :
    unlines (line :: lines) = line ++ "\n" ++ unlines lines := by
  simp [unlines]

/-- The characters of lines. -/
theorem toList_unlines (lines : List String) :
    (unlines lines).toList = lines.flatMap (·.toList ++ ['\n']) := by
  simp [unlines, String.toList_join, List.flatMap_map]

/-- A number is written in digits. -/
theorem not_mem_toString {n : Nat} (h : c.isDigit = false) : c ∉ (toString n).toList := by
  intro hmem
  rw [Nat.toString_eq_repr, Nat.repr_eq_ofList_toDigits, String.toList_ofList] at hmem
  rw [Nat.isDigit_of_mem_toDigits (by decide) (by decide) hmem] at h
  cases h

/-- A count of exports has digits and the fixed words in it, and nothing else. -/
theorem not_mem_countText {n : Nat} (h : c.isDigit = false)
    (hfixed : ∀ piece ∈ ["  ", " export", "", "s"], c ∉ piece.toList) :
    c ∉ (countText n).toList := by
  have hshape : countText n = "  " ++ toString n ++ " export" ++ (if n == 1 then "" else "s") := rfl
  rw [hshape]
  simp only [String.toList_append, List.mem_append, not_or]
  refine ⟨⟨⟨hfixed _ (by simp), not_mem_toString h⟩, hfixed _ (by simp)⟩, ?_⟩
  split
  · exact hfixed _ (by simp)
  · exact hfixed _ (by simp)

/-- Lines are erased line by line. -/
theorem erases_unlines {colored plain : List String} (h : List.Forall₂ Erases colored plain) :
    Erases (unlines colored) (unlines plain) := by
  induction h with
  | nil => exact .of_not_mem (by decide)
  | cons hline hlines ih =>
    rw [unlines_cons, unlines_cons]
    exact (hline.append (.of_not_mem (by decide))).append ih

/-- The headline of an entry without escape characters loses its colors alone. -/
theorem erases_headline (h : entry.Lacks Style.escape) :
    Erases (headline true entry.request) (headline false entry.request) := by
  have hmode : Style.escape ∉ s!"({entry.request.mode.text})".toList := by
    cases entry.request.mode <;> decide
  exact ((Erases.paint (by decide) (h _ List.mem_cons_self)).append
    (.of_not_mem (by decide))).append (.paint (by decide) hmode)

/-- So do the lines that say how it ended. -/
theorem erases_outcomeLines (h : entry.Lacks Style.escape) :
    List.Forall₂ Erases (outcomeLines true entry.outcome) (outcomeLines false entry.outcome) := by
  obtain ⟨request, outcome⟩ := entry
  cases outcome with
  | failed message =>
    have hmessage : Style.escape ∉ message.toList := h _ (by simp [BatchEntry.texts])
    refine .cons ?_ .nil
    exact (((Erases.of_not_mem (by decide)).append (.paint (by decide) (by decide))).append
      (.of_not_mem (by decide))).append (.of_not_mem hmessage)
  | resolved list =>
    show List.Forall₂ Erases (if list.isEmpty then _ else _) (if list.isEmpty then _ else _)
    split
    · exact .cons (.paint (by decide) (by decide)) .nil
    · refine .cons (.paint (by decide) (not_mem_countText rfl (by decide))) ?_
      rw [List.forall₂_map_left_iff, List.forall₂_map_right_iff, List.forall₂_same]
      intro name hname
      have hplain : Style.escape ∉ name.toList := h name (by simp [BatchEntry.texts, hname])
      exact (Erases.of_not_mem (by decide)).append (.of_not_mem hplain)

/-- So does the whole block, whatever is to be shown of it. -/
theorem erases_entryLines {verbose quiet : Bool} (h : entry.Lacks Style.escape) :
    List.Forall₂ Erases (entryLines ⟨true, verbose, quiet⟩ entry)
      (entryLines ⟨false, verbose, quiet⟩ entry) := by
  have hdirectory : List.Forall₂ Erases
      (if verbose then [s!"  Build directory: {entry.request.buildDirectory.text}"] else [])
      (if verbose then [s!"  Build directory: {entry.request.buildDirectory.text}"] else []) := by
    split
    · refine .cons ((Erases.of_not_mem (by decide)).append (.of_not_mem ?_)) .nil
      exact h _ (List.mem_cons_of_mem _ List.mem_cons_self)
    · exact .nil
  exact .cons (erases_headline h) (List.rel_append
    (List.rel_append hdirectory (erases_outcomeLines h)) (.cons (.of_not_mem (by decide)) .nil))

/-- The totals have digits and the fixed words in them, and nothing else. -/
theorem not_mem_totals (h : c.isDigit = false)
    (hfixed : ∀ piece ∈ ["Resolved ", " of ", " specifiers"], c ∉ piece.toList) :
    c ∉ (totals false entries).toList := by
  have hshape : totals false entries =
      "Resolved " ++ toString (entries.length - entries.countP BatchEntry.isFailure) ++ " of " ++
        toString entries.length ++ " specifiers" := rfl
  rw [hshape]
  simp only [String.toList_append, List.mem_append, not_or]
  exact ⟨⟨⟨⟨hfixed _ (by simp), not_mem_toString h⟩, hfixed _ (by simp)⟩, not_mem_toString h⟩,
    hfixed _ (by simp)⟩

/-- The totals lose their colors alone. -/
theorem erases_totals (entries : List BatchEntry) :
    Erases (totals true entries) (totals false entries) := by
  refine Erases.paint ?_ (not_mem_totals rfl (by decide))
  split
  · decide
  · decide

/-- What is printed in colours comes to what is printed without. -/
theorem erases_text {verbose quiet : Bool} (h : ∀ entry ∈ entries, entry.Lacks Style.escape) :
    Erases (text ⟨true, verbose, quiet⟩ entries) (text ⟨false, verbose, quiet⟩ entries) := by
  cases quiet with
  | true =>
    -- names alone are never coloured
    refine erases_unlines (List.forall₂_same.mpr fun name hname => ?_)
    obtain ⟨⟨request, outcome⟩, hentry, hname⟩ := List.mem_flatMap.mp hname
    cases outcome with
    | failed message => cases hname
    | resolved list =>
      exact .of_not_mem (h _ hentry name (List.mem_cons_of_mem _ (List.mem_cons_of_mem _ hname)))
  | false =>
    have hblocks : List.Forall₂ Erases (entries.flatMap (entryLines ⟨true, verbose, false⟩))
        (entries.flatMap (entryLines ⟨false, verbose, false⟩)) := by
      induction entries with
      | nil => exact .nil
      | cons first rest ih =>
        obtain ⟨hfirst, hrest⟩ := List.forall_mem_cons.mp h
        exact List.rel_append (erases_entryLines hfirst) (ih hrest)
    refine erases_unlines (List.rel_append hblocks ?_)
    show List.Forall₂ Erases (if _ then _ else _) (if _ then _ else _)
    split
    · exact .cons (erases_totals entries) .nil
    · exact .nil

/-! ## Blocks -/

/-- The lines that every block begins with. -/
def heading (verbose : Bool) (request : Request) : List String :=
  (request.specifier ++ " (" ++ request.mode.text ++ ")") ::
    if verbose then ["  Build directory: " ++ request.buildDirectory.text] else []

/-- The block of an entry, line by line: a heading, how the entry ended, and an empty line.  Each
name that was resolved has a line of its own. -/
inductive IsBlock (verbose : Bool) : BatchEntry → List String → Prop where
  | failed (request : Request) (message : String) :
      IsBlock verbose ⟨request, .failed message⟩
        (heading verbose request ++ ["  Error: " ++ message] ++ [""])
  | nothing (request : Request) :
      IsBlock verbose ⟨request, .resolved ⟨[]⟩⟩
        (heading verbose request ++ ["  No named exports"] ++ [""])
  | names (request : Request) {names : List String} (h : names ≠ []) :
      IsBlock verbose ⟨request, .resolved ⟨names⟩⟩
        (heading verbose request ++ countText names.length :: names.map ("    " ++ ·) ++ [""])

/-- The line with totals, where there are entries to be counted together. -/
def totalLines (entries : List BatchEntry) : List String :=
  if 2 ≤ entries.length then
    [s!"Resolved {entries.countP (! ·.isFailure)} of {entries.length} specifiers"]
  else []

/-- The headline with what verbose output adds to it. -/
theorem heading_eq (verbose : Bool) (request : Request) :
    headline false request ::
        (if verbose then [s!"  Build directory: {request.buildDirectory.text}"] else []) =
      heading verbose request := by
  have hline : headline false request = request.specifier ++ " (" ++ request.mode.text ++ ")" := by
    rw [← String.toList_inj]
    simp [headline, Style.paint, toString]
  rw [hline]
  rfl

/-- Without colors the lines of an entry are a block. -/
theorem isBlock_entryLines (verbose : Bool) (entry : BatchEntry) :
    IsBlock verbose entry (entryLines ⟨false, verbose, false⟩ entry) := by
  obtain ⟨request, outcome⟩ := entry
  rw [entryLines, heading_eq]
  cases outcome with
  | failed message => exact .failed request message
  | resolved list =>
    obtain ⟨names⟩ := list
    cases names with
    | nil => exact .nothing request
    | cons name names => exact .names request (List.cons_ne_nil name names)

/-- The totals stand there exactly for more than one entry. -/
theorem totals_eq (entries : List BatchEntry) :
    (if 1 < entries.length then [totals false entries] else []) = totalLines entries := by
  have hcount : entries.length - entries.countP BatchEntry.isFailure =
      entries.countP (! ·.isFailure) := by
    rw [List.length_eq_countP_add_countP BatchEntry.isFailure, Nat.add_sub_cancel_left]
    simp
  rw [totalLines, ← hcount]
  rfl

/-- What a block consists of lacks what the texts of its entry lack. -/
theorem newline_not_mem_of_isBlock {verbose : Bool} {lines : List String}
    (h : IsBlock verbose entry lines) (hentry : entry.Lacks '\n') :
    ∀ line ∈ lines, '\n' ∉ line.toList := by
  have hheading : ∀ line ∈ heading verbose entry.request, '\n' ∉ line.toList := by
    have hspecifier := hentry _ List.mem_cons_self
    have hdirectory := hentry _ (List.mem_cons_of_mem _ List.mem_cons_self)
    have hmode : '\n' ∉ entry.request.mode.text.toList := by
      cases entry.request.mode <;> decide
    intro line hline
    rcases List.mem_cons.mp hline with rfl | hline
    · simp [hspecifier, hmode]
    · split at hline
      · obtain rfl := List.mem_singleton.mp hline
        simp [hdirectory]
      · cases hline
  cases h with
  | failed request message =>
    have hmessage : '\n' ∉ message.toList := hentry _ (by simp [BatchEntry.texts])
    simp only [List.forall_mem_append, List.forall_mem_singleton]
    exact ⟨⟨hheading, by simp [hmessage]⟩, by decide⟩
  | nothing request =>
    simp only [List.forall_mem_append, List.forall_mem_singleton]
    exact ⟨⟨hheading, by decide⟩, by decide⟩
  | @names request names hne =>
    simp only [List.forall_mem_append, List.forall_mem_cons, List.forall_mem_map]
    refine ⟨⟨hheading, not_mem_countText rfl (by decide), fun name hname => ?_⟩, by decide⟩
    have hplain : '\n' ∉ name.toList := hentry name (by simp [BatchEntry.texts, hname])
    simp [hplain]

/-- Lines without line breaks can be told apart again. -/
theorem splitOn_unlines {lines : List String} (h : ∀ line ∈ lines, '\n' ∉ line.toList) :
    Text.splitOn '\n' (unlines lines).toList = lines.map String.toList ++ [[]] := by
  induction lines with
  | nil => rfl
  | cons line rest ih =>
    obtain ⟨hline, hrest⟩ := List.forall_mem_cons.mp h
    rw [toList_unlines, List.flatMap_cons, ← toList_unlines, List.append_assoc,
      List.singleton_append, Text.splitOn_append_cons, Text.splitOn_of_not_mem hline, ih hrest]
    rfl

/-- Without its escape sequences a coloured report is the one without colours, which has a block for
each entry, in order, and behind them the totals of two entries or more.  If no text holds a line
feed, these are the lines that are printed. -/
theorem text_colors (verbose : Bool) (entries : List BatchEntry) :
    ((∀ entry ∈ entries, entry.Lacks Style.escape) → ∀ quiet,
        Style.erase (text ⟨true, verbose, quiet⟩ entries).toList =
          (text ⟨false, verbose, quiet⟩ entries).toList) ∧
      ∃ blocks, List.Forall₂ (IsBlock verbose) entries blocks ∧
        text ⟨false, verbose, false⟩ entries = unlines (blocks.flatten ++ totalLines entries) ∧
        ((∀ entry ∈ entries, entry.Lacks '\n') →
          Text.splitOn '\n' (text ⟨false, verbose, false⟩ entries).toList =
            (blocks.flatten ++ totalLines entries).map String.toList ++ [[]]) := by
  have htext : text ⟨false, verbose, false⟩ entries =
      unlines ((entries.map (entryLines ⟨false, verbose, false⟩)).flatten ++
        totalLines entries) := by
    rw [← totals_eq]
    rfl
  refine ⟨fun h quiet => (erases_text h).erase_eq, _, ?_, htext, fun h => ?_⟩
  · rw [List.forall₂_map_right_iff, List.forall₂_same]
    exact fun entry _ => isBlock_entryLines verbose entry
  · rw [htext]
    refine splitOn_unlines (List.forall_mem_append.mpr ⟨fun line hline => ?_, ?_⟩)
    · obtain ⟨lines, hlines, hline⟩ := List.mem_flatten.mp hline
      obtain ⟨entry, hentry, rfl⟩ := List.mem_map.mp hlines
      exact newline_not_mem_of_isBlock (isBlock_entryLines verbose entry) (h entry hentry) line
        hline
    · rw [← totals_eq]
      split
      · exact List.forall_mem_singleton.mpr (not_mem_totals rfl (by decide))
      · exact fun line hline => nomatch hline

/-- Two entries in colours. -/
theorem text_colors_pair :
    let pair : List BatchEntry :=
      [⟨⟨⟨"/srv"⟩, "he", .production⟩, .resolved ⟨["encode"]⟩⟩,
        ⟨⟨⟨"/srv"⟩, "x", .development⟩, .failed "boom"⟩]
    text ⟨true, false, false⟩ pair =
        "\x1b[1;34mhe\x1b[0m \x1b[2m(production)\x1b[0m\n" ++
          "\x1b[32m  1 export\x1b[0m\n    encode\n\n" ++
          "\x1b[1;34mx\x1b[0m \x1b[2m(development)\x1b[0m\n  \x1b[1;31mError:\x1b[0m boom\n\n" ++
          "\x1b[1;33mResolved 1 of 2 specifiers\x1b[0m\n" ∧
      Style.erase (text ⟨true, false, false⟩ pair).toList =
        ("he (production)\n  1 export\n    encode\n\nx (development)\n  Error: boom\n\n" ++
          "Resolved 1 of 2 specifiers\n").toList := by
  intro pair
  refine ⟨by decide +kernel, ?_⟩
  rw [(text_colors false pair).1 ?_ false]
  · decide +kernel
  · intro entry hentry
    simp only [pair, List.mem_cons, List.not_mem_nil, or_false] at hentry
    rcases hentry with rfl | rfl
    · simp [BatchEntry.Lacks, BatchEntry.texts, Style.escape]
    · simp [BatchEntry.Lacks, BatchEntry.texts, Style.escape]

end Report

end NamedExports
