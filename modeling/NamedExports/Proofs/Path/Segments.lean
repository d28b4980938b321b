import Mathlib.Data.List.Infix
import NamedExports.Path
import NamedExports.Proofs.Text.Cut

/-!
# Segments of paths

The segments of a path behind another one come after the segments of that one: `segments_join`.
What an absolute path names is read from the segments that do not stay where they are.  Its
ancestors name one thing less at each step up to the root: `map_moves_ancestors`.
-/

namespace NamedExports.Path

variable {path base ancestor : Path} {rest more : String} {segments : List (List Char)}

/-! ## Paths behind paths -/

/-- A path with text is not empty. -/
theorem isEmpty_iff : path.isEmpty = true ↔ path.text.toList = [] := by
  rw [isEmpty, String.isEmpty_iff, String.toList_eq_nil_iff]

/-- A path is absolute exactly if it starts with a slash. -/
theorem isAbsolute_iff : path.isAbsolute = true ↔ ∃ body, path.text.toList = '/' :: body := by
  rw [isAbsolute, List.isPrefixOf_iff_prefix]
  constructor
  · rintro ⟨body, hbody⟩
    exact ⟨body, hbody.symm⟩
  · rintro ⟨body, hbody⟩
    exact ⟨body, hbody.symm⟩

/-- An absolute path is not empty. -/
theorem isEmpty_of_isAbsolute (h : path.isAbsolute = true) : path.isEmpty = false := by
  obtain ⟨body, hbody⟩ := isAbsolute_iff.mp h
  rw [← Bool.not_eq_true, isEmpty_iff, hbody]
  exact List.cons_ne_nil _ _

/-- Whether a text is absolute is seen at its first character. -/
theorem isAbsolute_append (front back : List Char) (hfront : front ≠ [])
    (htext : path.text.toList = front ++ back) :
    path.isAbsolute = ['/'].isPrefixOf front := by
  rw [isAbsolute, htext]
  cases front with
  | nil => exact absurd rfl hfront
  | cons c tail => rfl

/-- An absolute path stands behind no other path. -/
theorem join_of_isAbsolute (h : (Path.mk rest).isAbsolute = true) : base.join rest = ⟨rest⟩ := by
  unfold join
  exact if_pos h

/-- The text of a path with the slash that another path goes on behind. -/
def opening (base : Path) : List Char :=
  if base.text.toList.isEmpty || ['/'].isSuffixOf base.text.toList then base.text.toList
  else base.text.toList ++ ['/']

/-- Joining a relative path puts it behind the base and a slash. -/
theorem toList_join (h : (Path.mk rest).isAbsolute = false) :
    (base.join rest).text.toList = base.opening ++ rest.toList := by
  have hrelative : ¬ ['/'].isPrefixOf rest.toList = true := by
    rw [Bool.not_eq_true]
    exact h
  unfold join opening
  rw [if_neg hrelative]
  split
  · exact String.toList_ofList
  · rw [List.append_assoc, List.singleton_append]
    exact String.toList_ofList

/-- Nothing relative makes a path empty by joining it. -/
theorem isEmpty_join (hbase : base.isEmpty = false) (h : (Path.mk rest).isAbsolute = false) :
    (base.join rest).isEmpty = false := by
  rw [← Bool.not_eq_true, isEmpty_iff] at hbase ⊢
  rw [toList_join h, List.append_eq_nil_iff, opening]
  split
  · exact fun e => hbase e.1
  · simp

/-- Paths with one text are one path. -/
theorem eq_of_toList {other : Path} (h : path.text.toList = other.text.toList) : path = other :=
  congrArg Path.mk (String.toList_injective h)

/-- A text that is not empty starts where it starts, whatever follows. -/
theorem isAbsolute_append_of_ne {front : String} (hne : front ≠ "") (back : String) :
    (Path.mk (front ++ back)).isAbsolute = (Path.mk front).isAbsolute := by
  rw [isAbsolute_append front.toList back.toList (mt String.toList_eq_nil_iff.mp hne)
    String.toList_append, isAbsolute]

/-- A dot and more text make no text absolute. -/
theorem isAbsolute_suffixed (h : (Path.mk rest).isAbsolute = false) (extension : String) :
    (Path.mk (rest ++ "." ++ extension)).isAbsolute = false := by
  cases hrest : rest.toList with
  | nil =>
    rw [isAbsolute, String.toList_append, String.toList_append, hrest]
    rfl
  | cons c tail =>
    rw [← h, isAbsolute_append rest.toList _ (by simp [hrest])
      (by rw [String.toList_append, String.toList_append, List.append_assoc]), isAbsolute]

/-- Text behind a relative path stays behind it. -/
theorem withSuffix_join (h : (Path.mk rest).isAbsolute = false) (extension : String) :
    (base.join rest).withSuffix extension = base.join (rest ++ "." ++ extension) := by
  apply eq_of_toList
  rw [toList_join (isAbsolute_suffixed h extension), withSuffix]
  simp [toList_join h]

/-- A path behind another one that lies behind a third. -/
theorem join_join (hrest : (Path.mk rest).isAbsolute = false)
    (hmore : (Path.mk more).isAbsolute = false) (hne : rest.toList ≠ [])
    (hend : rest.toList.getLast? ≠ some '/') :
    (base.join rest).join more = base.join (rest ++ "/" ++ more) := by
  have hlonger : (Path.mk (rest ++ "/" ++ more)).isAbsolute = false := by
    rw [← hrest, isAbsolute_append rest.toList _ hne
      (by rw [String.toList_append, String.toList_append, List.append_assoc]), isAbsolute]
  have hopening : (base.join rest).opening = base.opening ++ rest.toList ++ ['/'] := by
    rw [opening, toList_join hrest, if_neg]
    rw [Bool.or_eq_true, List.isSuffixOf_iff_suffix, List.singleton_suffix_iff_getLast?_eq_some,
      List.getLast?_append_of_ne_nil _ hne]
    rintro (hempty | hslash)
    · exact hne (List.append_eq_nil_iff.mp (List.isEmpty_iff.mp hempty)).2
    · exact hend hslash
  apply eq_of_toList
  rw [toList_join hmore, toList_join hlonger, hopening]
  simp

/-! ## Segments -/

/-- The segments of a text. -/
def cut : List Char → List (List Char)
  | '/' :: rest => Text.splitOn '/' rest
  | chars => Text.splitOn '/' chars

/-- The segments of a path, through the characters of its text. -/
theorem segments_eq_cut : path.segments = cut path.text.toList := by
  unfold Path.segments cut
  rfl

/-- Without a slash in front a text is cut at all its slashes. -/
theorem cut_of_ne {text : List Char} (h : text.head? ≠ some '/') :
    cut text = Text.splitOn '/' text := by
  unfold cut
  split
  · exact absurd rfl h
  · rfl

/-- A text is cut at a slash inside it. -/
theorem cut_append_cons {front back : List Char} (h : front ≠ []) :
    cut (front ++ '/' :: back) = cut front ++ Text.splitOn '/' back := by
  cases front with
  | nil => exact absurd rfl h
  | cons c tail =>
    by_cases hc : c = '/'
    · subst hc
      exact Text.splitOn_append_cons '/' tail back
    · have hcut (text : List Char) : cut (c :: text) = Text.splitOn '/' (c :: text) :=
        cut_of_ne fun e => hc (Option.some.inj e)
      rw [List.cons_append, hcut, hcut]
      exact Text.splitOn_append_cons '/' (c :: tail) back

/-- No segment holds a slash. -/
theorem not_mem_of_mem_segments {segment : List Char} (h : segment ∈ path.segments) :
    '/' ∉ segment := by
  rw [segments_eq_cut] at h
  unfold cut at h
  split at h
  · exact Text.not_mem_of_mem_splitOn h
  · exact Text.not_mem_of_mem_splitOn h

/-- The segments hold nothing but what the path holds. -/
theorem mem_of_mem_segments {segment : List Char} {c : Char} (h : segment ∈ path.segments)
    (hc : c ∈ segment) : c ∈ path.text.toList := by
  rw [segments_eq_cut] at h
  unfold cut at h
  split at h
  · rename_i rest htext
    rw [htext]
    exact List.mem_cons_of_mem _ (Text.mem_of_mem_splitOn h hc)
  · exact Text.mem_of_mem_splitOn h hc

/-- The segments of a path behind another one come after the segments of that one, of which an empty
one at the end is dropped. -/
theorem segments_join (hbase : base.isEmpty = false) (h : (Path.mk rest).isAbsolute = false) :
    ∃ front ending, base.segments = front ++ ending ∧ (ending = [] ∨ ending = [[]]) ∧
      (base.join rest).segments = front ++ Text.splitOn '/' rest.toList := by
  rw [segments_eq_cut, segments_eq_cut, toList_join h]
  unfold opening
  split
  · rename_i hslash
    rw [Bool.or_eq_true, List.isEmpty_iff] at hslash
    obtain ⟨body, hbody⟩ :=
      List.isSuffixOf_iff_suffix.mp (hslash.resolve_left (mt isEmpty_iff.mpr (by simp [hbase])))
    rw [← hbody, List.append_assoc, List.singleton_append]
    cases body with
    | nil => exact ⟨[], [[]], rfl, Or.inr rfl, rfl⟩
    | cons c tail =>
      exact ⟨cut (c :: tail), [[]], cut_append_cons (List.cons_ne_nil _ _), Or.inr rfl,
        cut_append_cons (List.cons_ne_nil _ _)⟩
  · refine ⟨cut base.text.toList, [], (List.append_nil _).symm, Or.inl rfl, ?_⟩
    rw [List.append_assoc, List.singleton_append]
    exact cut_append_cons (mt isEmpty_iff.mpr (by simp [hbase]))

/-- A path behind another one starts where that one starts. -/
theorem isAbsolute_join (hbase : base.isEmpty = false) (h : (Path.mk rest).isAbsolute = false) :
    (base.join rest).isAbsolute = base.isAbsolute := by
  have hne : base.text.toList ≠ [] := mt isEmpty_iff.mpr (by simp [hbase])
  have htext : (base.join rest).text.toList = base.opening ++ rest.toList := toList_join h
  unfold opening at htext
  split at htext
  · exact isAbsolute_append _ _ hne htext
  · rw [List.append_assoc] at htext
    exact isAbsolute_append _ _ hne htext

/-! ## Paths of segments -/

/-- Whether a segment leads nowhere else. -/
def staysHere (segment : List Char) : Bool := segment.isEmpty || segment == ['.']

/-- The segments that do not stay. -/
def moves (segments : List (List Char)) : List (List Char) := segments.filter (! staysHere ·)

/-- A segment that stays where it is moves nothing. -/
theorem moves_cons_of_stays {segment : List Char} (h : staysHere segment = true) :
    moves (segment :: segments) = moves segments :=
  List.filter_cons_of_neg (by simp [h])

/-- Any other segment is a move. -/
theorem moves_cons_of_moves {segment : List Char} (h : staysHere segment = false) :
    moves (segment :: segments) = segment :: moves segments :=
  List.filter_cons_of_pos (by simp [h])

/-- Segments none of which stays are all moves. -/
theorem moves_eq_self (h : ∀ segment ∈ segments, staysHere segment = false) :
    moves segments = segments :=
  List.filter_eq_self.mpr fun segment hsegment => by simp [h segment hsegment]

/-- The moves of segments from the last to the first. -/
theorem moves_reverse (segments : List (List Char)) :
    moves segments.reverse = (moves segments).reverse := List.filter_reverse

/-- Segments behind a slash are an absolute path. -/
theorem isAbsolute_ofSegments (segments : List (List Char)) :
    (ofSegments true segments).isAbsolute = true := by
  rw [isAbsolute, ofSegments, if_pos rfl, String.toList_ofList]
  rfl

/-- The segments that an absolute path is made of are its segments. -/
theorem segments_ofSegments (hne : segments ≠ []) (h : ∀ segment ∈ segments, '/' ∉ segment) :
    (ofSegments true segments).segments = segments := by
  rw [segments_eq_cut, ofSegments, if_pos rfl, String.toList_ofList]
  exact Text.splitOn_joinWith hne h

/-- An absolute path holds slashes and what its segments hold. -/
theorem mem_ofSegments {c : Char} (h : c ∈ (ofSegments true segments).text.toList) :
    c = '/' ∨ ∃ segment ∈ segments, c ∈ segment := by
  rw [ofSegments, if_pos rfl, String.toList_ofList, List.mem_cons] at h
  exact h.elim Or.inl Text.mem_joinWith

/-- An absolute path made of segments leads where they lead. -/
theorem moves_segments_ofSegments (h : ∀ segment ∈ segments, '/' ∉ segment) :
    moves (ofSegments true segments).segments = moves segments := by
  cases segments with
  | nil => rfl
  | cons first others => rw [segments_ofSegments (List.cons_ne_nil _ _) h]

/-! ## Ancestors of absolute paths -/

/-- A first segment that stays has no ending of its own. -/
theorem endings_cons_of_stays {segment : List Char} (h : staysHere segment = true) :
    endings true (segment :: segments) = endings true segments := by
  rw [endings, if_pos]
  simpa [isBlank, staysHere] using h

/-- A first segment that moves has one. -/
theorem endings_cons_of_moves {segment : List Char} (h : staysHere segment = false) :
    endings true (segment :: segments) = (segment :: segments) :: endings true segments := by
  rw [endings, if_neg]
  simpa [isBlank, staysHere] using h

/-- Each ending moves one segment less. -/
theorem map_moves_endings (segments : List (List Char)) :
    (endings true segments).map moves = (moves segments).tails := by
  induction segments with
  | nil => rfl
  | cons segment before ih =>
    cases h : staysHere segment with
    | true => rw [endings_cons_of_stays h, moves_cons_of_stays h, ih]
    | false =>
      rw [endings_cons_of_moves h, List.map_cons, ih, moves_cons_of_moves h, List.tails]

/-- The first ending starts with the first segment that moves. -/
theorem head?_endings (segments : List (List Char)) :
    (endings true segments).head?.bind List.head? = (moves segments).head? := by
  induction segments with
  | nil => rfl
  | cons segment before ih =>
    cases h : staysHere segment with
    | true => rw [endings_cons_of_stays h, moves_cons_of_stays h, ih]
    | false => rw [endings_cons_of_moves h, moves_cons_of_moves h]; rfl

/-- Endings are suffixes. -/
theorem suffix_of_mem_endings {ending : List (List Char)} (h : ending ∈ endings true segments) :
    ending <:+ segments := by
  induction segments with
  | nil =>
    obtain rfl : ending = [] := by simpa [endings] using h
    exact List.suffix_refl []
  | cons segment before ih =>
    cases hstays : staysHere segment with
    | true =>
      rw [endings_cons_of_stays hstays] at h
      exact (ih h).trans (List.suffix_cons _ _)
    | false =>
      rw [endings_cons_of_moves hstays] at h
      rcases List.mem_cons.mp h with rfl | h
      · exact List.suffix_refl _
      · exact (ih h).trans (List.suffix_cons _ _)

/-- An ancestor is the path itself or made of the segments that the path starts with. -/
theorem eq_or_prefix_of_mem_ancestors (habsolute : path.isAbsolute = true)
    (h : ancestor ∈ path.ancestors) :
    ancestor = path ∨ ∃ front, front <+: path.segments ∧ ancestor = ofSegments true front := by
  rw [ancestors, List.mem_cons] at h
  refine h.imp_right fun h => ?_
  obtain ⟨ending, hending, rfl⟩ := List.mem_map.mp h
  rw [ends, habsolute] at hending
  have hsuffix := suffix_of_mem_endings (List.mem_of_mem_tail hending)
  refine ⟨ending.reverse, ?_, by rw [habsolute]⟩
  rwa [← List.reverse_prefix, List.reverse_reverse] at hsuffix

/-- The ancestors of an absolute path are absolute. -/
theorem isAbsolute_of_mem_ancestors (habsolute : path.isAbsolute = true)
    (h : ancestor ∈ path.ancestors) : ancestor.isAbsolute = true := by
  rcases eq_or_prefix_of_mem_ancestors habsolute h with rfl | ⟨front, -, rfl⟩
  · exact habsolute
  · exact isAbsolute_ofSegments front

/-- The ancestors of an absolute path name what it names, one name less at each step. -/
theorem map_moves_ancestors (habsolute : path.isAbsolute = true) :
    path.ancestors.map (fun ancestor => moves ancestor.segments) =
      (moves path.segments).inits.reverse := by
  have hlater (ending : List (List Char)) (hending : ending ∈ path.ends.tail) :
      moves (ofSegments path.isAbsolute ending.reverse).segments = (moves ending).reverse := by
    rw [ends, habsolute] at hending
    have hsuffix := suffix_of_mem_endings (List.mem_of_mem_tail hending)
    rw [habsolute, moves_segments_ofSegments, moves_reverse]
    intro segment hsegment
    exact not_mem_of_mem_segments
      (List.mem_reverse.mp (hsuffix.subset (List.mem_reverse.mp hsegment)))
  have hends : path.ends.map moves = (moves path.segments.reverse).tails := by
    rw [ends, habsolute, map_moves_endings]
  calc path.ancestors.map (fun ancestor => moves ancestor.segments)
      = moves path.segments :: path.ends.tail.map fun ending => (moves ending).reverse := by
        rw [ancestors, List.map_cons, List.map_map]
        exact congrArg _ (List.map_congr_left hlater)
    _ = moves path.segments ::
          (moves path.segments.reverse).tails.tail.map List.reverse := by
        rw [← hends, ← List.map_tail, List.map_map]
        rfl
    _ = (moves path.segments.reverse).tails.map List.reverse := by
        have htails (all : List (List Char)) : all.tails = all :: all.tails.tail := by
          cases all <;> rfl
        rw [htails (moves path.segments.reverse), List.map_cons, List.tail_cons, moves_reverse,
          List.reverse_reverse]
    _ = (moves path.segments).inits.reverse := by
        rw [List.map_reverse_tails, moves_reverse, List.reverse_reverse]

/-- The name of an absolute path that never goes up is the last segment that moves. -/
theorem fileName?_eq_getLast? (habsolute : path.isAbsolute = true)
    (hup : ['.', '.'] ∉ path.segments) :
    path.fileName? = (moves path.segments).getLast? := by
  have hhead : path.ends.head?.bind List.head? = (moves path.segments).getLast? := by
    rw [ends, habsolute, head?_endings, moves_reverse, List.head?_reverse]
  rw [← hhead, fileName?]
  cases hends : path.ends.head? with
  | none => rfl
  | some ending =>
    cases ending with
    | nil => rfl
    | cons name before =>
      rw [hends] at hhead
      have hmem : name ∈ moves path.segments := List.mem_of_getLast? hhead.symm
      obtain ⟨hsegment, hmoves⟩ := List.mem_filter.mp hmem
      have hdot : (name == ['.']) = false := by
        rw [staysHere, Bool.not_or, Bool.and_eq_true] at hmoves
        simpa using hmoves.2
      have hdots : (name == ['.', '.']) = false := by
        rw [beq_eq_false_iff_ne]
        rintro rfl
        exact hup hsegment
      simp [hdot, hdots]

end NamedExports.Path
