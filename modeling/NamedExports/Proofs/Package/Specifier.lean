import NamedExports.Package.Specifier
import NamedExports.Proofs.Path.Segments

/-!
# Names of packages in specifiers

A specifier is read with the name that it starts with, `split_name_eq_iff`: where a name ends is
told by the number of its slashes, as `split_cases` says, so no two names are taken for one another.
What is not the name is the subpath, and nothing is lost: `split_loses_nothing`.
-/

namespace NamedExports.Specifier

variable {specifier : String}

/-! ## What a specifier is read as -/

/-- The number of slashes in the name that a text starts with. -/
def nameSlashes (text : List Char) : Nat := if ['@'].isPrefixOf text then 1 else 0

/-- A specifier with no more slashes than its package's name has is that name; otherwise the name
ends where the next slash stands. -/
theorem split_cases (specifier : String) :
    (split specifier = ⟨specifier, none⟩ ∧
        specifier.toList.count '/' ≤ nameSlashes specifier.toList) ∨
      ∃ name rest, specifier.toList = name ++ '/' :: rest ∧
        name.count '/' = nameSlashes specifier.toList ∧
        split specifier = ⟨String.ofList name, subpath? rest⟩ := by
  rw [split, nameSlashes]
  cases hfirst : Text.splitOnce '/' specifier.toList with
  | none =>
    have hnone := List.count_eq_zero.mpr (Text.splitOnce_eq_none_iff.mp hfirst)
    exact Or.inl ⟨rfl, by rw [hnone]; exact Nat.zero_le _⟩
  | some cut =>
    obtain ⟨first, rest⟩ := cut
    obtain ⟨htext, hslash⟩ := Text.splitOnce_eq_some_iff.mp hfirst
    have hcount := List.count_eq_zero.mpr hslash
    dsimp only
    split
    · cases hsecond : Text.splitOnce '/' rest with
      | none =>
        have hnone := List.count_eq_zero.mpr (Text.splitOnce_eq_none_iff.mp hsecond)
        exact Or.inl ⟨rfl, by rw [htext]; simp [hcount, hnone]⟩
      | some cut =>
        obtain ⟨second, rest'⟩ := cut
        obtain ⟨hrest, hslash'⟩ := Text.splitOnce_eq_some_iff.mp hsecond
        refine Or.inr ⟨first ++ '/' :: second, rest', by rw [htext, hrest]; simp, ?_, rfl⟩
        simp [hcount, List.count_eq_zero.mpr hslash']
    · exact Or.inr ⟨first, rest, htext, hcount, rfl⟩

/-- A subpath is not empty, and it is all that was left. -/
theorem subpath?_eq_some_iff {chars : List Char} {text : String} :
    subpath? chars = some text ↔ chars = text.toList ∧ text ≠ "" := by
  rw [subpath?]
  constructor
  · intro h
    split at h
    · cases h
    · rename_i hempty
      obtain rfl := Option.some.inj h
      refine ⟨String.toList_ofList.symm, fun he => hempty ?_⟩
      rw [← String.toList_eq_nil_iff, String.toList_ofList] at he
      simp [he]
  · rintro ⟨rfl, hne⟩
    rw [if_neg (by simpa using hne), String.ofList_toList]

/-- Nothing is left to look for only behind a slash at the end. -/
theorem subpath?_eq_none_iff {chars : List Char} : subpath? chars = none ↔ chars = [] := by
  simp [subpath?]

/-- A specifier is a text, or goes on behind it with a slash. -/
def StartsWith (specifier : String) (text : List Char) : Prop :=
  specifier.toList = text ∨ ∃ rest, specifier.toList = text ++ '/' :: rest

theorem startsWith_iff {name : String} :
    StartsWith specifier name.toList ↔
      specifier = name ∨ ∃ rest, specifier = name ++ "/" ++ rest := by
  rw [StartsWith, String.toList_inj]
  refine or_congr_right ⟨?_, ?_⟩
  · rintro ⟨rest, hrest⟩
    exact ⟨String.ofList rest, String.ext (by simp [hrest])⟩
  · rintro ⟨rest, rfl⟩
    exact ⟨rest.toList, by simp⟩

/-- A specifier starts with the name of its package. -/
theorem startsWith_split_name (specifier : String) :
    StartsWith specifier (split specifier).name.toList := by
  rcases split_cases specifier with ⟨hsplit, -⟩ | ⟨name, rest, htext, -, hsplit⟩
  · rw [hsplit]
    exact Or.inl rfl
  · rw [hsplit, String.toList_ofList]
    exact Or.inr ⟨rest, htext⟩

theorem split_name_prefix (specifier : String) :
    (split specifier).name.toList <+: specifier.toList := by
  rcases startsWith_split_name specifier with htext | ⟨rest, htext⟩
  · exact ⟨[], by rw [List.append_nil, htext]⟩
  · exact ⟨'/' :: rest, htext.symm⟩

/-- A specifier with a subpath is the name of its package, a slash and the subpath. -/
theorem toList_of_split {name text : String} (h : split specifier = ⟨name, some text⟩) :
    specifier.toList = name.toList ++ '/' :: text.toList := by
  rcases split_cases specifier with ⟨hsplit, -⟩ | ⟨front, rest, htext, -, hsplit⟩
  · rw [hsplit] at h
    cases h
  · rw [hsplit, PackageSpecifier.mk.injEq] at h
    obtain ⟨rfl, hsubpath⟩ := h
    rw [htext, String.toList_ofList, (subpath?_eq_some_iff.mp hsubpath).1]

/-- Nothing of a specifier is lost: it is the name of its package, that name and a slash, or the
name, a slash and the subpath. -/
theorem split_loses_nothing (specifier : String) :
    (split specifier).subpath = none ∧
        (specifier = (split specifier).name ∨ specifier = (split specifier).name ++ "/") ∨
      ∃ text, (split specifier).subpath = some text ∧ text ≠ "" ∧
        specifier = (split specifier).name ++ "/" ++ text := by
  rcases split_cases specifier with ⟨hsplit, -⟩ | ⟨name, rest, htext, -, hsplit⟩
  · rw [hsplit]
    exact Or.inl ⟨rfl, Or.inl rfl⟩
  · rw [hsplit]
    cases hsubpath : subpath? rest with
    | none =>
      obtain rfl := subpath?_eq_none_iff.mp hsubpath
      exact Or.inl ⟨rfl, Or.inr (String.ext (by simp [htext]))⟩
    | some text =>
      obtain ⟨rfl, hne⟩ := subpath?_eq_some_iff.mp hsubpath
      exact Or.inr ⟨text, rfl, hne, String.ext (by simp [htext])⟩

/-- A specifier that is no path starts with the name of its package, which is no path either. -/
theorem isAbsolute_split_name (h : isPath specifier = false) :
    (Path.mk (split specifier).name).isAbsolute = false := by
  rw [isPath, Bool.or_eq_false_iff] at h
  rw [← Bool.not_eq_true, Path.isAbsolute_iff]
  rintro ⟨body, hbody⟩
  obtain ⟨rest, hrest⟩ := split_name_prefix specifier
  have habsolute : (Path.mk specifier).isAbsolute = true :=
    Path.isAbsolute_iff.mpr ⟨body ++ rest, by rw [← hrest, hbody, List.cons_append]⟩
  rw [habsolute] at h
  exact Bool.noConfusion h.2

/-! ## Names -/

/-- The form of a package's name: one segment without a scope, or a scope and a segment after it. -/
inductive IsName (name : String) : Prop where
  | plain (nonempty : name ≠ "") (unscoped : name.toList.head? ≠ some '@')
      (oneSegment : '/' ∉ name.toList)
  | inScope {scope segment : List Char} (text : name.toList = '@' :: scope ++ '/' :: segment)
      (isScope : '/' ∉ scope) (isSegment : '/' ∉ segment)

theorem nameSlashes_append {text : List Char} (h : text ≠ []) (rest : List Char) :
    nameSlashes (text ++ rest) = nameSlashes text := by
  obtain ⟨first, others, rfl⟩ := List.exists_cons_of_ne_nil h
  simp [nameSlashes, List.isPrefixOf]

/-- A name has no slash of its own, but for the one behind a scope. -/
theorem IsName.count_slashes {name : String} (h : IsName name) :
    name.toList ≠ [] ∧ name.toList.count '/' = nameSlashes name.toList := by
  cases h with
  | plain nonempty unscoped oneSegment =>
    have hne : name.toList ≠ [] := fun e => nonempty (String.toList_eq_nil_iff.mp e)
    refine ⟨hne, ?_⟩
    rw [List.count_eq_zero.mpr oneSegment]
    obtain ⟨first, others, hname⟩ := List.exists_cons_of_ne_nil hne
    rw [hname, List.head?_cons] at unscoped
    have hfirst : '@' ≠ first := fun e => unscoped (congrArg some e.symm)
    rw [hname, nameSlashes, if_neg (by simpa [List.isPrefixOf] using hfirst)]
  | inScope text isScope isSegment =>
    rw [text]
    refine ⟨List.cons_ne_nil _ _, ?_⟩
    have hscope := List.count_eq_zero.mpr isScope
    have hsegment := List.count_eq_zero.mpr isSegment
    simp [nameSlashes, List.isPrefixOf, hscope, hsegment]

/-- A specifier is read with a name exactly if it starts with that name. -/
theorem split_name_eq_iff {name : String} (h : IsName name) :
    (split specifier).name = name ↔ StartsWith specifier name.toList := by
  obtain ⟨hne, hcount⟩ := h.count_slashes
  refine ⟨fun hname => hname ▸ startsWith_split_name specifier, fun hstarts => ?_⟩
  have hslashes : nameSlashes specifier.toList = nameSlashes name.toList := by
    rcases hstarts with htext | ⟨rest, htext⟩
    · rw [htext]
    · rw [htext, nameSlashes_append hne]
  rcases split_cases specifier with ⟨hsplit, hle⟩ | ⟨front, rest, hcut, hfront, hsplit⟩
  · rw [hsplit]
    rcases hstarts with htext | ⟨rest, htext⟩
    · exact String.ext htext
    · rw [hslashes, ← hcount, htext, List.count_append, List.count_cons_self] at hle
      omega
  · rw [hslashes, ← hcount] at hfront
    rw [hsplit]
    rcases hstarts with htext | ⟨rest', htext⟩
    · rw [← htext, hcut, List.count_append, List.count_cons_self] at hfront
      omega
    · rw [Text.eq_of_append_cons_eq (hcut.symm.trans htext) hfront, String.ofList_toList]

/-! ## Names of directories -/

/-- A name of one segment, which names an entry of a directory. -/
def IsPlain (segment : List Char) : Prop :=
  Path.staysHere segment = false ∧ segment ≠ ['.', '.'] ∧ '/' ∉ segment

/-- The name of a package: one segment, or a scope and a segment in it. -/
inductive IsPackageName (name : String) : Prop where
  | plain {segment : List Char} (text : name.toList = segment) (isPlain : IsPlain segment)
      (unscoped : segment.head? ≠ some '@')
  | inScope {scope segment : List Char} (text : name.toList = '@' :: scope ++ '/' :: segment)
      (isScope : '/' ∉ scope) (isPlain : IsPlain segment)

/-- The segments of a package's name lead down, one directory at each. -/
theorem IsPackageName.segments {name : String} (h : IsPackageName name) :
    Path.moves (Text.splitOn '/' name.toList) = Text.splitOn '/' name.toList ∧
      ['.', '.'] ∉ Text.splitOn '/' name.toList := by
  cases h with
  | plain text isPlain unscoped =>
    obtain ⟨hmoves, hdown, hslash⟩ := isPlain
    rw [text, Text.splitOn_of_not_mem hslash, Path.moves_cons_of_moves hmoves]
    exact ⟨rfl, by simpa using hdown.symm⟩
  | @inScope scope segment text isScope isPlain =>
    obtain ⟨hmoves, hdown, hslash⟩ := isPlain
    have hscope : '/' ∉ '@' :: scope := by simpa using isScope
    have hstays : Path.staysHere ('@' :: scope) = false := by simp [Path.staysHere]
    rw [text, Text.splitOn_append_cons, Text.splitOn_of_not_mem hscope,
      Text.splitOn_of_not_mem hslash, List.singleton_append, Path.moves_cons_of_moves hstays,
      Path.moves_cons_of_moves hmoves]
    refine ⟨rfl, ?_⟩
    simp only [List.mem_cons, List.not_mem_nil, or_false]
    rintro (hup | hup)
    · cases hup
    · exact hdown hup.symm

theorem IsPackageName.isName {name : String} (h : IsPackageName name) : IsName name := by
  cases h with
  | plain text isPlain unscoped =>
    obtain ⟨hmoves, -, hslash⟩ := isPlain
    subst text
    refine .plain (fun e => ?_) unscoped hslash
    rw [e] at hmoves
    cases hmoves
  | inScope text isScope isPlain => exact .inScope text isScope isPlain.2.2

/-- The first segment of a path names nothing in a directory. -/
theorem head?_of_isPath (h : isPath specifier = true) :
    (Text.splitOn '/' specifier.toList).head? = some [] ∨
      (Text.splitOn '/' specifier.toList).head? = some ['.'] ∨
      (Text.splitOn '/' specifier.toList).head? = some ['.', '.'] := by
  simp only [isPath, Bool.or_eq_true, beq_iff_eq, List.isPrefixOf_iff_prefix] at h
  rcases h with (((rfl | rfl) | ⟨rest, hrest⟩) | ⟨rest, hrest⟩) | habsolute
  · exact Or.inr (Or.inl rfl)
  · exact Or.inr (Or.inr rfl)
  · rw [← hrest]
    exact Or.inr (Or.inl (by simp [Text.splitOn]))
  · rw [← hrest]
    exact Or.inr (Or.inr (by simp [Text.splitOn]))
  · obtain ⟨body, hbody⟩ := Path.isAbsolute_iff.mp habsolute
    rw [hbody]
    exact Or.inl rfl

/-- A specifier whose first segment names something is no path. -/
theorem isPath_eq_false {first : List Char} {rest : List (List Char)}
    (hsegments : Text.splitOn '/' specifier.toList = first :: rest)
    (hmoves : Path.staysHere first = false) (hdown : first ≠ ['.', '.']) :
    isPath specifier = false := by
  rw [← Bool.not_eq_true]
  intro hpath
  rcases head?_of_isPath hpath with h | h | h <;>
    rw [hsegments, List.head?_cons, Option.some.injEq] at h <;> subst h
  · cases hmoves
  · cases hmoves
  · exact hdown rfl

/-- A specifier is read with the name of the package that it names. -/
theorem split_name_of_names {name : String} (h : IsPackageName name)
    (hnames : specifier = name ∨ ∃ rest, specifier = name ++ "/" ++ rest) :
    isPath specifier = false ∧ (split specifier).name = name := by
  have hstarts : StartsWith specifier name.toList := startsWith_iff.mpr hnames
  refine ⟨?_, (split_name_eq_iff h.isName).mpr hstarts⟩
  obtain ⟨more, hmore⟩ := Text.splitOn_prefix_iff.mpr hstarts
  obtain ⟨first, others, hfirst⟩ :=
    List.exists_cons_of_ne_nil (Text.splitOn_ne_nil '/' name.toList)
  obtain ⟨hmoves, hdown⟩ := h.segments
  rw [hfirst] at hmoves hdown hmore
  refine isPath_eq_false hmore.symm ?_ fun e => hdown (e ▸ List.mem_cons_self)
  have hmem : first ∈ Path.moves (first :: others) := hmoves.symm ▸ List.mem_cons_self
  simpa [Path.moves] using hmem

end NamedExports.Specifier
