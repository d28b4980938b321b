import NamedExports.Proofs.Name
import NamedExports.Proofs.Script.Reading

/-!
# Reading a module that exports a variable

A word of `[A-Za-z_$][A-Za-z0-9_$]*` at the end of a text is read as one token, `at?_of_isWord`.  If
the word can be a name, a module can declare a variable of that name and export it:
`read_exportingText`.
-/

namespace NamedExports.Script

open Name (IsLetter IsWord)

variable {c : Char} {rest fuel : List Char} {name : String}

/-! ## Words -/

/-- A letter starts a word, and no other token, blank or comment. -/
theorem startsWord (h : IsLetter c) :
    Text.isIdentifierStart c = true ∧ c.isDigit = false ∧ isLineEnd c = false ∧
      isBlank c = false ∧ c ∉ ['"', '\'', '\x60', '.', '#', '\\', '/', '<'] := by
  have hascii := Name.toNat_lt_of_isLetter (Or.inl h)
  revert h
  refine Text.Utf8.forall_ascii ?_ hascii
  unfold IsLetter
  decide

/-- Letters and digits continue a word. -/
theorem continuesWord (h : IsLetter c ∨ '0' ≤ c ∧ c ≤ '9') :
    Text.isIdentifierPart c = true ∧ c ≠ '\\' := by
  have hascii := Name.toNat_lt_of_isLetter h
  revert h
  refine Text.Utf8.forall_ascii ?_ hascii
  unfold IsLetter
  decide

/-- A word goes on while there are characters that continue it. -/
theorem wordRest_eq (hrest : ∀ c ∈ rest, Text.isIdentifierPart c = true ∧ c ≠ '\\')
    (hfuel : rest.length ≤ fuel.length) : wordRest fuel rest = .ok (rest, false, []) := by
  induction rest generalizing fuel with
  | nil => cases fuel <;> rfl
  | cons c others ih =>
    obtain _ | ⟨step, fuel⟩ := fuel
    · cases hfuel
    · obtain ⟨hpart, hplain⟩ := hrest c List.mem_cons_self
      have hothers := ih (fun d hd => hrest d (List.mem_cons_of_mem _ hd))
        (Nat.le_of_succ_le_succ hfuel)
      rw [wordRest, if_pos hpart, hothers]
      · rfl
      · exact fun _ h => absurd h hplain
      · exact hplain

/-- A word is read as one token. -/
theorem at?_of_isWord (h : IsWord name) : Token.at? name.toList = .ok (.word name false, []) := by
  obtain ⟨first, rest, htext, hfirst, hrest⟩ := h
  obtain ⟨hstart, hdigit, -, -, hplain⟩ := startsWord hfirst
  simp only [List.mem_cons, List.not_mem_nil, or_false, not_or] at hplain
  obtain ⟨hdouble, hsingle, hback, hdot, hhash, hslash, -, -⟩ := hplain
  have hword : word? (first :: rest) = .ok (some (name, false, [])) := by
    rw [word?, if_pos hstart, wordRest_eq (fun c hc => continuesWord (hrest c hc)) (Nat.le_refl _)]
    · show Except.ok (some (String.ofList (first :: rest), false, [])) = _
      rw [← htext, String.ofList_toList]
    · exact fun _ h => absurd h hslash
    · exact hslash
  rw [htext, Token.at?]
  simp [hdouble, hsingle, hback, hdot, hhash, hdigit, hword]

/-- Behind a blank, it is the next token. -/
theorem next_of_isWord (h : IsWord name) : Token.next false (' ' :: name.toList) =
    .ok ⟨.word name false, false, name.toList, []⟩ := by
  have hskip : skipBlanks .between false (' ' :: name.toList) = .ok (false, name.toList) := by
    obtain ⟨first, rest, htext, hfirst, -⟩ := h
    obtain ⟨-, -, hline, hblank, hplain⟩ := startsWord hfirst
    simp only [List.mem_cons, List.not_mem_nil, or_false, not_or] at hplain
    obtain ⟨-, -, -, -, -, -, hslash, hless⟩ := hplain
    rw [htext]
    show skipBlanks .between false (first :: rest) = _
    rw [skipBlanks, hline, hblank]
    · rfl
    · exact fun _ h => absurd h hslash
    · exact fun _ h => absurd h hslash
    · exact fun _ h => absurd h hless
    · nofun
  rw [Token.next, hskip]
  show (Token.at? name.toList >>= _) = _
  rw [at?_of_isWord h]
  rfl

namespace Reads

variable {α β : Type} {x : Read α} {f : α → Read β} {a : α} {t t' last : Token} {word : String}
  {read : Readers} {scope : Scope} {initializers : Nat} {exported : List String}

/-- What is read first leaves the rest to what comes after it. -/
theorem bind_run {outcome : Except SyntaxError (β × ReadState)} (hx : Reads x t t' a)
    (hf : f a ⟨t', initializers, exported⟩ = outcome) :
    (x >>= f) ⟨t, initializers, exported⟩ = outcome := by
  show (x ⟨t, initializers, exported⟩ >>= fun p => f p.1 p.2) = _
  rw [hx initializers exported]
  exact hf

theorem advanceKeyword (hkind : t.kind = .word word false) (h : t.after = .ok t') :
    Reads Read.advanceKeyword t t' () := by
  refine bind kind ?_
  rw [hkind]
  exact advance h

theorem eatKeyword_none (hkeyword : Read.isKeyword t word = false) :
    Reads (Read.eatKeyword word) t t false := by
  refine bind (atKeyword word) ?_
  rw [hkeyword]
  exact pure false

/-- A declared name. -/
theorem binding {fuel : Nat} (hkind : t.kind = .word word false)
    (hname : isNameIn scope word = true) (h : t.after = .ok t') :
    Reads (Read.binding read fuel scope) t t' (.ident word) :=
  bind (eat_none (hkind ▸ rfl)) (bind (eat_none (hkind ▸ rfl)) (bind (name hkind hname h) (pure _)))

/-- A declaration of one variable, at the end of the text. -/
theorem variableStatement {fuel : Nat} (hkind : t.kind = .word "var" false)
    (h : t.after = .ok t') (hbinding : Reads (read (.binding scope)) t' last (.ident word))
    (hend : last.kind = .endOfText) :
    Reads (Read.variableStatement read (fuel + 1) scope .var) t last
      (.declare .var [.mk (.ident word) none]) := by
  have hstop (mark : Punct) : Reads (Read.eat mark) last last false := eat_none (by rw [hend]; rfl)
  have hitems : Reads (Read.declarators read scope .var false (fuel + 1)) t' last
      [.mk (.ident word) none] :=
    bind hbinding (bind (hstop _) (bind (pure none) (bind (pure ()) (bind (hstop _) (pure _)))))
  exact bind (advanceKeyword hkind h) (bind hitems (bind (endStatement hend) (pure _)))

/-- A statement that declares a variable, at the end of the text. -/
theorem varStatement {fuel : Nat} {single : Bool} (hkind : t.kind = .word "var" false)
    (h : t.after = .ok t') (hbinding : Reads (read (.binding scope.bracketed)) t' last (.ident word))
    (hend : last.kind = .endOfText) :
    Reads (Read.statement read (fuel + 1) scope single) t last
      (.declare .var [.mk (.ident word) none]) := by
  refine bind token ?_
  rw [hkind]
  exact variableStatement hkind h hbinding hend

/-- A statement that exports a declared variable: the name is recorded. -/
theorem exportStatement_run {fuel : Nat} {single : Bool} (hkind : t.kind = .word "export" false)
    (h : t.after = .ok t') (hvar : t'.kind = .word "var" false)
    (hdeclared : Reads (read (.statement scope.bracketed false)) t' last
      (.declare .var [.mk (.ident word) none])) :
    Read.statement read fuel scope single ⟨t, initializers, []⟩ =
      .ok (.other .exportFrom [] [.declare .var [.mk (.ident word) none]],
        ⟨last, initializers, [word]⟩) := by
  -- what is exported is no list of names, and not the default
  have hmark (mark : Punct) : Reads (Read.eat mark) t' t' false := eat_none (by rw [hvar]; rfl)
  have hdefault : Reads (Read.eatKeyword "default") t' t' false :=
    eatKeyword_none (by rw [Read.isKeyword, hvar]; rfl)
  have hdeclares : (["var", "let", "const", "function", "class", "async"].any
      (Read.isKeyword t' ·) || t'.kind == .punct .at) = true := by
    simp [Read.isKeyword, hvar]
  refine bind_run token ?_
  rw [hkind]
  refine bind_run (advanceKeyword hkind h) (bind_run (hmark _) (bind_run (hmark _)
    (bind_run hdefault (bind_run token ?_))))
  simp only [hdeclares, if_true]
  exact bind_run hdeclared rfl

end Reads

/-! ## A whole program -/

/-- The tokens of a module that exports a variable. -/
def exportingKinds (name : String) : List TokenKind :=
  [.word "export" false, .word "var" false, .word name false, .endOfText]

/-- What they say. -/
def exportingVariable (name : String) : Stmt :=
  .other .exportFrom [] [.declare .var [.mk (.ident name) none]]

/-- They are read as what they say.  Each level of the grammar takes some of the fuel. -/
theorem Follows.read_exporting {first last : Token} (h : Follows first (exportingKinds name) last)
    (hname : isNameIn .top name = true) (fuel : Nat) :
    Read.toEnd (readers (fuel + 3)) (fuel + 3) ⟨first, 0, []⟩ =
      .ok ([exportingVariable name], ⟨last, 0, [name]⟩) := by
  obtain _ | ⟨k₀, h₀, h⟩ := h
  obtain _ | ⟨k₁, h₁, h⟩ := h
  obtain _ | ⟨k₂, h₂, h⟩ := h
  obtain k₃ | ⟨-, -, ⟨⟩⟩ := h
  have hbinding : Reads (readers (fuel + 1) (.binding .top)) _ _ (.ident name) :=
    .binding k₂ hname h₂
  have hvar : Reads (readers (fuel + 2) (.statement .top false)) _ _
      (.declare .var [.mk (.ident name) none]) :=
    .varStatement k₁ h₁ hbinding k₃
  have hstatement : readers (fuel + 3) (.statement .top false) ⟨first, 0, []⟩ =
      .ok (exportingVariable name, ⟨last, 0, [name]⟩) :=
    Reads.exportStatement_run k₀ h₀ k₁ hvar
  have hend : Reads (Read.toEnd (readers (fuel + 3)) (fuel + 2)) last last [] := by
    refine .bind .kind ?_
    rw [k₃]
    exact .pure []
  refine Reads.bind_run .kind ?_
  rw [k₀]
  show (readers (fuel + 3) (.statement .top false) ⟨first, 0, []⟩ >>= _) = _
  rw [hstatement]
  show (Read.toEnd (readers (fuel + 3)) (fuel + 2) ⟨last, 0, [name]⟩ >>= _) = _
  rw [hend 0 [name]]
  rfl

/-- The text of a module that exports a variable. -/
def exportingText (name : String) : List Char := "export var ".toList ++ name.toList

/-- The tokens of the text are those of what it says. -/
theorem follows_exporting (h : IsWord name) :
    ∃ first last, Token.first (exportingText name) = .ok first ∧
      Follows first (exportingKinds name) last := by
  let keyword : Token :=
    ⟨.word "var" false, false, "var ".toList ++ name.toList, ' ' :: name.toList⟩
  have hkeyword : keyword.after = .ok ⟨.word name false, false, name.toList, []⟩ :=
    next_of_isWord h
  exact ⟨⟨.word "export" false, true, exportingText name, " var ".toList ++ name.toList⟩,
    ⟨.endOfText, false, [], []⟩, rfl, .cons rfl rfl (.cons rfl hkeyword (.cons rfl rfl (.last rfl)))⟩

/-- A module may export a variable of any name that is a word. -/
theorem read_exportingText (hword : IsWord name) (hname : isNameIn .top name = true) :
    Program.read (exportingText name) = .ok [exportingVariable name] := by
  obtain ⟨first, last, hfirst, hfollows⟩ := follows_exporting hword
  have hread := hfollows.read_exporting hname (8 * (exportingText name).length + 61)
  rw [Program.read, hfirst]
  show (Read.toEnd (readers (8 * (exportingText name).length + 64))
    (8 * (exportingText name).length + 64) ⟨first, 0, []⟩ >>= _) = _
  rw [hread]
  rfl

end NamedExports.Script
