import NamedExports.Proofs.Scan.Forwarding
import NamedExports.Script.Program

/-!
# Reading a module that exports another one

`Reads` says what a part of a program is read as between two tokens, and its lemmas follow the rules
of the grammar: an operand that a token starts and another one ends, an assignment, a statement.
With them the text of `module.exports = require('…')` is read as what it says, whatever literal
stands between the quotes: `Quotes.read_requiring`.  Every text has such a literal.
-/

namespace NamedExports.Script

open Read (isPlainKeyword isKeyword)

variable {α β : Type} {t t' t'' last : Token} {k : TokenKind} {mark : Punct} {word : String}
  {x : Read α} {f : α → Read β} {a : α} {b : β} {read : Readers} {fuel : Nat} {scope : Scope}
  {e e' : Expr}

/-- A part of a program is read from one token up to another, whatever has been read before it. -/
def Reads (x : Read α) (first last : Token) (a : α) : Prop :=
  ∀ initializers exported,
    x ⟨first, initializers, exported⟩ = .ok (a, ⟨last, initializers, exported⟩)

/-! ## What tokens are for -/

/-- Names that have no part in the grammar. -/
def plainNames : List String := ["module", "require"]

/-- A token that starts an operand, with no operator before it. -/
inductive Starts : TokenKind → Prop
  | name {word : String} (h : word ∈ plainNames) : Starts (.word word false)
  | string (text : String) : Starts (.literal (.string text))

/-- A token that ends an operand. -/
inductive Ends : TokenKind → Prop
  | assign : Ends (.punct (.assign .plain))
  | rightParen : Ends (.punct .rightParen)
  | endOfText : Ends .endOfText

/-- A token that ends an expression. -/
inductive Closes : TokenKind → Prop
  | rightParen : Closes (.punct .rightParen)
  | endOfText : Closes .endOfText

/-- What starts an expression here is no punctuation. -/
theorem Starts.beq_punct (h : Starts k) (mark : Punct) : (k == .punct mark) = false := by
  cases h <;> rfl

/-- What closes an expression ends it. -/
theorem Closes.ends (h : Closes k) : Ends k := by
  cases h with
  | rightParen => exact .rightParen
  | endOfText => exact .endOfText

/-- The plain names are `module` and `require`. -/
theorem mem_plainNames_iff : word ∈ plainNames ↔ word = "module" ∨ word = "require" := by
  simp [plainNames]

namespace Reads

/-! ## Moves and tests -/

/-- A value is read without looking at the text. -/
theorem pure (a : α) : Reads (Pure.pure a) t t a := fun _ _ => rfl

/-- One reading after another goes on where the first one stopped. -/
theorem bind (hx : Reads x t t' a) (hf : Reads (f a) t' t'' b) : Reads (x >>= f) t t'' b := by
  intro initializers exported
  show (x ⟨t, initializers, exported⟩ >>= fun p => f p.1 p.2) = _
  rw [hx initializers exported]
  exact hf initializers exported

/-- A step that does not look at the text reads nothing. -/
theorem lift {outcome : Except SyntaxError α} (h : outcome = .ok a) :
    Reads (liftM outcome : Read α) t t a := by
  subst h
  exact fun _ _ => rfl

theorem token : Reads Read.token t t t := fun _ _ => rfl

theorem kind : Reads Read.kind t t t.kind := fun _ _ => rfl

theorem at_ (mark : Punct) : Reads (Read.at_ mark) t t (t.kind == .punct mark) := fun _ _ => rfl

theorem atKeyword (word : String) : Reads (Read.atKeyword word) t t (isKeyword t word) :=
  fun _ _ => rfl

theorem setToken : Reads (Read.setToken t') t t' () := fun _ _ => rfl

/-- A look ahead reads nothing. -/
theorem peek (h : t.after = .ok t') : Reads Read.peek t t t' := bind token (lift h)

/-- Going on reads one token. -/
theorem advance (h : t.after = .ok t') : Reads Read.advance t t' () :=
  bind token (bind (lift h) setToken)

/-- A mark that comes next is eaten. -/
theorem eat (hkind : t.kind = .punct mark) (h : t.after = .ok t') :
    Reads (Read.eat mark) t t' true := by
  refine bind (at_ mark) ?_
  rw [hkind, beq_self_eq_true]
  exact bind (advance h) (pure true)

/-- Another mark is left alone. -/
theorem eat_none (hkind : (t.kind == .punct mark) = false) : Reads (Read.eat mark) t t false := by
  refine bind (at_ mark) ?_
  rw [hkind]
  exact pure false

/-- A word that can be a name is read as one. -/
theorem name {escaped : Bool} (hkind : t.kind = .word word escaped)
    (hname : isNameIn scope word = true) (h : t.after = .ok t') :
    Reads (Read.name scope) t t' word := by
  refine bind kind ?_
  rw [hkind]
  show Reads (if isNameIn scope word = true then _ else _) t t' word
  rw [if_pos hname]
  exact bind (advance h) (pure word)

/-- Behind a dot any word is read. -/
theorem anyWord {escaped : Bool} (hkind : t.kind = .word word escaped) (h : t.after = .ok t') :
    Reads Read.anyWord t t' word := by
  refine bind kind ?_
  rw [hkind]
  exact bind (advance h) (pure word)

/-! ## Operands -/

/-- A plain name is read as a primary expression. -/
theorem primary_name (hword : word ∈ plainNames) (hkind : t.kind = .word word false)
    (h : t.after = .ok t') : Reads (Read.primary read fuel .top) t t' (.ident word) := by
  refine bind token ?_
  rw [hkind]
  obtain rfl | rfl := mem_plainNames_iff.mp hword
  · exact bind (name hkind (by decide) h) (pure _)
  · exact bind (name hkind (by decide) h) (pure _)

/-- A literal is read as a primary expression. -/
theorem primary_literal {value : Literal} (hkind : t.kind = .literal value)
    (h : t.after = .ok t') : Reads (Read.primary read fuel scope) t t' (.literal value) := by
  refine bind token ?_
  rw [hkind]
  exact bind (advance h) (pure _)

/-- Where an expression ends, no more accesses are read. -/
theorem accesses_end (hend : Ends t.kind) :
    Reads (Read.accesses read scope true false e (fuel + 1)) t t (e, false) := by
  refine bind kind ?_
  generalize t.kind = k at hend ⊢
  cases hend <;> exact pure _

/-- A dot and a word are read as an access to a member. -/
theorem accesses_dot {escaped : Bool} (hkind : t.kind = .punct .dot) (h : t.after = .ok t')
    (hword : t'.kind = .word word escaped) (h' : t'.after = .ok t'')
    (hrest : Reads (Read.accesses read scope true false (.member e word) fuel) t'' last
      (e', false)) :
    Reads (Read.accesses read scope true false e (fuel + 1)) t last (e', false) := by
  refine bind kind ?_
  rw [hkind]
  refine bind (advance h) (bind (bind kind ?_) hrest)
  rw [hword]
  exact bind (anyWord hword h') (pure _)

/-- A call with one argument. -/
theorem accesses_call (hkind : t.kind = .punct .leftParen) (h : t.after = .ok t')
    (hstart : Starts t'.kind) (harg : Reads (read (.assignment scope.bracketed)) t' t'' e')
    (hclose : t''.kind = .punct .rightParen) (h'' : t''.after = .ok last) (hend : Ends last.kind) :
    Reads (Read.accesses read scope true false e (fuel + 2)) t last (.call e [e'], false) := by
  have hargument : Reads (Read.argument read scope) t' t'' e' :=
    bind (eat_none (hstart.beq_punct _)) harg
  have hlist : Reads (Read.arguments read (fuel + 1) scope) t' last [e'] :=
    bind (eat_none (hstart.beq_punct _)) (bind hargument (bind (eat hclose h'') (pure _)))
  refine bind kind ?_
  rw [hkind]
  exact bind (advance h) (bind hlist (accesses_end hend))

/-- A primary expression with its accesses is read as what may stand left of an assignment. -/
theorem leftHandSide (hbase : Reads (Read.primary read fuel scope) t t' e)
    (haccesses : Reads (Read.accesses read scope true false e fuel) t' t'' (e', false)) :
    Reads (Read.leftHandSide read fuel scope none) t t'' e' :=
  bind hbase (bind haccesses (pure _))

/-- Such an expression is read whole if no `++` or `--` follows. -/
theorem postfixed (hend : Ends t'.kind)
    (h : Reads (Read.leftHandSide read fuel scope none) t t' e) :
    Reads (Read.postfixed read fuel scope none) t t' e := by
  refine bind h (bind token ?_)
  have hstep : (t'.kind == .punct .increment || t'.kind == .punct .decrement) = false := by
    generalize t'.kind = k at hend ⊢
    cases hend <;> rfl
  simp only [hstep, Bool.and_false, Bool.false_eq_true, if_false]
  exact pure e

/-- It is read whole if no operator stands in front. -/
theorem unary (hstart : Starts t.kind) (hend : Ends t'.kind)
    (h : Reads (Read.leftHandSide read fuel scope none) t t' e) :
    Reads (Read.unary read fuel scope none) t t' e := by
  refine bind token ?_
  have hpostfixed := postfixed hend h
  rw [Read.unaryOp?]
  generalize t.kind = k at hstart ⊢
  cases hstart with
  | name hword => obtain rfl | rfl := mem_plainNames_iff.mp hword <;> exact hpostfixed
  | string text => exact hpostfixed

/-- Where an expression ends, no operators are read. -/
theorem operatorsAfter {level : Nat} (hend : Ends t.kind) :
    Reads (Read.operatorsAfter read scope level e (fuel + 1)) t t e := by
  refine bind token ?_
  rw [Read.infixOp?]
  generalize t.kind = k at hend ⊢
  cases hend <;> exact pure e

/-- It is read whole if no binary operator follows. -/
theorem binary {level : Nat} (hstart : Starts t.kind) (hend : Ends t'.kind)
    (h : Reads (Read.leftHandSide read (fuel + 1) scope none) t t' e) :
    Reads (Read.binary read (fuel + 1) scope level none) t t' e := by
  refine bind kind ?_
  have hunary := unary hstart hend h
  generalize t.kind = k at hstart ⊢
  cases hstart <;> exact bind hunary (operatorsAfter hend)

/-! ## Expressions -/

/-- An expression here does not start with an arrow function. -/
theorem start (hstart : Starts t.kind) :
    Reads (Read.start read fuel scope) t t (.from_ none) := by
  refine bind token ?_
  rw [isPlainKeyword]
  generalize t.kind = k at hstart ⊢
  cases hstart with
  | name hword => obtain rfl | rfl := mem_plainNames_iff.mp hword <;> exact pure _
  | string text => exact pure _

/-- Where an expression ends, no arrow follows. -/
theorem atArrow (hend : Ends t.kind) : Reads Read.atArrow t t false := by
  have harrow : (t.kind == .punct .arrow && !t.newlineBefore) = false := by
    generalize t.kind = k at hend ⊢
    cases hend <;> rfl
  exact harrow ▸ bind token (pure _)

/-- An operand and what follows it, up to the end of the assignment. -/
theorem assignment (hstart : Starts t.kind) (hend : Ends t'.kind)
    (h : Reads (Read.leftHandSide read (fuel + 1) .top none) t t' e)
    (hrest : Reads (Read.assignmentRest read (fuel + 1) .top e) t' t'' e') :
    Reads (Read.assignment read (fuel + 1) .top) t t'' e' :=
  bind (atKeyword _) (bind (start hstart) (bind (binary hstart hend h) hrest))

/-- Where an expression is closed, no assignment follows. -/
theorem assignmentRest_end (hclose : Closes t.kind) :
    Reads (Read.assignmentRest read fuel scope e) t t e := by
  have hquestion : (t.kind == .punct .question) = false := by
    generalize t.kind = k at hclose ⊢
    cases hclose <;> rfl
  refine bind (atArrow hclose.ends) ?_
  simp only [Bool.and_false, Bool.false_eq_true, if_false]
  refine bind kind ?_
  generalize t.kind = k at hclose ⊢
  cases hclose <;> exact bind (eat_none hquestion) (pure e)

/-- An assignment to a property. -/
theorem assignmentRest_assign {key : String} (hkind : t.kind = .punct (.assign .plain))
    (h : t.after = .ok t') (hvalue : Reads (read (.assignment scope)) t' t'' e') :
    Reads (Read.assignmentRest read fuel scope (.member e key)) t t''
      (.assign .plain (.member e key) e') := by
  refine bind (atArrow (hkind ▸ .assign)) (bind kind ?_)
  rw [hkind]
  exact bind (pure _) (bind (advance h) (bind hvalue (pure _)))

/-- A single assignment is an expression, if no comma follows. -/
theorem expression (hclose : Closes t'.kind) (h : Reads (read (.assignment scope)) t t' e) :
    Reads (Read.expression read (fuel + 1) scope) t t' e := by
  have hcomma : (t'.kind == .punct .comma) = false := by
    generalize t'.kind = k at hclose ⊢
    cases hclose <;> rfl
  have hrest : Reads (Read.afterCommas read scope (fuel + 1)) t' t' [] :=
    bind (eat_none hcomma) (pure [])
  exact bind h (bind hrest (pure e))

/-! ## Statements -/

/-- A statement ends where the text ends. -/
theorem endStatement (hend : t.kind = .endOfText) : Reads Read.endStatement t t () := by
  have hends : (t.newlineBefore || t.kind == .punct .semicolon || t.kind == .punct .rightBrace ||
      t.kind == .endOfText) = true := by
    rw [hend]
    exact Bool.or_true _
  have hstop : Reads Read.atStatementEnd t t true := hends ▸ bind token (pure _)
  exact bind hstop (bind (eat_none (by rw [hend]; rfl)) (pure ()))

/-- A statement that is an assignment, at the end of the text. -/
theorem statement {single : Bool} {op : AssignOp} {target : Expr} (hword : word ∈ plainNames)
    (hkind : t.kind = .word word false) (h : t.after = .ok t') (hend : t''.kind = .endOfText)
    (hexpr : Reads (read (.expression scope.bracketed)) t t'' (.assign op target e)) :
    Reads (Read.statement read fuel scope single) t t'' (.expr (.assign op target e)) := by
  have hstatement : Reads (Read.expressionStatement read scope.bracketed) t t''
      (.expr (.assign op target e)) :=
    bind hexpr (bind (endStatement hend) (pure _))
  refine bind token ?_
  rw [hkind]
  -- a plain name starts none of the other statements, whatever follows it
  obtain rfl | rfl := mem_plainNames_iff.mp hword
  · refine bind (peek h) ?_
    simp only [isPlainKeyword, Read.declaresUsing, hkind]
    exact hstatement
  · refine bind (peek h) ?_
    simp only [isPlainKeyword, Read.declaresUsing, hkind]
    exact hstatement

end Reads

/-! ## A whole program -/

/-- Tokens of these kinds follow each other, from the first to the last. -/
inductive Follows : Token → List TokenKind → Token → Prop
  | last {t : Token} {k : TokenKind} (hkind : t.kind = k) : Follows t [k] t
  | cons {t t' last : Token} {k : TokenKind} {kinds : List TokenKind} (hkind : t.kind = k)
      (hafter : t.after = .ok t') (rest : Follows t' kinds last) : Follows t (k :: kinds) last

/-- The tokens of `module.exports = require('…')`. -/
def requiringKinds (specifier : String) : List TokenKind :=
  [.word "module" false, .punct .dot, .word "exports" false, .punct (.assign .plain),
    .word "require" false, .punct .leftParen, .literal (.string specifier), .punct .rightParen,
    .endOfText]

/-- They are read as what they say.  Each level of the grammar takes some of the fuel. -/
theorem Follows.reads_requiring {specifier : String} (h : Follows t (requiringKinds specifier) last)
    (fuel : Nat) : Reads (Read.toEnd (readers (fuel + 8)) (fuel + 8)) t last
      [.expr (exporting (requireCall specifier))] := by
  obtain _ | ⟨k₀, h₀, h⟩ := h
  obtain _ | ⟨k₁, h₁, h⟩ := h
  obtain _ | ⟨k₂, h₂, h⟩ := h
  obtain _ | ⟨k₃, h₃, h⟩ := h
  obtain _ | ⟨k₄, h₄, h⟩ := h
  obtain _ | ⟨k₅, h₅, h⟩ := h
  obtain _ | ⟨k₆, h₆, h⟩ := h
  obtain _ | ⟨k₇, h₇, h⟩ := h
  obtain k₈ | ⟨-, -, ⟨⟩⟩ := h
  have hargument : Reads (readers (fuel + 4) (.assignment .top)) _ _
      (.literal (.string specifier)) :=
    .assignment (k₆ ▸ .string specifier) (k₇ ▸ .rightParen)
      (.leftHandSide (.primary_literal k₆ h₆) (.accesses_end (k₇ ▸ .rightParen)))
      (.assignmentRest_end (k₇ ▸ .rightParen))
  have hvalue : Reads (readers (fuel + 5) (.assignment .top)) _ _ (requireCall specifier) :=
    .assignment (k₄ ▸ .name (by decide)) (k₈ ▸ .endOfText)
      (.leftHandSide (.primary_name (by decide) k₄ h₄)
        (.accesses_call k₅ h₅ (k₆ ▸ .string specifier) hargument k₇ h₇ (k₈ ▸ .endOfText)))
      (.assignmentRest_end (k₈ ▸ .endOfText))
  have hassign : Reads (readers (fuel + 6) (.assignment .top)) _ _
      (exporting (requireCall specifier)) :=
    .assignment (k₀ ▸ .name (by decide)) (k₃ ▸ .assign)
      (.leftHandSide (.primary_name (by decide) k₀ h₀)
        (.accesses_dot k₁ h₁ k₂ h₂ (.accesses_end (k₃ ▸ .assign))))
      (.assignmentRest_assign k₃ h₃ hvalue)
  have hstatement : Reads (readers (fuel + 8) (.statement .top false)) _ _
      (.expr (exporting (requireCall specifier))) :=
    .statement (by decide) k₀ h₀ k₈ (.expression (k₈ ▸ .endOfText) hassign)
  have hend : Reads (Read.toEnd (readers (fuel + 8)) (fuel + 7)) last last [] := by
    refine .bind .kind ?_
    rw [k₈]
    exact .pure []
  refine .bind .kind ?_
  rw [k₀]
  exact .bind hstatement (.bind hend (.pure _))

/-! ## Its text -/

/-- How a character is written between single quotes. -/
def quotedChar (c : Char) : List Char :=
  if c == '\'' || c == '\\' then ['\\', c]
  else if c == '\n' then ['\\', 'n']
  else if c == '\r' then ['\\', 'r']
  else [c]

/-- How a text is written between single quotes. -/
def quoted (chars : List Char) : List Char := chars.flatMap quotedChar

/-- A text without quotes, backslashes and line breaks is written as it is. -/
theorem quoted_eq_self {chars : List Char} (h : ∀ c ∈ chars, c ∉ ['\'', '\\', '\n', '\r']) :
    quoted chars = chars := by
  induction chars with
  | nil => rfl
  | cons c others ih =>
    have hc := h c List.mem_cons_self
    rw [quoted, List.flatMap_cons, ← quoted, ih fun c hmem => h c (List.mem_cons_of_mem _ hmem)]
    simp only [List.mem_cons, List.not_mem_nil, or_false, not_or] at hc
    simp [quotedChar, hc]

/-- A character is read back from how it is written. -/
theorem stringBody_quotedChar (c step : Char) (fuel rest : List Char) :
    stringBody '\'' (step :: fuel) (quotedChar c ++ rest) =
      (stringBody '\'' fuel rest).map fun (codes, after) => (c.toNat :: codes, after) := by
  have hmap (codes : List Nat) (x : Except SyntaxError (List Nat × List Char)) :
      (do let (more, final) ← x; return (codes ++ more, final)) =
        x.map fun (more, final) => (codes ++ more, final) := by
    cases x <;> rfl
  rw [quotedChar]
  split
  · rename_i h
    simp only [Bool.or_eq_true, beq_iff_eq] at h
    obtain rfl | rfl := h
    · exact hmap ['\''.toNat] _
    · exact hmap ['\\'.toNat] _
  · rename_i hplain
    simp only [Bool.or_eq_true, beq_iff_eq, not_or] at hplain
    obtain ⟨hquote, hslash⟩ := hplain
    split
    · rename_i h
      obtain rfl : c = '\n' := beq_iff_eq.mp h
      exact hmap ['\n'.toNat] _
    · rename_i hline
      split
      · rename_i h
        obtain rfl : c = '\r' := beq_iff_eq.mp h
        exact hmap ['\r'.toNat] _
      · rename_i hreturn
        rw [List.singleton_append, stringBody, if_neg (by simpa using hquote),
          if_neg (by simpa using ⟨by simpa using hline, by simpa using hreturn⟩)]
        · exact hmap [c.toNat] _
        · exact hslash

/-- A text is read back from how it is written, up to the quote behind it. -/
theorem stringBody_quoted (chars fuel rest : List Char) (h : chars.length < fuel.length) :
    stringBody '\'' fuel (quoted chars ++ '\'' :: rest) = .ok (chars.map Char.toNat, rest) := by
  induction chars generalizing fuel with
  | nil =>
    obtain _ | ⟨step, fuel⟩ := fuel
    · cases h
    · rfl
  | cons c others ih =>
    obtain _ | ⟨step, fuel⟩ := fuel
    · cases h
    · rw [quoted, List.flatMap_cons, List.append_assoc, stringBody_quotedChar, ← quoted,
        ih fuel (Nat.lt_of_succ_lt_succ h)]
      rfl

/-- Quoting makes no text shorter. -/
theorem length_le_length_quoted (chars : List Char) : chars.length ≤ (quoted chars).length := by
  induction chars with
  | nil => exact Nat.le_refl _
  | cons c others ih =>
    have hsome : 1 ≤ (quotedChar c).length := by
      unfold quotedChar
      repeat' split
      all_goals simp
    rw [quoted, List.flatMap_cons, ← quoted, List.length_append, List.length_cons, Nat.add_comm]
    exact Nat.add_le_add hsome ih

/-- Characters are the text of their codes: none is half of a pair. -/
theorem textOfCodes_toNat (chars : List Char) :
    textOfCodes (chars.map Char.toNat) = String.ofList chars := by
  have hwhole : (chars.map Char.toNat).any
      (fun code => 0xD800 ≤ code && code ≤ 0xDFFF) = false := by
    simp only [List.any_map, List.any_eq_false, Function.comp_apply]
    intro c _
    have hvalid : c.toNat < 0xD800 ∨ 0xDFFF < c.toNat ∧ c.toNat < 0x110000 := c.valid
    simp only [Bool.and_eq_true, decide_eq_true_eq]
    omega
  rw [textOfCodes]
  simp only [hwhole, Bool.false_eq_true, if_false, List.map_map, Function.comp_def,
    Char.ofNat_toNat, List.map_id']

/-- Characters between single quotes are the literal of a text, up to the parenthesis behind it. -/
def Quotes (body : List Char) (text : String) : Prop :=
  Token.at? ('\'' :: (body ++ "')".toList)) = .ok (.literal (.string text), ")".toList)

/-- Every text has a literal. -/
theorem quotes_quoted (text : String) : Quotes (quoted text.toList) text := by
  have hlength : text.toList.length < (quoted text.toList ++ "')".toList).length := by
    rw [List.length_append]
    exact Nat.lt_of_le_of_lt (length_le_length_quoted _) (Nat.lt_add_of_pos_right (by decide))
  have hbody : stringBody '\'' (quoted text.toList ++ "')".toList)
      (quoted text.toList ++ "')".toList) = .ok (text.toList.map Char.toNat, ")".toList) :=
    stringBody_quoted text.toList _ ")".toList hlength
  show (stringBody '\'' _ _ >>= fun p =>
    Pure.pure (TokenKind.literal (.string (textOfCodes p.1)), p.2)) = _
  rw [hbody]
  show Except.ok (TokenKind.literal (.string (textOfCodes (text.toList.map Char.toNat))), _) = _
  rw [textOfCodes_toNat, String.ofList_toList]

/-- The text of a module that exports another one, from what stands between the quotes. -/
def requiringText (body : List Char) : List Char :=
  "module.exports = require('".toList ++ (body ++ "')".toList)

/-- The tokens of the text are those of what it says. -/
theorem Quotes.follows_requiring {body : List Char} {specifier : String}
    (h : Quotes body specifier) :
    ∃ first last, Token.first (requiringText body) = .ok first ∧
      Follows first (requiringKinds specifier) last := by
  let tail := body ++ "')".toList
  let token (k : TokenKind) (text rest : String) : Token :=
    ⟨k, false, text.toList ++ tail, rest.toList ++ tail⟩
  let first : Token :=
    ⟨.word "module" false, true, requiringText body, ".exports = require('".toList ++ tail⟩
  let dot := token (.punct .dot) ".exports = require('" "exports = require('"
  let exports := token (.word "exports" false) "exports = require('" " = require('"
  let equals := token (.punct (.assign .plain)) "= require('" " require('"
  let require := token (.word "require" false) "require('" "('"
  let paren := token (.punct .leftParen) "('" "'"
  let literal : Token := ⟨.literal (.string specifier), false, "'".toList ++ tail, ")".toList⟩
  have hfirst : first.after = .ok dot := rfl
  have hdot : dot.after = .ok exports := rfl
  have hexports : exports.after = .ok equals := rfl
  have hequals : equals.after = .ok require := rfl
  have hrequire : require.after = .ok paren := rfl
  have hparen : paren.after = .ok literal := by
    show (Token.at? ('\'' :: (body ++ "')".toList)) >>= fun p =>
      Except.ok (Token.mk p.1 false _ p.2)) = _
    rw [show Token.at? _ = _ from h]
    rfl
  have hliteral : literal.after = .ok ⟨.punct .rightParen, false, ")".toList, []⟩ := rfl
  exact ⟨first, ⟨.endOfText, false, [], []⟩, rfl,
    .cons rfl hfirst (.cons rfl hdot (.cons rfl hexports (.cons rfl hequals (.cons rfl hrequire
      (.cons rfl hparen (.cons rfl hliteral (.cons rfl rfl (.last rfl))))))))⟩

/-- The text of a module that exports another one is read as what it says. -/
theorem Quotes.read_requiring {body : List Char} {specifier : String} (h : Quotes body specifier) :
    Program.read (requiringText body) = .ok [.expr (exporting (requireCall specifier))] := by
  obtain ⟨first, last, hfirst, hfollows⟩ := h.follows_requiring
  have hread := hfollows.reads_requiring (8 * (requiringText body).length + 56) 0 []
  rw [Program.read, hfirst]
  show (Read.toEnd (readers (8 * (requiringText body).length + 64))
    (8 * (requiringText body).length + 64) ⟨first, 0, []⟩ >>= _) = _
  rw [hread]
  rfl

end NamedExports.Script
