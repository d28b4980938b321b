import NamedExports.Shell.Syntax
import NamedExports.Text.Cut

/-!
# Tokens of shell scripts

Scripts are cut into tokens.  What a script prints inside a word is kept as text, and read when the
word is needed.
-/

namespace NamedExports.Shell

/-- A token of a script. -/
inductive Token where
  | word (line : Nat) (word : Word)
  | redirect (redirect : Redirect)
  | semicolon
  | doubleSemicolon
  | newline
  | background
  | both
  | either
  | pipe
  | openGroup
  | closeGroup
  deriving Repr, DecidableEq

/-! ## Pieces of words -/

/-- A character of a parameter's name. -/
def isNameChar (c : Char) : Bool := c.isAlphanum || c == '_'

/-- The names of one character that are no letters. -/
def isSpecial (c : Char) : Bool := c.isDigit || ['#', '$', '?', '@', '*', '!', '-'].contains c

/-- The text through a closing double quote, and what is behind it. -/
def throughQuote : Octets → Octets × Octets
  | [] => ([], [])
  | '"' :: rest => (['"'], rest)
  | '\\' :: c :: rest =>
    let (inside, after) := throughQuote rest
    ('\\' :: c :: inside, after)
  | c :: rest =>
    let (inside, after) := throughQuote rest
    (c :: inside, after)

/-- The text up to a closing character, and what is behind it.  Quotes and backslashes hide closing
characters, and opening ones are matched. -/
def untilClose (opening closing : Char) : Nat → Nat → Octets → Option (Octets × Octets)
  | 0, _, _ | _, _, [] => none
  | fuel + 1, depth, c :: rest =>
    let keep (taken : Octets) (depth : Nat) (rest : Octets) : Option (Octets × Octets) :=
      (untilClose opening closing fuel depth rest).map fun (body, after) => (taken ++ body, after)
    if c == '\\' then keep (c :: rest.take 1) depth (rest.drop 1)
    else if c == '\'' then
      let quoted := rest.takeWhile (· != '\'')
      keep (c :: quoted ++ ['\'']) depth (rest.drop (quoted.length + 1))
    else if c == '"' then
      let (quoted, after) := throughQuote rest
      keep (c :: quoted) depth after
    else if c == opening then keep [c] (depth + 1) rest
    else if c == closing then
      match depth with
      | 0 => some ([], rest)
      | depth + 1 => keep [c] depth rest
    else keep [c] depth rest

/-- The expression in the inside of parentheses, if it has parentheses around it once more. -/
def arithmetic? (body : Octets) : Option Octets :=
  match body, body.getLast? with
  | '(' :: rest, some ')' => some rest.dropLast
  | _, _ => none

/-- The expansion behind a dollar sign. -/
def readDollar (text : Octets) : Option (Piece × Octets) :=
  match text with
  | '(' :: rest => do
    let (body, after) ← untilClose '(' ')' (rest.length + 1) 0 rest
    match arithmetic? body with
    | some expression => some (.number expression, after)
    | none => some (.output body, after)
  | '\x7b' :: rest => do
    let (form, after) ← untilClose '\x7b' '\x7d' (rest.length + 1) 0 rest
    some (.parameter form, after)
  | c :: rest =>
    if isSpecial c then some (.parameter [c], rest)
    else if isNameChar c then
      some (.parameter (text.takeWhile isNameChar), text.dropWhile isNameChar)
    else some (.text ['$'], text)
  | [] => some (.text ['$'], [])

/-- The script up to a closing back quote, without the backslashes that protect it, and what is
behind it. -/
def untilBackQuote : Octets → Option (Octets × Octets)
  | [] => none
  | '\x60' :: rest => some ([], rest)
  | '\\' :: c :: rest =>
    let taken := if c == '\x60' || c == '\\' || c == '$' then [c] else ['\\', c]
    (untilBackQuote rest).map fun (body, after) => (taken ++ body, after)
  | c :: rest => (untilBackQuote rest).map fun (body, after) => (c :: body, after)

/-- Reads text in which only expansions and some backslashes count, up to a closing character or, if
there is none, to the end. -/
def readQuoted (closing : Option Char) : Nat → Octets → Option (Word × Octets)
  | 0, _ => none
  | _, [] => if closing.isNone then some ([], []) else none
  | fuel + 1, c :: rest => do
    if some c == closing then some ([], rest)
    else
      match c, rest with
      | '\\', '\n' :: rest => readQuoted closing fuel rest
      | '\\', d :: rest =>
        let isProtected := some d == closing || d == '\\' || d == '$' || d == '\x60'
        let (word, after) ← readQuoted closing fuel rest
        some ((.text (if isProtected then [d] else [c, d]), true) :: word, after)
      | '$', _ =>
        let (piece, rest) ← readDollar rest
        let (word, after) ← readQuoted closing fuel rest
        some ((piece, true) :: word, after)
      | '\x60', _ =>
        let (script, rest) ← untilBackQuote rest
        let (word, after) ← readQuoted closing fuel rest
        some ((.output script, true) :: word, after)
      | _, _ =>
        let (word, after) ← readQuoted closing fuel rest
        some ((.text [c], true) :: word, after)

/-! ## Words -/

/-- A character that ends a word. -/
def endsWord (c : Char) : Bool := [' ', '\t', '\n', ';', '&', '|', '(', ')', '<', '>'].contains c

/-- Reads a word, up to a character that ends it or to the end of the text. -/
def readWord (ends : Char → Bool) : Nat → Octets → Option (Word × Octets)
  | 0, text => some ([], text)
  | _, [] => some ([], [])
  | fuel + 1, c :: rest => do
    match c, rest with
    | '\'', _ =>
      let quoted := rest.takeWhile (· != '\'')
      let (word, after) ← readWord ends fuel (← (rest.drop quoted.length).tail?)
      some ((.text quoted, true) :: word, after)
    | '"', _ =>
      let (quoted, rest) ← readQuoted (some '"') (rest.length + 1) rest
      let (word, after) ← readWord ends fuel rest
      some ((.text [], true) :: quoted ++ word, after)
    | '\\', '\n' :: rest => readWord ends fuel rest
    | '\\', d :: rest =>
      let (word, after) ← readWord ends fuel rest
      some ((.text [d], true) :: word, after)
    | '$', _ =>
      let (piece, rest) ← readDollar rest
      let (word, after) ← readWord ends fuel rest
      some ((piece, false) :: word, after)
    | '\x60', _ =>
      let (script, rest) ← untilBackQuote rest
      let (word, after) ← readWord ends fuel rest
      some ((.output script, false) :: word, after)
    | _, _ =>
      if ends c then some ([], c :: rest)
      else
        let (word, after) ← readWord ends fuel rest
        some ((.text [c], false) :: word, after)

/-- All of a text as one word. -/
def wordOf (text : Octets) : Word :=
  ((readWord (fun _ => false) (text.length + 1) text).map (·.1)).getD []

/-- All of a text as the inside of quotes. -/
def quotedWordOf (text : Octets) : Word :=
  ((readQuoted none (text.length + 1) text).map (·.1)).getD []

/-- Text without the double quotes that no backslash protects. -/
def dropQuotes : Octets → Octets
  | [] => []
  | '\\' :: c :: rest => '\\' :: c :: dropQuotes rest
  | c :: rest => if c == '"' then dropQuotes rest else c :: dropQuotes rest

/-- The octets of a word in which nothing is expanded. -/
def literal (word : Word) : Octets :=
  word.flatMap fun piece =>
    match piece.1 with
    | .text octets => octets
    | .parameter form => '$' :: form
    | .output script => '\x60' :: script
    | .number expression => '$' :: expression

/-! ## Redirections -/

/-- A character that parts words on a line. -/
def isBlank (c : Char) : Bool := c == ' ' || c == '\t'

/-- Reads the word that a redirection names. -/
def readTarget (text : Octets) : Option (Word × Octets) := do
  let (word, after) ← readWord endsWord (text.length + 1) (text.dropWhile isBlank)
  if word.isEmpty then none else some (word, after)

/-- Reads the stream that a redirection names. -/
def readStream (stream : Nat) (text : Octets) : Option (Redirect × Octets) :=
  match text.dropWhile isBlank with
  | '-' :: rest => some (.close stream, rest)
  | c :: rest =>
    if c.isDigit then some (.copy stream (c.toNat - '0'.toNat), rest) else none
  | [] => none

/-- Reads an output redirection behind its first sign. -/
def readOutput (stream : Nat) (text : Octets) : Option (Redirect × Octets) := do
  match text with
  | '&' :: rest => readStream stream rest
  | '>' :: rest =>
    let (file, after) ← readTarget rest
    some (.write stream true file, after)
  | '|' :: rest =>
    let (file, after) ← readTarget rest
    some (.write stream false file, after)
  | _ =>
    let (file, after) ← readTarget text
    some (.write stream false file, after)

/-- Reads the content of the lines that follow, up to a closing one.  They are cut out of the text;
the number of them is answered too. -/
def readDocument (stripTabs : Bool) (text : Octets) : Option (Redirect × Octets × Nat) := do
  let (mark, after) ← readTarget text
  let line := after.takeWhile (· != '\n')
  let strip (line : Octets) : Octets :=
    if stripTabs then line.dropWhile (· == '\t') else line
  let below := Text.splitOn '\n' (after.drop (line.length + 1))
  let inside := (below.map strip).takeWhile (· != literal mark)
  let content := inside.flatMap (· ++ ['\n'])
  let word := if mark.any (·.2) then [(.text content, true)] else quotedWordOf content
  let behind := Text.joinWith '\n' (below.drop (inside.length + 1))
  some (.document word, line ++ '\n' :: behind, inside.length + 1)

/-- Reads an input redirection behind its first sign. -/
def readInput (text : Octets) : Option (Redirect × Octets × Nat) := do
  match text with
  | '<' :: '-' :: rest => readDocument true rest
  | '<' :: rest => readDocument false rest
  | '&' :: rest =>
    let (redirect, after) ← readStream 0 rest
    some (redirect, after, 0)
  | _ =>
    let (file, after) ← readTarget text
    some (.read file, after, 0)

/-! ## Scripts -/

/-- Cuts a script into tokens.  Lines are counted, with those that have been cut out of it. -/
def tokens : Nat → Nat → Nat → Octets → Option (List Token)
  | 0, _, _, _ | _, _, _, [] => some []
  | fuel + 1, line, hidden, c :: rest => do
    let go (token : Token) (rest : Octets) : Option (List Token) :=
      (tokens fuel line hidden rest).map (token :: ·)
    match c, rest with
    | ' ', _ | '\t', _ => tokens fuel line hidden rest
    | '\\', '\n' :: rest => tokens fuel (line + 1) hidden rest
    | '#', _ => tokens fuel line hidden (rest.dropWhile (· != '\n'))
    | '\n', _ => (tokens fuel (line + 1 + hidden) 0 rest).map (.newline :: ·)
    | ';', ';' :: rest => go .doubleSemicolon rest
    | ';', _ => go .semicolon rest
    | '&', '&' :: rest => go .both rest
    | '&', _ => go .background rest
    | '|', '|' :: rest => go .either rest
    | '|', _ => go .pipe rest
    | '(', _ => go .openGroup rest
    | ')', _ => go .closeGroup rest
    | '<', _ =>
      let (redirect, rest, cut) ← readInput rest
      (tokens fuel line (hidden + cut) rest).map (.redirect redirect :: ·)
    | '>', _ =>
      let (redirect, rest) ← readOutput 1 rest
      go (.redirect redirect) rest
    | '0', '<' :: rest =>
      let (redirect, rest, cut) ← readInput rest
      (tokens fuel line (hidden + cut) rest).map (.redirect redirect :: ·)
    | d, '>' :: after =>
      if d.isDigit then
        let (redirect, rest) ← readOutput (d.toNat - '0'.toNat) after
        go (.redirect redirect) rest
      else
        let (word, after) ← readWord endsWord (rest.length + 2) (c :: rest)
        go (.word line word) after
    | _, _ =>
      let (word, after) ← readWord endsWord (rest.length + 2) (c :: rest)
      let read := (c :: rest).take ((c :: rest).length - after.length)
      (tokens fuel (line + read.count '\n') hidden after).map (.word line word :: ·)

end NamedExports.Shell
