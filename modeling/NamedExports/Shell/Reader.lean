import NamedExports.Shell.Token

/-!
# Reading shell scripts

Tokens are put together to commands.  Words with a meaning of their own have it only where a command
may start, and only if nothing in them is quoted.
-/

namespace NamedExports.Shell

/-- The text of a word in which nothing is quoted and nothing expanded. -/
def plainText? (word : Word) : Option Octets :=
  let plain? (piece : Piece × Bool) : Option Octets :=
    match piece with
    | (.text octets, false) => some octets
    | _ => none
  (word.mapM plain?).map List.flatten

/-- Whether a word with a meaning of its own stands first. -/
def atKeyword (keyword : String) : List Token → Bool
  | .word _ word :: _ => plainText? word == some keyword.toList
  | _ => false

/-- The tokens behind a word with a meaning of its own. -/
def expect (keyword : String) (tokens : List Token) : Option (List Token) :=
  if atKeyword keyword tokens then tokens.tail? else none

/-- Skips separators. -/
def skipSeparators (tokens : List Token) : List Token :=
  tokens.dropWhile fun token => token == .semicolon || token == .newline

/-- Skips line ends. -/
def skipNewlines (tokens : List Token) : List Token := tokens.dropWhile (· == .newline)

/-- The words that end a list of commands. -/
def closingKeywords : List String :=
  ["then", "else", "elif", "fi", "do", "done", "esac", "\x7d"]

/-- Whether a list of commands ends here. -/
def atListEnd : List Token → Bool
  | [] | .closeGroup :: _ | .doubleSemicolon :: _ => true
  | tokens => closingKeywords.any (atKeyword · tokens)

/-- Reads the words and redirections of a command. -/
def readSimple : List Token → List Word × List Redirect × List Token
  | .word _ word :: rest =>
    let (words, redirects, rest) := readSimple rest
    (word :: words, redirects, rest)
  | .redirect redirect :: rest =>
    let (words, redirects, rest) := readSimple rest
    (words, redirect :: redirects, rest)
  | rest => ([], [], rest)

/-- Reads redirections. -/
def readRedirects : List Token → List Redirect × List Token
  | .redirect redirect :: rest =>
    let (redirects, rest) := readRedirects rest
    (redirect :: redirects, rest)
  | rest => ([], rest)

/-- Reads words. -/
def readWords : List Token → List Word × List Token
  | .word _ word :: rest =>
    let (words, rest) := readWords rest
    (word :: words, rest)
  | rest => ([], rest)

/-- Reads the patterns of a case. -/
def readPatterns : List Token → Option (List Word × List Token)
  | .word _ word :: .closeGroup :: rest => some ([word], rest)
  | .word _ word :: .pipe :: rest =>
    (readPatterns rest).map fun (words, rest) => (word :: words, rest)
  | _ => none

/-- The line of the first token, if it is a word. -/
def lineOf : List Token → Nat
  | .word line _ :: _ => line
  | _ => 0

/-- A command with redirections, if there are any. -/
def redirect (line : Nat) (body : Command) (redirects : List Redirect) : Command :=
  if redirects.isEmpty then body else .redirected line body redirects

mutual

/-- Reads commands up to the end of their list. -/
def readList : Nat → List Token → Option (List Command × List Token)
  | 0, _ => none
  | fuel + 1, tokens => do
    let tokens := skipSeparators tokens
    if atListEnd tokens then some ([], tokens)
    else
      let (first, tokens) ← readChain fuel tokens
      match tokens with
      | .background :: rest =>
        let (others, rest) ← readList fuel rest
        some (.background first :: others, rest)
      | .semicolon :: rest | .newline :: rest =>
        let (others, rest) ← readList fuel rest
        some (first :: others, rest)
      | _ => if atListEnd tokens then some ([first], tokens) else none

/-- Reads pipelines joined by conditions. -/
def readChain : Nat → List Token → Option (Command × List Token)
  | 0, _ => none
  | fuel + 1, tokens => do
    let (first, tokens) ← readPipeline fuel tokens
    readChainRest fuel first tokens

/-- Reads what is joined to a command. -/
def readChainRest : Nat → Command → List Token → Option (Command × List Token)
  | 0, _, _ => none
  | fuel + 1, first, tokens => do
    match tokens with
    | .both :: rest =>
      let (second, rest) ← readPipeline fuel (skipNewlines rest)
      readChainRest fuel (.chain first true second) rest
    | .either :: rest =>
      let (second, rest) ← readPipeline fuel (skipNewlines rest)
      readChainRest fuel (.chain first false second) rest
    | _ => some (first, tokens)

/-- Reads commands joined by pipes. -/
def readPipeline : Nat → List Token → Option (Command × List Token)
  | 0, _ => none
  | fuel + 1, tokens => do
    if atKeyword "!" tokens then
      let (body, rest) ← readPipeline fuel (← tokens.tail?)
      some (.negated body, rest)
    else
      let (first, tokens) ← readCommand fuel tokens
      readPipelineRest fuel first tokens

/-- Reads what reads the output of a command. -/
def readPipelineRest : Nat → Command → List Token → Option (Command × List Token)
  | 0, _, _ => none
  | fuel + 1, first, tokens => do
    match tokens with
    | .pipe :: rest =>
      let (second, rest) ← readCommand fuel (skipNewlines rest)
      readPipelineRest fuel (.pipe first second) rest
    | _ => some (first, tokens)

/-- Reads one command. -/
def readCommand : Nat → List Token → Option (Command × List Token)
  | 0, _ => none
  | fuel + 1, tokens => do
    match ← readCompound fuel tokens with
    | some (body, rest) =>
      let (redirects, rest) := readRedirects rest
      some (redirect (lineOf tokens) body redirects, rest)
    | none =>
      match tokens with
      | .word _ word :: .openGroup :: .closeGroup :: rest =>
        let (body, rest) ← readCommand fuel (skipNewlines rest)
        some (.define (literal word) body, rest)
      | _ =>
        let (words, redirects, rest) := readSimple tokens
        if words.isEmpty && redirects.isEmpty then none
        else some (.simple (lineOf tokens) words redirects, rest)

/-- Reads a command that holds others, if one starts here. -/
def readCompound : Nat → List Token → Option (Option (Command × List Token))
  | 0, _ => none
  | fuel + 1, tokens => do
    if tokens.head? == some .openGroup then
      let (body, rest) ← readList fuel tokens.tail
      if rest.head? == some .closeGroup then some (some (.subshell body, rest.tail)) else none
    else if atKeyword "\x7b" tokens then
      let (body, rest) ← readList fuel tokens.tail
      some (some (.group body, ← expect "\x7d" rest))
    else if atKeyword "if" tokens then (readBranch fuel tokens.tail).map some
    else if atKeyword "while" tokens then (readLoop fuel true tokens.tail).map some
    else if atKeyword "until" tokens then (readLoop fuel false tokens.tail).map some
    else if atKeyword "for" tokens then
      match tokens.tail with
      | .word _ name :: rest =>
        let rest := skipNewlines rest
        let (words, rest) :=
          if atKeyword "in" rest then
            let (words, rest) := readWords rest.tail
            (some words, rest)
          else (none, rest)
        let (body, rest) ← readBody fuel (skipSeparators rest)
        some (some (.each (literal name) words body, rest))
      | _ => none
    else if atKeyword "case" tokens then
      match tokens.tail with
      | .word _ subject :: rest =>
        let (cases, rest) ← readCases fuel (← expect "in" (skipNewlines rest))
        some (some (.choice subject cases, rest))
      | _ => none
    else some none

/-- Reads a condition behind its first word. -/
def readBranch : Nat → List Token → Option (Command × List Token)
  | 0, _ => none
  | fuel + 1, tokens => do
    let (test, tokens) ← readList fuel tokens
    let (body, tokens) ← readList fuel (← expect "then" tokens)
    if atKeyword "elif" tokens then
      let (other, rest) ← readBranch fuel tokens.tail
      some (.branch test body [other], rest)
    else if atKeyword "else" tokens then
      let (other, rest) ← readList fuel tokens.tail
      some (.branch test body other, ← expect "fi" rest)
    else some (.branch test body [], ← expect "fi" tokens)

/-- Reads a loop behind its first word. -/
def readLoop : Nat → Bool → List Token → Option (Command × List Token)
  | 0, _, _ => none
  | fuel + 1, onSuccess, tokens => do
    let (test, tokens) ← readList fuel tokens
    let (body, rest) ← readBody fuel tokens
    some (.loop onSuccess test body, rest)

/-- Reads the body of a loop. -/
def readBody : Nat → List Token → Option (List Command × List Token)
  | 0, _ => none
  | fuel + 1, tokens => do
    let (body, rest) ← readList fuel (← expect "do" tokens)
    some (body, ← expect "done" rest)

/-- Reads the cases of a choice. -/
def readCases : Nat → List Token → Option (List (List Word × List Command) × List Token)
  | 0, _ => none
  | fuel + 1, tokens => do
    let tokens := skipNewlines tokens
    if atKeyword "esac" tokens then some ([], tokens.tail)
    else
      let tokens := if tokens.head? == some .openGroup then tokens.tail else tokens
      let (patterns, tokens) ← readPatterns tokens
      let (body, tokens) ← readList fuel tokens
      match tokens with
      | .doubleSemicolon :: rest =>
        let (cases, rest) ← readCases fuel rest
        some ((patterns, body) :: cases, rest)
      | _ => some ([(patterns, body)], ← expect "esac" tokens)

end

/-- The commands of a script, if it is one, given the number of its first line. -/
def read (line : Nat) (script : Octets) : Option (List Command) := do
  let tokens ← tokens (script.length + 1) line 0 script
  match ← readList (8 * tokens.length + 16) tokens with
  | (commands, []) => some commands
  | _ => none

end NamedExports.Shell
