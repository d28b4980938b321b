/-!
# Shell scripts

The part of the language of shells in which loaders are written: commands with words and
redirections, joined to pipelines, conditions, loops, groups and functions.

A shell works on octets, not on characters.  An octet is given as the character of its number.
-/

namespace NamedExports.Shell

/-- Octets, each as the character of its number. -/
abbrev Octets := List Char

/-- A part of a word. -/
inductive Piece where
  | text (octets : Octets)
  /-- A parameter: its name, or all that stands between braces. -/
  | parameter (form : Octets)
  /-- What a script prints. -/
  | output (script : Octets)
  /-- The value of an arithmetic expression. -/
  | number (expression : Octets)
  deriving Repr, DecidableEq

/-- Pieces of a word, each with whether it is quoted. -/
abbrev Word := List (Piece × Bool)

/-- Where a stream of a command leads. -/
inductive Redirect where
  /-- A stream leads where another one does. -/
  | copy (stream other : Nat)
  | close (stream : Nat)
  | write (stream : Nat) (append : Bool) (file : Word)
  | read (file : Word)
  /-- The standard input has a content that the script itself holds. -/
  | document (content : Word)
  deriving Repr, DecidableEq

/-- A command. -/
inductive Command where
  | simple (line : Nat) (words : List Word) (redirects : List Redirect)
  | negated (body : Command)
  /-- The second command runs only if the first succeeds, or only if it fails. -/
  | chain (first : Command) (onSuccess : Bool) (second : Command)
  /-- The second command reads what the first prints. -/
  | pipe (first second : Command)
  | background (body : Command)
  | branch (test body other : List Command)
  /-- The body runs as long as the test succeeds, or as long as it fails. -/
  | loop (onSuccess : Bool) (test body : List Command)
  /-- The body runs once for every word, or else for every parameter. -/
  | each (name : Octets) (words : Option (List Word)) (body : List Command)
  | choice (subject : Word) (cases : List (List Word × List Command))
  | group (body : List Command)
  /-- Commands that change nothing for those behind them. -/
  | subshell (body : List Command)
  | define (name : Octets) (body : Command)
  | redirected (line : Nat) (body : Command) (redirects : List Redirect)
  deriving Repr, Inhabited

end NamedExports.Shell
