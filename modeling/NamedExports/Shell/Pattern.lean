import NamedExports.Shell.Syntax

/-!
# Patterns of shells

Patterns in which `*` stands for anything, `?` for one octet and brackets for one of a set.  A
quoted octet of a pattern stands for itself.
-/

namespace NamedExports.Shell

/-- A part of a pattern. -/
inductive Glob where
  | one (octet : Char)
  | any
  | many
  /-- One octet that lies in a range, or in none. -/
  | range (isNegated : Bool) (ranges : List (Char × Char))
  deriving Repr, DecidableEq

namespace Glob

/-- The ranges in brackets. -/
def ranges : List Char → List (Char × Char)
  | low :: '-' :: high :: rest => (low, high) :: ranges rest
  | c :: rest => (c, c) :: ranges rest
  | [] => []

/-- The set behind an opening bracket, and what follows it. -/
def set? (pattern : List (Char × Bool)) : Option (Glob × List (Char × Bool)) :=
  let (isNegated, pattern) :=
    match pattern with
    | ('!', _) :: rest | ('^', _) :: rest => (true, rest)
    | _ => (false, pattern)
  let first := pattern.take 1
  let others := (pattern.drop 1).takeWhile (·.1 != ']')
  match pattern.drop (1 + others.length) with
  | _ :: rest => some (.range isNegated (ranges ((first ++ others).map (·.1))), rest)
  | [] => none

/-- The parts of a pattern, given as octets with whether each is quoted. -/
def ofPattern : Nat → List (Char × Bool) → List Glob
  | 0, _ | _, [] => []
  | fuel + 1, (c, quoted) :: rest =>
    if quoted then .one c :: ofPattern fuel rest
    else
      match c with
      | '*' => .many :: ofPattern fuel rest
      | '?' => .any :: ofPattern fuel rest
      | '[' =>
        match set? rest with
        | some (set, rest) => set :: ofPattern fuel rest
        | none => .one c :: ofPattern fuel rest
      | _ => .one c :: ofPattern fuel rest

/-- A text and all that remains of it when octets are dropped from its start. -/
def endings : Octets → List Octets
  | [] => [[]]
  | c :: rest => (c :: rest) :: endings rest

/-- Whether a pattern matches all of a text. -/
def matchesAll : List Glob → Octets → Bool
  | [], text => text.isEmpty
  | .many :: rest, text => (endings text).any (matchesAll rest)
  | .one c :: rest, d :: text => c == d && matchesAll rest text
  | .any :: rest, _ :: text => matchesAll rest text
  | .range isNegated ranges :: rest, d :: text =>
    (ranges.any fun (low, high) => low ≤ d && d ≤ high) != isNegated && matchesAll rest text
  | _ :: _, [] => false

/-- A text without a beginning that matches, the shortest one or the longest. -/
def dropStart (pattern : List Glob) (longest : Bool) (text : Octets) : Octets :=
  let starts := (List.range (text.length + 1)).filter fun n => matchesAll pattern (text.take n)
  match if longest then starts.getLast? else starts.head? with
  | some n => text.drop n
  | none => text

/-- A text without an end that matches, the shortest one or the longest. -/
def dropEnd (pattern : List Glob) (longest : Bool) (text : Octets) : Octets :=
  let ends := (List.range (text.length + 1)).filter fun n => matchesAll pattern (text.drop n)
  match if longest then ends.head? else ends.getLast? with
  | some n => text.take n
  | none => text

end Glob

end NamedExports.Shell
