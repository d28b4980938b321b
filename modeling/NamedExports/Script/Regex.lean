import NamedExports.Script.Lexer
import NamedExports.Script.RegexProperty

/-!
# Well-formed regular expressions

`Regex.isValid` tells whether a pattern with its flags is a regular expression.  With the flag `u`
or `v` the strict grammar holds; without them the lenient one, in which a brace or bracket that
opens nothing stands for itself, an octal escape is a character, and an unknown escape is the
escaped character.  A group name may be given twice only in different alternatives.

Patterns are read as code points under `u` and `v`, and as sixteen-bit units otherwise.
-/

namespace NamedExports.Script.Regex

/-- What the whole pattern decides for every part of it. -/
structure Rules where
  /-- The strict grammar of the flags `u` and `v`. -/
  strict : Bool
  /-- Sets in classes, as with the flag `v`. -/
  sets : Bool
  /-- Whether some group has a name. -/
  named : Bool
  /-- The number of capturing groups. -/
  groups : Nat
  /-- The names of groups. -/
  names : List (List Nat)

/-- A pattern's characters, as code points or as sixteen-bit units. -/
abbrev Units := List Nat

/-- The code unit of a character. -/
abbrev unit (c : Char) : Nat := c.toNat

/-- The units a pattern is read as. -/
def unitsOf (strict : Bool) (pattern : List Char) : Units :=
  pattern.flatMap fun c =>
    let code := c.toNat
    if strict || code < 0x10000 then [code]
    else [0xD800 + (code - 0x10000) / 0x400, 0xDC00 + (code - 0x10000) % 0x400]

/-- Whether a unit is a decimal digit. -/
def isDigit (u : Nat) : Bool := unit '0' ≤ u && u ≤ unit '9'

/-- Whether a unit is a letter of ASCII. -/
def isLetter (u : Nat) : Bool := u < 0x80 && (Char.ofNat u).isAlpha

/-- The value of decimal digits. -/
def decimal (digits : Units) : Nat := digits.foldl (fun n u => n * 10 + (u - unit '0')) 0

/-- Whether a unit is one of the characters of a text. -/
def oneOf (chars : String) (u : Nat) : Bool := chars.toList.any (unit · == u)

/-- The characters with a meaning of their own in patterns. -/
def isSyntax (u : Nat) : Bool := oneOf "^$\\.*+?()[]\x7b\x7d|" u

/-! ## Escapes -/

/-- Reads exactly `count` hexadecimal digits. -/
def hex? (count : Nat) (text : Units) : Option (Nat × Units) :=
  let digits := text.take count
  if digits.length == count && digits.all (· < 0x80) then
    (hexValue? (digits.map Char.ofNat)).map (·, text.drop count)
  else none

/-- Reads a code point in braces, after the opening brace. -/
def bracedCode? (text : Units) : Option (Nat × Units) :=
  let digits := text.takeWhile fun u => u < 0x80 && (hexDigit? (Char.ofNat u)).isSome
  match digits, text.drop digits.length with
  | _ :: _, close :: rest =>
    if close == unit '\x7d' then
      match hexValue? (digits.map Char.ofNat) with
      | some value => if value ≤ 0x10FFFF then some (value, rest) else none
      | none => none
    else none
  | _, _ => none

/-- Joins the halves of a surrogate pair. -/
def joinPair (high low : Nat) : Nat := 0x10000 + (high - 0xD800) * 0x400 + (low - 0xDC00)

/-- Whether a unit is the first half of a pair. -/
def isHigh (u : Nat) : Bool := 0xD800 ≤ u && u ≤ 0xDBFF

/-- Whether a unit is the second half of a pair. -/
def isLow (u : Nat) : Bool := 0xDC00 ≤ u && u ≤ 0xDFFF

/-- Reads what follows `\u`, where braces and pairs of escapes count only under `strict`. -/
def unicode? (strict : Bool) (text : Units) : Option (Nat × Units) :=
  match text with
  | open_ :: rest =>
    if open_ == unit '\x7b' then (if strict then bracedCode? rest else none)
    else
      match hex? 4 text with
      | some (high, after) =>
        if strict && isHigh high then
          match after with
          | back :: u :: more =>
            if back == unit '\\' && u == unit 'u' then
              match hex? 4 more with
              | some (low, final) =>
                if isLow low then some (joinPair high low, final) else some (high, after)
              | none => some (high, after)
            else some (high, after)
          | _ => some (high, after)
        else some (high, after)
      | none => none
  | [] => none

/-- Reads a property name or value. -/
def propertyWord (text : Units) : String × Units :=
  let word := text.takeWhile fun u => isLetter u || isDigit u || u == unit '_'
  (String.ofList (word.map Char.ofNat), text.drop word.length)

/-- Reads what follows `\p` or `\P`: whether it names a property of strings, and the rest. -/
def property? (rules : Rules) (negated : Bool) (text : Units) : Option (Bool × Units) :=
  match text with
  | open_ :: rest =>
    if open_ != unit '\x7b' then none
    else
      let (name, rest) := propertyWord rest
      match rest with
      | mark :: rest =>
        if mark == unit '\x7d' then
          if RegexProperty.isAlone name then some (false, rest)
          else if rules.sets && !negated && RegexProperty.isOfStrings name then some (true, rest)
          else none
        else if mark == unit '=' then
          let (value, rest) := propertyWord rest
          match rest with
          | close :: rest =>
            if close == unit '\x7d' && RegexProperty.isPair name value then some (false, rest)
            else none
          | [] => none
        else none
      | [] => none
  | [] => none

/-- What an escape stands for: one character, or a class of them that may hold strings. -/
inductive Escaped where
  | character (code : Nat)
  | class (strings : Bool)

/-- Reads a class escape after its backslash: digits, spaces, word characters, or a property. -/
def classEscape? (rules : Rules) (text : Units) : Option (Option (Escaped × Units)) :=
  match text with
  | u :: rest =>
    if oneOf "dDsSwW" u then some (some (.class false, rest))
    else if rules.strict && oneOf "pP" u then
      match property? rules (u == unit 'P') rest with
      | some (strings, after) => some (some (.class strings, after))
      | none => none
    else some none
  | [] => some none

/-- The value of an octal escape in the lenient grammar. -/
def octal (text : Units) : Nat × Units :=
  let digits := text.takeWhile fun u => unit '0' ≤ u && u ≤ unit '7'
  let digits := match digits with
    | d :: _ => digits.take (if d ≤ unit '3' then 3 else 2)
    | [] => []
  (digits.foldl (fun n u => n * 8 + (u - unit '0')) 0, text.drop digits.length)

/-- Reads a character escape after its backslash. -/
def characterEscape? (rules : Rules) (text : Units) : Option (Nat × Units) :=
  match text with
  | [] => none
  | u :: rest =>
    if u == unit 't' then some (9, rest)
    else if u == unit 'n' then some (10, rest)
    else if u == unit 'v' then some (11, rest)
    else if u == unit 'f' then some (12, rest)
    else if u == unit 'r' then some (13, rest)
    else if u == unit 'c' then
      match rest with
      | letter :: after => if isLetter letter then some (letter % 32, after) else none
      | [] => none
    else if u == unit '0' && !(rest.head?.any isDigit) then some (0, rest)
    else if u == unit 'x' then
      match hex? 2 rest with
      | some result => some result
      | none => if rules.strict then none else some (u, rest)
    else if u == unit 'u' then
      match unicode? rules.strict rest with
      | some result => some result
      | none => if rules.strict then none else some (u, rest)
    else if rules.strict then
      if isSyntax u || u == unit '/' then some (u, rest) else none
    else if unit '0' ≤ u && u ≤ unit '7' then some (octal text)
    else if u == unit 'k' && rules.named then none
    else some (u, rest)

/-! ## Group names -/

/-- Reads one code point of a group name, which may be escaped or be a pair of units. -/
def nameCode? (text : Units) : Option (Nat × Units) :=
  match text with
  | back :: u :: rest =>
    if back == unit '\\' then (if u == unit 'u' then unicode? true rest else none)
    else if isHigh back && isLow u then some (joinPair back u, rest)
    else some (back, u :: rest)
  | u :: rest => some (u, rest)
  | [] => none

/-- Reads a group name after its opening angle, up to the closing one. -/
def nameRest? : Nat → Bool → Units → Option (List Nat × Units)
  | 0, _, _ => none
  | fuel + 1, first, text => do
    let (code, rest) ← nameCode? text
    if code == unit '>' && text.head? == some (unit '>') then
      if first then none else pure ([], rest)
    else
      let c := Char.ofNat code
      let fits := if first then Text.isIdentifierStart c else Text.isIdentifierPart c
      if fits && c.toNat == code then
        let (more, final) ← nameRest? fuel false rest
        pure (code :: more, final)
      else none

/-- Reads a group name in angles. -/
def groupName? (text : Units) : Option (List Nat × Units) :=
  match text with
  | open_ :: rest => if open_ == unit '<' then nameRest? text.length true rest else none
  | [] => none

/-- The capturing groups of a pattern, in order, each with its name if it has one.  Escapes and
classes are skipped; classes nest under the flag `v`. -/
def capturingGroups (sets : Bool) : Nat → (depth : Nat) → Units → List (Option (List Nat))
  | 0, _, _ => []
  | _, _, [] => []
  | fuel + 1, depth, u :: rest =>
    if u == unit '\\' then capturingGroups sets fuel depth (rest.drop 1)
    else if u == unit '[' then
      capturingGroups sets fuel (if depth == 0 || sets then depth + 1 else depth) rest
    else if u == unit ']' then capturingGroups sets fuel (depth - 1) rest
    else if u == unit '(' && depth == 0 then
      match rest with
      | q :: a :: b :: more =>
        if q != unit '?' then none :: capturingGroups sets fuel depth rest
        else if a == unit '<' && b != unit '=' && b != unit '!' then
          (groupName? (a :: b :: more)).map (·.1) :: capturingGroups sets fuel depth rest
        else capturingGroups sets fuel depth rest
      | q :: _ =>
        if q != unit '?' then none :: capturingGroups sets fuel depth rest
        else capturingGroups sets fuel depth rest
      | [] => none :: capturingGroups sets fuel depth rest
    else capturingGroups sets fuel depth rest

/-! ## Classes -/

/-- Reads one member of a class: a character or a class escape. -/
def classAtom? (rules : Rules) (text : Units) : Option (Escaped × Units) :=
  match text with
  | [] => none
  | u :: rest =>
    if u != unit '\\' then some (.character u, rest)
    else
      match rest with
      | [] => none
      | e :: after =>
        if e == unit 'b' then some (.character 8, after)
        else if rules.strict && e == unit '-' then some (.character e, after)
        else if !rules.strict && e == unit 'c' then
          match after with
          | d :: final =>
            if isLetter d || isDigit d || d == unit '_' then some (.character (d % 32), final)
            else some (.character (unit '\\'), rest)
          | [] => some (.character (unit '\\'), rest)
        else
          match classEscape? rules rest with
          | none => none
          | some (some result) => some result
          | some none =>
            (characterEscape? rules rest).map fun (code, final) => (.character code, final)

/-- Reads the members of a class up to its closing bracket. -/
def classMembers? (rules : Rules) : Nat → Units → Option Units
  | 0, _ => none
  | fuel + 1, text =>
    match text with
    | [] => none
    | u :: rest =>
      if u == unit ']' then some rest
      else do
        let (low, rest) ← classAtom? rules text
        match rest with
        | dash :: close :: _ =>
          if dash == unit '-' && close != unit ']' then
            let (high, after) ← classAtom? rules (rest.drop 1)
            match low, high with
            | .character a, .character b =>
              if a ≤ b then classMembers? rules fuel after else none
            | _, _ => if rules.strict then none else classMembers? rules fuel after
          else classMembers? rules fuel rest
        | _ => classMembers? rules fuel rest

/-! ## Sets in classes -/

/-- Pairs of characters that may not stand in a set. -/
def isReservedPair (a b : Nat) : Bool := a == b && oneOf "&!#$%*+,.:;<=>?@^\x60~" a

/-- Reads one character of a set. -/
def setCharacter? (rules : Rules) (text : Units) : Option (Nat × Units) :=
  match text with
  | [] => none
  | u :: rest =>
    if u == unit '\\' then
      match rest with
      | [] => none
      | e :: after =>
        if e == unit 'b' then some (8, after)
        else if oneOf "&-!#%,:;<=>@\x60~" e then some (e, after)
        else characterEscape? rules rest
    else if oneOf "()[]\x7b\x7d/-|" u then none
    else
      match rest with
      | v :: _ => if isReservedPair u v then none else some (u, rest)
      | [] => some (u, rest)

/-- Reads the strings of a `\q` up to the closing brace: whether one of them is not a single
character. -/
def setStrings? (rules : Rules) : Nat → (length : Nat) → Units → Option (Bool × Units)
  | 0, _, _ => none
  | fuel + 1, length, text =>
    match text with
    | [] => none
    | u :: rest =>
      if u == unit '\x7d' then some (length != 1, rest)
      else if u == unit '|' then do
        let (strings, final) ← setStrings? rules fuel 0 rest
        pure (strings || length != 1, final)
      else do
        let (_, rest) ← setCharacter? rules text
        setStrings? rules fuel (length + 1) rest

/-- How the operands of a set are joined. -/
inductive SetJoin where
  | union | intersection | difference
  deriving DecidableEq

mutual

/-- Reads an operand of a set: a nested class, an escape, strings, or a character.  Answers its
character if it is one, and whether it may hold strings. -/
def setOperand? (rules : Rules) : Nat → Units → Option (Option Nat × Bool × Units)
  | 0, _ => none
  | fuel + 1, text =>
    match text with
    | [] => none
    | u :: rest =>
      if u == unit '[' then do
        let (strings, final) ← setBody? rules fuel rest
        pure (none, strings, final)
      else if u == unit '\\' then
        match rest with
        | q :: open_ :: more =>
          if q == unit 'q' && open_ == unit '\x7b' then do
            let (strings, final) ← setStrings? rules text.length 0 more
            pure (none, strings, final)
          else
            match classEscape? rules rest with
            | none => none
            | some (some (.class strings, final)) => some (none, strings, final)
            | _ => (setCharacter? rules text).map fun (code, final) => (some code, false, final)
        | _ =>
          match classEscape? rules rest with
          | none => none
          | some (some (.class strings, final)) => some (none, strings, final)
          | _ => (setCharacter? rules text).map fun (code, final) => (some code, false, final)
      else (setCharacter? rules text).map fun (code, final) => (some code, false, final)

/-- Reads a class with sets after its opening bracket: whether it may hold strings. -/
def setBody? (rules : Rules) : Nat → Units → Option (Bool × Units)
  | 0, _ => none
  | fuel + 1, text => do
    let (negated, text) := match text with
      | u :: rest => if u == unit '^' then (true, rest) else (false, u :: rest)
      | [] => (false, [])
    let (strings, final) ← setItems? rules fuel none text
    if negated && strings then none else pure (strings, final)

/-- Reads the operands of a set up to the closing bracket.  The way the first two are joined holds
for all of them; only a union has ranges. -/
def setItems? (rules : Rules) : Nat → Option SetJoin → Units → Option (Bool × Units)
  | 0, _, _ => none
  | fuel + 1, join, text =>
    match text with
    | [] => none
    | u :: rest =>
      if u == unit ']' then some (false, rest)
      else do
        let (code, strings, rest) ← setOperand? rules fuel text
        match rest with
        | a :: b :: more =>
          if a == unit '&' && b == unit '&' then
            if join == some .union || join == some .difference then none
            else if more.head? == some (unit '&') || more.head? == some (unit ']') then none
            else
              let (others, final) ← setItems? rules fuel (some .intersection) more
              pure (strings && others, final)
          else if a == unit '-' && b == unit '-' then
            if join == some .union || join == some .intersection then none
            else if more.head? == some (unit ']') then none
            else
              let (_, final) ← setItems? rules fuel (some .difference) more
              pure (strings, final)
          else if a == unit ']' then pure (strings, rest.drop 1)
          else if join == some .intersection || join == some .difference then none
          else if a == unit '-' then
            let (high, final) ← setCharacter? rules (rest.drop 1)
            match code with
            | some low =>
              if low ≤ high then
                let (others, final) ← setItems? rules fuel (some .union) final
                pure (strings || others, final)
              else none
            | none => none
          else
            let (others, final) ← setItems? rules fuel (some .union) rest
            pure (strings || others, final)
        | [a] => if a == unit ']' then pure (strings, []) else none
        | [] => none

end

/-- Reads a class after its opening bracket. -/
def class? (rules : Rules) (text : Units) : Option Units :=
  if rules.sets then (setBody? rules (4 * text.length + 4) text).map (·.2)
  else
    let members := if text.head? == some (unit '^') then text.drop 1 else text
    classMembers? rules (members.length + 1) members

/-! ## Terms -/

/-- Reads the bounds of a braced quantifier, after its opening brace. -/
def bounds? (text : Units) : Option (Nat × Option Nat × Units) :=
  let digits := text.takeWhile isDigit
  match digits, text.drop digits.length with
  | _ :: _, mark :: rest =>
    if mark == unit '\x7d' then some (decimal digits, some (decimal digits), rest)
    else if mark == unit ',' then
      let more := rest.takeWhile isDigit
      match rest.drop more.length with
      | close :: after =>
        if close == unit '\x7d' then
          some (decimal digits, if more.isEmpty then none else some (decimal more), after)
        else none
      | [] => none
    else none
  | _, _ => none

/-- Drops a quantifier if one stands here; nothing when its bounds are out of order or too
large. -/
def quantifier? (text : Units) : Option Units :=
  let lazy := fun (rest : Units) => match rest with
    | q :: after => if q == unit '?' then after else rest
    | [] => rest
  match text with
  | u :: rest =>
    if u == unit '*' || u == unit '+' || u == unit '?' then some (lazy rest)
    else if u == unit '\x7b' then
      match bounds? rest with
      | some (low, high, after) =>
        let limit := Nat.pow 2 64
        if low < limit && high.all (fun h => low ≤ h && h < limit) then some (lazy after)
        else none
      | none => some text
    else some text
  | [] => some text

/-- Reads the flags of a modifier up to a character that is none of them. -/
def modifiers (text : Units) : Units × Units :=
  let flags := text.takeWhile (oneOf "ims")
  (flags, text.drop flags.length)

/-- Whether a list holds no member twice. -/
def distinct : Units → Bool
  | [] => true
  | u :: rest => !rest.contains u && distinct rest

/-- Reads the escape of an atom, after its backslash. -/
def atomEscape? (rules : Rules) (text : Units) : Option Units :=
  match text with
  | [] => none
  | u :: rest =>
    if u == unit 'k' && (rules.strict || rules.named) then do
      let (name, after) ← groupName? rest
      if rules.names.contains name then pure after else none
    else if isDigit u && u != unit '0' then
      let digits := text.takeWhile isDigit
      if decimal digits ≤ rules.groups then some (text.drop digits.length)
      else if rules.strict then none
      else if u ≥ unit '8' then some rest
      else some (octal text).2
    else if !rules.strict && u == unit 'c' && !(rest.head?.any isLetter) then some text
    else
      match classEscape? rules text with
      | none => none
      | some (some (_, after)) => some after
      | some none => (characterEscape? rules text).map (·.2)

mutual

/-- Reads alternatives up to the end or a closing parenthesis: the group names in them. -/
def disjunction? (rules : Rules) : Nat → Units → Option (List (List Nat) × Units)
  | 0, _ => none
  | fuel + 1, text => do
    let (names, rest) ← alternative? rules fuel text
    match rest with
    | u :: after =>
      if u == unit '|' then
        let (more, final) ← disjunction? rules fuel after
        pure (names ++ more.filter (!names.contains ·), final)
      else pure (names, rest)
    | [] => pure (names, [])

/-- Reads the terms of one alternative: the group names in them, none of them twice. -/
def alternative? (rules : Rules) : Nat → Units → Option (List (List Nat) × Units)
  | 0, _ => none
  | fuel + 1, text =>
    match text with
    | [] => some ([], [])
    | u :: _ =>
      if u == unit '|' || u == unit ')' then some ([], text)
      else do
        let (names, rest) ← term? rules fuel text
        let (more, final) ← alternative? rules fuel rest
        if names.any more.contains then none else pure (names ++ more, final)

/-- Reads a group's alternatives and its closing parenthesis. -/
def closed? (rules : Rules) : Nat → Units → Option (List (List Nat) × Units)
  | 0, _ => none
  | fuel + 1, text => do
    let (names, rest) ← disjunction? rules fuel text
    match rest with
    | u :: after => if u == unit ')' then pure (names, after) else none
    | [] => none

/-- Reads a group after its opening parenthesis: the names in it, the text after it, and whether a
quantifier may follow. -/
def group? (rules : Rules) : Nat → Units → Option (List (List Nat) × Units × Bool)
  | 0, _ => none
  | fuel + 1, text =>
    match text with
    | q :: a :: rest =>
      if q != unit '?' then do
        let (names, final) ← closed? rules fuel text
        pure (names, final, true)
      else if a == unit ':' then do
        let (names, final) ← closed? rules fuel rest
        pure (names, final, true)
      else if a == unit '=' || a == unit '!' then do
        let (names, final) ← closed? rules fuel rest
        pure (names, final, !rules.strict)
      else if a == unit '<' && rest.head?.any (oneOf "=!") then do
        let (names, final) ← closed? rules fuel (rest.drop 1)
        pure (names, final, false)
      else if a == unit '<' then do
        let (name, rest) ← groupName? (a :: rest)
        let (names, final) ← closed? rules fuel rest
        if names.contains name then none else pure (name :: names, final, true)
      else
        let (on, after) := modifiers (a :: rest)
        match after with
        | mark :: after =>
          if mark == unit ':' then
            if on.isEmpty || !distinct on then none
            else do
              let (names, final) ← closed? rules fuel after
              pure (names, final, true)
          else if mark == unit '-' then
            let (off, after) := modifiers after
            match after with
            | colon :: after =>
              if colon != unit ':' || (on.isEmpty && off.isEmpty) || !distinct (on ++ off) then none
              else do
                let (names, final) ← closed? rules fuel after
                pure (names, final, true)
            | [] => none
          else none
        | [] => none
    | _ => do
      let (names, final) ← closed? rules fuel text
      pure (names, final, true)

/-- Reads one term with its quantifier: the group names in it. -/
def term? (rules : Rules) : Nat → Units → Option (List (List Nat) × Units)
  | 0, _ => none
  | fuel + 1, text =>
    match text with
    | [] => none
    | u :: rest =>
      if u == unit '^' || u == unit '$' then some ([], rest)
      else if u == unit '(' then do
        let (names, after, quantified) ← group? rules fuel rest
        if quantified then
          let final ← quantifier? after
          pure (names, final)
        else pure (names, after)
      else if u == unit '\\' then
        match rest with
        | e :: after =>
          if e == unit 'b' || e == unit 'B' then some ([], after)
          else do
            let after ← atomEscape? rules rest
            let final ← quantifier? after
            pure ([], final)
        | [] => none
      else if u == unit '[' then do
        let after ← class? rules rest
        let final ← quantifier? after
        pure ([], final)
      else if u == unit '*' || u == unit '+' || u == unit '?' then none
      else if rules.strict && oneOf "\x7b\x7d]" u then none
      else if u == unit '\x7b' && (bounds? rest).isSome then none
      else do
        let final ← quantifier? rest
        pure ([], final)

end

/-- Whether flags are known, none of them given twice, and `u` and `v` not both given. -/
def flagsAreValid (flags : List Char) : Bool :=
  flags.all ("dgimsuvy".toList.contains ·) && distinct (flags.map unit) &&
    !(flags.contains 'u' && flags.contains 'v')

/-- Whether a pattern with its flags is a regular expression. -/
def isValid (pattern flags : List Char) : Bool :=
  flagsAreValid flags &&
    let sets := flags.contains 'v'
    let strict := sets || flags.contains 'u'
    let units := unitsOf strict pattern
    let groups := capturingGroups sets units.length 0 units
    let names := groups.filterMap id
    let rules : Rules :=
      { strict, sets, named := !names.isEmpty, groups := groups.length, names }
    match disjunction? rules (6 * units.length + 6) units with
    | some (_, []) => true
    | _ => false

end NamedExports.Script.Regex
