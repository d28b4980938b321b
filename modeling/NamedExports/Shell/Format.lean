import NamedExports.Shell.Syntax

/-!
# Escapes and formats

What `echo` and `printf` make of their arguments.
-/

namespace NamedExports.Shell

/-! ## Numbers -/

/-- The value of a digit, in bases up to sixteen. -/
def digit? (base : Nat) (c : Char) : Option Nat :=
  let value :=
    if c.isDigit then c.toNat - '0'.toNat
    else if 'a' ≤ c && c ≤ 'f' then c.toNat - 'a'.toNat + 10
    else if 'A' ≤ c && c ≤ 'F' then c.toNat - 'A'.toNat + 10
    else base
  if value < base then some value else none

/-- The number that all of a text is the digits of. -/
def digits? (base : Nat) (text : Octets) : Option Nat :=
  if text.isEmpty then none
  else
    text.foldlM (fun n c => (digit? base c).map (n * base + ·)) 0

/-- A natural number in decimal digits. -/
def decimal (n : Nat) : Octets := (toString n).toList

/-- A number in decimal digits. -/
def decimalOf (n : Int) : Octets := (toString n).toList

/-- A number without a sign, in a base that its first digits tell. -/
def unsigned? (text : Octets) : Option Nat :=
  match text with
  | '0' :: 'x' :: rest | '0' :: 'X' :: rest => digits? 16 rest
  | '0' :: d :: rest => digits? 8 (d :: rest)
  | _ => digits? 10 text

/-- Whether an octet is white space. -/
def isSpace (c : Char) : Bool := c == ' ' || ('\t' ≤ c && c ≤ '\r')

/-- Text without the white space at its two ends. -/
def trimmed (text : Octets) : Octets :=
  ((text.dropWhile isSpace).reverse.dropWhile isSpace).reverse

/-- A natural number in decimal digits, perhaps with white space around it. -/
def natural? (text : Octets) : Option Nat :=
  match trimmed text with
  | '+' :: rest => digits? 10 rest
  | text => digits? 10 text

/-- A number in decimal digits with or without a sign, perhaps with white space around it. -/
def whole? (text : Octets) : Option Int :=
  match trimmed text with
  | '-' :: rest => (digits? 10 rest).map fun n => -(n : Int)
  | _ => (natural? text).map fun n => (n : Int)

/-- A number with or without a sign, in a base that its first digits tell. -/
def integer? (text : Octets) : Option Int :=
  match text with
  | '-' :: rest => (unsigned? rest).map fun n => -(n : Int)
  | '+' :: rest => (unsigned? rest).map fun n => (n : Int)
  | _ => (unsigned? text).map fun n => (n : Int)

/-- The number at the start of a text, behind white space, and what follows it. -/
def leadingNumber? (text : Octets) : Option (Int × Octets) :=
  let text := text.dropWhile isSpace
  let (isNegative, text) :=
    match text with
    | '-' :: rest => (true, rest)
    | '+' :: rest => (false, rest)
    | _ => (false, text)
  let (base, text) :=
    match text with
    | '0' :: 'x' :: d :: rest | '0' :: 'X' :: d :: rest =>
      if (digit? 16 d).isSome then (16, d :: rest) else (8, text)
    | '0' :: _ => (8, text)
    | _ => (10, text)
  let digits := text.takeWhile fun c => (digit? base c).isSome
  (digits? base digits).map fun n =>
    (if isNegative then -(n : Int) else n, text.drop digits.length)

/-- What is wrong with an argument that is to be a number. -/
inductive NumberFault where
  /-- It has no digits. -/
  | absent
  /-- Something follows its digits. -/
  | trailing
  /-- It does not fit. -/
  | range
  deriving Repr, DecidableEq

/-- The words for what is wrong with an argument that is to be a number. -/
def NumberFault.message : NumberFault → String
  | .absent => "expected numeric value"
  | .trailing => "not completely converted"
  | .range => "Numerical result out of range"

/-! ## Escapes -/

/-- An octet of a number, which is taken modulo its range. -/
def octet (n : Nat) : Char := Char.ofNat (n % 256)

/-- The octet that a letter behind a backslash stands for. -/
def letterEscape? : Char → Option Char
  | 'n' => some '\n'
  | 't' => some '\t'
  | 'r' => some '\r'
  | 'a' => some '\x07'
  | 'b' => some '\x08'
  | 'f' => some '\x0c'
  | 'v' => some '\x0b'
  | '\\' => some '\\'
  | _ => none

/-- The octet of an escape behind its backslash, and how many octets it takes. -/
def escape (text : Octets) : Char × Nat :=
  match text with
  | [] => ('\\', 0)
  | c :: _ =>
    match letterEscape? c with
    | some value => (value, 1)
    | none =>
      let digits := (text.takeWhile fun d => (digit? 8 d).isSome).take 3
      match digits8 digits with
      | some n => (octet n, digits.length)
      | none => ('\\', 0)
where
  /-- The value of octal digits. -/
  digits8 (digits : Octets) : Option Nat := digits? 8 digits

/-- Replaces the escapes in an argument, and tells whether one of them ends all output.  A zero may
stand in front of octal digits. -/
def unescape : Nat → Octets → Octets × Bool
  | 0, _ | _, [] => ([], false)
  | _, '\\' :: 'c' :: _ => ([], true)
  | fuel + 1, '\\' :: rest =>
    let rest :=
      match rest with
      | '0' :: d :: after => if (digit? 8 d).isSome then d :: after else rest
      | _ => rest
    let (value, width) := escape rest
    let (text, ended) := unescape fuel (rest.drop width)
    (value :: text, ended)
  | fuel + 1, c :: rest =>
    let (text, ended) := unescape fuel rest
    (c :: text, ended)

/-- Arguments with blanks between them. -/
def joinWords : List Octets → Octets
  | [] => []
  | [last] => last
  | first :: rest => first ++ ' ' :: joinWords rest

/-- What `echo` prints. -/
def echo (arguments : List Octets) : Octets :=
  let (ending, arguments) :=
    if arguments.head? == some ['-', 'n'] then ([], arguments.tail) else (['\n'], arguments)
  let text := joinWords arguments
  let (text, ended) := unescape (text.length + 1) text
  if ended then text else text ++ ending

/-! ## Formats -/

/-- A conversion of a format. -/
structure Conversion where
  flags : Octets
  width : Nat
  precision : Option Nat
  kind : Char
  deriving Repr, DecidableEq

namespace Conversion

/-- Reads a conversion behind its sign. -/
def read? (text : Octets) : Option (Conversion × Octets) :=
  let flags := text.takeWhile ['#', '-', '+', ' ', '0'].contains
  let text := text.drop flags.length
  let width := text.takeWhile Char.isDigit
  let text := text.drop width.length
  let (precision, text) :=
    match text with
    | '.' :: rest =>
      let digits := rest.takeWhile Char.isDigit
      (some ((digits? 10 digits).getD 0), rest.drop digits.length)
    | _ => (none, text)
  match text with
  | kind :: rest => some (⟨flags, (digits? 10 width).getD 0, precision, kind⟩, rest)
  | [] => none

/-- A text in the width of a conversion. -/
def pad (conversion : Conversion) (text : Octets) : Octets :=
  let missing := List.replicate (conversion.width - text.length) ' '
  if conversion.flags.contains '-' then text ++ missing else missing ++ text

/-- A number with its sign in the width of a conversion. -/
def padNumber (conversion : Conversion) (sign digits : Octets) : Octets :=
  let least := conversion.precision.getD 1
  let digits := List.replicate (least - digits.length) '0' ++ digits
  let zeros := conversion.flags.contains '0' && !conversion.flags.contains '-' &&
    conversion.precision.isNone
  if zeros then
    sign ++ List.replicate (conversion.width - sign.length - digits.length) '0' ++ digits
  else conversion.pad (sign ++ digits)

/-- Whether a conversion is of a number. -/
def isNumeric (conversion : Conversion) : Bool :=
  ['d', 'i', 'u', 'o', 'x', 'X'].contains conversion.kind

/-- The least and the greatest number of a conversion. -/
def bounds (conversion : Conversion) : Int × Int :=
  if ['d', 'i'].contains conversion.kind then
    let limit : Int := Nat.pow 2 63
    (-limit, limit - 1)
  else
    let limit : Int := Nat.pow 2 64
    (1 - limit, limit - 1)

/-- The number that an argument stands for, of its digits or of the octet behind a quote, and what
is wrong with the argument. -/
def number (conversion : Conversion) (argument : Octets) : Int × Option NumberFault :=
  match argument with
  | [] => (0, none)
  | '"' :: rest | '\'' :: rest => (((rest.head?).map Char.toNat).getD 0, none)
  | _ =>
    match leadingNumber? argument with
    | none => (0, some .absent)
    | some (n, rest) =>
      let (least, greatest) := conversion.bounds
      let isOutside := n < least || greatest < n
      let value :=
        if n < least && ['d', 'i'].contains conversion.kind then least
        else if isOutside then greatest
        else n
      let fault : Option NumberFault :=
        if !rest.isEmpty then some .trailing else if isOutside then some .range else none
      (value, fault)

/-- An argument, converted. -/
def apply (conversion : Conversion) (argument : Octets) : Octets × Bool :=
  let n := (conversion.number argument).1
  let bits := (n % (Nat.pow 2 64 : Int)).toNat
  match conversion.kind with
  | 'c' => (conversion.pad [argument.head?.getD '\x00'], false)
  | 'b' =>
    let (text, ended) := unescape (argument.length + 1) argument
    (conversion.pad text, ended)
  | 'd' | 'i' =>
    let sign := if n < 0 then ['-'] else if conversion.flags.contains '+' then ['+'] else []
    (conversion.padNumber sign (decimal n.natAbs), false)
  | 'u' => (conversion.padNumber [] (decimal bits), false)
  | 'o' => (conversion.padNumber [] (Nat.toDigits 8 bits), false)
  | 'x' => (conversion.padNumber [] (Nat.toDigits 16 bits), false)
  | 'X' => (conversion.padNumber [] ((Nat.toDigits 16 bits).map Char.toUpper), false)
  | _ => (conversion.pad (argument.take (conversion.precision.getD argument.length)), false)

/-- What is to be said about an argument. -/
def complaint? (conversion : Conversion) (argument : Octets) : Option Octets :=
  if conversion.isNumeric then
    (conversion.number argument).2.map fun fault => argument ++ [':', ' '] ++ fault.message.toList
  else none

end Conversion

/-- What a format has been filled to: the text, the arguments that are left, what is to
be said about some, and whether an escape has ended all output. -/
structure Filled where
  text : Octets
  left : List Octets
  complaints : List Octets := []
  ended : Bool := false
  deriving Repr, DecidableEq

/-- Fills a format once. -/
def fill : Nat → Octets → List Octets → Filled
  | 0, _, arguments | _, [], arguments => ⟨[], arguments, [], false⟩
  | fuel + 1, c :: rest, arguments =>
    let plain (text : Octets) (rest : Octets) : Filled :=
      let filled := fill fuel rest arguments
      { filled with text := text ++ filled.text }
    match c, rest with
    | '\\', _ =>
      let (value, width) := escape rest
      plain [value] (rest.drop width)
    | '%', '%' :: rest => plain ['%'] rest
    | '%', _ =>
      match Conversion.read? rest with
      | none => ⟨[], arguments, [], true⟩
      | some (conversion, rest) =>
        let argument := arguments.head?.getD []
        let (text, ended) := conversion.apply argument
        if ended then ⟨text, [], [], true⟩
        else
          let filled := fill fuel rest arguments.tail
          let complaints := (conversion.complaint? argument).toList ++ filled.complaints
          { filled with text := text ++ filled.text, complaints }
    | _, _ => plain [c] rest

/-- Fills a format as often as it takes to use all arguments. -/
def format : Nat → Octets → List Octets → Filled
  | 0, _, arguments => ⟨[], arguments, [], false⟩
  | fuel + 1, pattern, arguments =>
    let filled := fill (pattern.length + 1) pattern arguments
    if filled.ended || filled.left.isEmpty || filled.left.length == arguments.length then filled
    else
      let others := format fuel pattern filled.left
      { others with text := filled.text ++ others.text
                    complaints := filled.complaints ++ others.complaints }

end NamedExports.Shell
