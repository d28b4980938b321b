import NamedExports.Shell.Format
import NamedExports.Shell.State

/-!
# Utilities

Programs that scripts use, as far as they only print: what each of them does to the state of the
shell that runs it.
-/

namespace NamedExports.Shell

/-- What a program does to the state of a shell, given its arguments. -/
abbrev Program := State → List Octets → State

namespace Utility

/-! ## Reading files -/

/-- The wording of programs for what the operating system refuses. -/
def wording : IoError → String
  | .isADirectory => "Is a directory"
  | .notADirectory => "Not a directory"
  | .permissionDenied => "Permission denied"
  | .nameTooLong => "File name too long"
  | .tooManyLinks => "Too many levels of symbolic links"
  | _ => "No such file or directory"

/-- A character that needs no quotes around it. -/
def isSafe (c : Char) : Bool :=
  c.isAlphanum || ['/', '.', '-', '_', '+', ',', '@', '%'].contains c || 127 < c.toNat

/-- The name of a file in a complaint, with quotes around it if it needs them. -/
def shown (file : Octets) : String :=
  let name := (pathOf file).text
  if file.isEmpty || !file.all isSafe then s!"'{name}'" else name

/-- The content of a file, or of the standard input, which is used up. -/
def contentOf (state : State) (file : Octets) : State × Except IoError Octets :=
  if file == ['-'] then ({ state with input := [] }, .ok state.input)
  else (state, (state.disk.readBytes (pathOf file)).map ofBytes)

/-- Does something with the content of each file, or of the standard input if there is none.  Files
that cannot be read are complained about. -/
def eachFile (complaint : String → String → String) (use : State → Octets → Octets → State)
    (state : State) (files : List Octets) : State :=
  let files := if files.isEmpty then [['-']] else files
  files.foldl (fun state file =>
    match contentOf state file with
    | (state, .ok content) => use state file content
    | (state, .error cause) =>
      (state.mourn (complaint (shown file) (wording cause))).finish 1) (state.finish 0)

/-- Separates options from what follows them. -/
def options (arguments : List Octets) : List Octets × List Octets :=
  let given := arguments.takeWhile fun argument => ['-'].isPrefixOf argument && argument != ['-']
  (given, arguments.drop given.length)

/-- Lines, each with its end. -/
def linesOf (text : Octets) : List Octets :=
  let parts := Text.splitOn '\n' text
  let last := parts.getLast?.getD []
  parts.dropLast.map (· ++ ['\n']) ++ (if last.isEmpty then [] else [last])

/-! ## Programs -/

/-- Prints files. -/
def cat : Program := fun state arguments =>
  eachFile (fun file cause => s!"cat: {file}: {cause}")
    (fun state _ content => state.print content) state (options arguments).2

/-- A path without slashes at its end. -/
def dropSlashes (path : Octets) : Octets :=
  match (path.reverse.dropWhile (· == '/')).reverse with
  | [] => path.take 1
  | shorter => shorter

/-- Prints the last name of a path, without a known ending. -/
def basename : Program := fun state arguments =>
  let path := dropSlashes (arguments.head?.getD [])
  let name := if path == ['/'] then path else (path.reverse.takeWhile (· != '/')).reverse
  let ending := (arguments.drop 1).head?.getD []
  let name := if name == ending then name else (Text.stripEnd ending name).getD name
  (state.print (name ++ ['\n'])).finish 0

/-- Prints a path without its last name. -/
def dirname : Program := fun state arguments =>
  let path := dropSlashes (arguments.head?.getD [])
  let folder := (path.reverse.dropWhile (· != '/')).reverse
  let folder := if folder.isEmpty then ['.'] else dropSlashes folder
  (state.print (folder ++ ['\n'])).finish 0

/-- Words between white space. -/
def countWords (text : Octets) : Nat :=
  (text.splitBy fun a b => Text.isSpace a == Text.isSpace b).countP fun word =>
    !(word.head?.any Text.isSpace)

/-- Counts bytes, lines or words. -/
def wc : Program := fun state arguments =>
  let (given, files) := options arguments
  let count (content : Octets) : Nat :=
    if given.contains ['-', 'l'] then content.count '\n'
    else if given.contains ['-', 'w'] then countWords content
    else content.length
  eachFile (fun file cause => s!"wc: {file}: {cause}")
    (fun state file content =>
      let label := if files.isEmpty then [] else ' ' :: file
      state.print (decimal (count content) ++ label ++ ['\n'])) state files

/-- A part of a file, as options ask for it: so many lines, or octets. -/
structure Extent where
  isOctets : Bool := false
  count : Nat := 10

/-- Reads the extent that options ask for. -/
def extent : List Octets → Extent × List Octets
  | ['-', 'n'] :: count :: rest => (⟨false, (digits? 10 count).getD 10⟩, rest)
  | ['-', 'c'] :: count :: rest => (⟨true, (digits? 10 count).getD 10⟩, rest)
  | ('-' :: 'n' :: count) :: rest => (⟨false, (digits? 10 count).getD 10⟩, rest)
  | ('-' :: 'c' :: count) :: rest => (⟨true, (digits? 10 count).getD 10⟩, rest)
  | ('-' :: count) :: rest =>
    match digits? 10 count with
    | some n => (⟨false, n⟩, rest)
    | none => ({}, ('-' :: count) :: rest)
  | rest => ({}, rest)

/-- The file that holds any number of zeros. -/
def zeros : Octets := "/dev/zero".toList

/-- Prints the start of files. -/
def head : Program := fun state arguments =>
  let (extent, files) := extent arguments
  if files == [zeros] then (state.print (List.replicate extent.count '\x00')).finish 0
  else
    eachFile (fun file cause => s!"head: cannot open '{file}' for reading: {cause}")
      (fun state _ content =>
        state.print (if extent.isOctets then content.take extent.count
          else ((linesOf content).take extent.count).flatten)) state files

/-- Prints the end of files. -/
def tail : Program := fun state arguments =>
  let (extent, files) := extent arguments
  eachFile (fun file cause => s!"tail: cannot open '{file}' for reading: {cause}")
    (fun state _ content =>
      state.print (if extent.isOctets then content.drop (content.length - extent.count)
        else
          let lines := linesOf content
          (lines.drop (lines.length - extent.count)).flatten)) state files

/-- Whether a line holds a text, perhaps at one of its ends only. -/
def holdsText (pattern line : Octets) : Bool :=
  match pattern, pattern.getLast? with
  | '^' :: text, some '$' => line == text.dropLast
  | '^' :: text, _ => text.isPrefixOf line
  | _, some '$' => pattern.dropLast.isSuffixOf line
  | _, _ => Text.hasWord pattern line

/-- What `grep` is asked for. -/
structure Request where
  pattern : Octets
  ignoresCase : Bool
  isInverted : Bool
  isQuiet : Bool
  countsOnly : Bool

/-- The lines of a text that a request asks for. -/
def Request.found (request : Request) (text : Octets) : List Octets :=
  let fold (text : Octets) : Octets :=
    if request.ignoresCase then text.map Char.toLower else text
  (linesOf text).filter fun line =>
    holdsText (fold request.pattern) (fold (line.filter (· != '\n'))) != request.isInverted

/-- What is printed of the lines that have been found. -/
def Request.report (request : Request) (found : List Octets) : Octets :=
  if request.isQuiet then []
  else if request.countsOnly then decimal found.length ++ ['\n']
  else found.flatMap fun line => if line.getLast? == some '\n' then line else line ++ ['\n']

/-- Prints the lines that hold a text.  The status is 1 if there is none. -/
def grep : Program := fun state arguments =>
  let (given, rest) := options arguments
  let has (option : Char) : Bool := given.any (·.contains option)
  let request : Request := ⟨rest.head?.getD [], has 'i', has 'v', has 'q', has 'c'⟩
  let files := if rest.tail.isEmpty then [['-']] else rest.tail
  let (state, status) := files.foldl (fun (state, status) file =>
    match contentOf state file with
    | (state, .ok content) =>
      let found := request.found content
      (state.print (request.report found), if found.isEmpty || status == 2 then status else 0)
    | (state, .error cause) =>
      (state.mourn s!"grep: {shown file}: {wording cause}", 2)) (state, 1)
  state.finish status

/-- Numbers from one to another. -/
def numbers (first step last : Int) : List Int :=
  if step == 0 then []
  else
    let count := (Int.fdiv (last - first) step + 1).toNat
    (List.range count).map fun (n : Nat) => first + step * (n : Int)

/-- Prints numbers. -/
def seq : Program := fun state arguments =>
  let bounds := arguments.filterMap integer?
  let all :=
    match bounds with
    | [last] => numbers 1 1 last
    | [first, last] => numbers first 1 last
    | [first, step, last] => numbers first step last
    | _ => []
  (state.print (all.flatMap fun n => decimalOf n ++ ['\n'])).finish 0

/-- The names in a directory, in order. -/
def namesIn (disk : Disk) (location : Location) : List Octets :=
  let inside := disk.entries.filter fun entry =>
    entry.1.length == location.length + 1 && location.isPrefixOf entry.1
  let names := inside.filterMap fun entry =>
    entry.1.getLast?.map fun name => ofBytes (Text.Utf8.encode name)
  let shown := names.filter (·.head? != some '.')
  shown.mergeSort fun a b => !List.lex b a fun c d => c.toNat < d.toNat

/-- Lists directories. -/
def ls : Program := fun state arguments =>
  let files := (options arguments).2
  let files := if files.isEmpty then [['.']] else files
  files.foldl (fun state file =>
    match state.disk.locate (pathOf file) with
    | .ok location =>
      let names := if state.disk.hasDirectory location then namesIn state.disk location else [file]
      state.print (names.flatMap (· ++ ['\n']))
    | .error cause =>
      let path := (pathOf file).text
      (state.mourn s!"ls: cannot access '{path}': {wording cause}").finish 2) (state.finish 0)

/-- The octets that a set of `tr` names. -/
def setOf : Nat → Octets → Octets
  | 0, _ | _, [] => []
  | fuel + 1, '\\' :: rest =>
    let (value, width) := escape rest
    value :: setOf fuel (rest.drop width)
  | fuel + 1, low :: '-' :: high :: rest =>
    ((List.range (high.toNat + 1 - low.toNat)).map fun n => octet (low.toNat + n)) ++
      setOf fuel rest
  | fuel + 1, c :: rest => c :: setOf fuel rest

/-- The range that the name of a class stands for. -/
def classRange (text : Octets) : Octets :=
  if text == "[:upper:]".toList then "A-Z".toList
  else if text == "[:lower:]".toList then "a-z".toList
  else text

/-- Replaces octets of the standard input, or drops them. -/
def tr : Program := fun state arguments =>
  let set (text : Octets) : Octets := setOf (text.length + 1) (classRange text)
  let text := state.input
  let text :=
    match arguments with
    | [['-', 'd'], dropped] => text.filter fun c => !(set dropped).contains c
    | [old, new] =>
      let old := set old
      let new := set new
      text.map fun c =>
        match old.idxOf? c with
        | some n => ((new[n]?).or new.getLast?).getD c
        | none => c
    | _ => text
  ({ state with input := [] }.print text).finish 0

/-- Prints variables. -/
def printenv : Program := fun state arguments =>
  arguments.foldl (fun state name =>
    match state.value? name with
    | some value => state.print (value ++ ['\n'])
    | none => state.finish 1) (state.finish 0)

/-- The programs by their names. -/
def program? : String → Option Program
  | "cat" => some cat
  | "basename" => some basename
  | "dirname" => some dirname
  | "wc" => some wc
  | "head" => some head
  | "tail" => some tail
  | "grep" => some grep
  | "seq" => some seq
  | "ls" => some ls
  | "tr" => some tr
  | "printenv" => some printenv
  | "sleep" | "sync" => some fun state _ => state.finish 0
  | _ => none

end Utility

end NamedExports.Shell
