import NamedExports.Shell.Arithmetic
import NamedExports.Shell.Builtin
import NamedExports.Shell.Pattern
import NamedExports.Shell.Reader

/-!
# Running shell scripts

What a script prints and how it ends.  Words are expanded to marks first: each octet with where it
comes from, so that blanks part fields only if they come from an expansion that is not quoted, and
octets of a pattern have their meaning only if they are not quoted.

A command that is tested may fail even where failure ends the script.
-/

namespace NamedExports.Shell

/-! ## Marks -/

/-- A unit of a word that has been expanded. -/
inductive Mark where
  | octet (c : Char) (quoted : Bool)
  /-- An octet of an expansion that is not quoted. -/
  | loose (c : Char)
  /-- There is a field here, even if it is empty. -/
  | presence
  /-- One parameter ends and another one starts. -/
  | boundary
  deriving Repr, DecidableEq

namespace Mark

/-- Octets from an expansion. -/
def ofValue (quoted : Bool) (octets : Octets) : List Mark :=
  if quoted then .presence :: octets.map (.octet · true) else octets.map .loose

/-- The values of several parameters, each in a field of its own. -/
def ofValues (quoted : Bool) (values : List Octets) : List Mark :=
  ((values.map (ofValue quoted)).intersperse [.boundary]).flatten

/-- All octets in order. -/
def text (marks : List Mark) : Octets :=
  marks.filterMap fun mark =>
    match mark with
    | octet c _ | loose c => some c
    | boundary => some ' '
    | presence => none

/-- The pattern that marks spell. -/
def pattern (marks : List Mark) : List Glob :=
  let octets := marks.filterMap fun mark =>
    match mark with
    | octet c quoted => some (c, quoted)
    | loose c => some (c, false)
    | _ => none
  Glob.ofPattern (octets.length + 1) octets

/-- An octet that is not quoted, as one from an expansion. -/
def loosen : Mark → Mark
  | octet c false => loose c
  | mark => mark

/-- Cuts marks into fields.  The one that is open is given in reverse. -/
def fieldsFrom (current : Option Octets) : List Mark → List Octets
  | [] => (current.map List.reverse).toList
  | .octet c _ :: rest => fieldsFrom (some (c :: current.getD [])) rest
  | .loose c :: rest =>
    if c == ' ' || c == '\t' || c == '\n' then
      (current.map List.reverse).toList ++ fieldsFrom none rest
    else fieldsFrom (some (c :: current.getD [])) rest
  | .presence :: rest => fieldsFrom (some (current.getD [])) rest
  | .boundary :: rest => (current.map List.reverse).toList ++ fieldsFrom none rest

/-- The fields of marks. -/
def fields (marks : List Mark) : List Octets := fieldsFrom none marks

end Mark

/-! ## Parameters -/

/-- The value of a parameter, if it is set. -/
def parameter? (state : State) (name : Octets) : Option Octets :=
  match name with
  | ['#'] => some (decimal state.parameters.length)
  | ['?'] => some (decimal state.status)
  | ['$'] => some ['1']
  | ['!'] => some []
  | ['-'] => some (if state.stopsOnFailure then ['e'] else [])
  | ['@'] | ['*'] => some (joinWords state.parameters)
  | ['0'] => some state.name
  | _ =>
    match digits? 10 name with
    | some (n + 1) => state.parameters[n]?
    | _ => state.value? name

/-- The name of a parameter at the start of a form, and what follows it. -/
def splitForm (form : Octets) : Octets × Octets :=
  match form with
  | c :: rest =>
    if isSpecial c && !c.isDigit then ([c], rest)
    else (form.takeWhile isNameChar, form.dropWhile isNameChar)
  | [] => ([], [])

/-- The number of so much text. -/
def lengthOf (state : State) (name : Octets) : Octets :=
  decimal ((parameter? state name).getD []).length

/-- The name that a word assigns to, and the rest of the word. -/
def assignment? (word : Word) : Option (Octets × Word) :=
  let name := (word.takeWhile fun piece =>
    match piece with
    | (.text [c], false) => isNameChar c
    | _ => false)
  match word.drop name.length with
  | (.text ['='], false) :: rest =>
    let name := literal name
    if name.isEmpty || name.head?.any Char.isDigit then none else some (name, rest)
  | _ => none

/-- Line ends at the end are dropped, and zeros anywhere. -/
def dropLineEnds (octets : Octets) : Octets :=
  ((octets.filter (· != '\x00')).reverse.dropWhile (· == '\n')).reverse

/-! ## Streams -/

/-- A file that stands for a stream, or for none. -/
def sinkOf (state : State) (file : Octets) : Option Sink :=
  match String.ofList file with
  | "/dev/null" => some .nowhere
  | "/dev/stdout" => state.streams.lookup 1
  | "/dev/stderr" => state.streams.lookup 2
  | _ => none

/-- The state in which a stream leads somewhere else. -/
def State.lead (state : State) (stream : Nat) (sink : Sink) : State :=
  { state with streams := (stream, sink) :: state.streams }

/-- Opens a file for a stream, which is cleared unless more is added to it. -/
def openFile (state : State) (stream : Nat) (append : Bool) (file : Octets) : State × Bool :=
  match sinkOf state file with
  | some sink => (state.lead stream sink, true)
  | none =>
    let path := pathOf file
    let old := if append then (state.disk.readBytes path).toOption.getD [] else []
    match state.disk.write path old with
    | .ok disk => ({ state with disk }.lead stream (.file path), true)
    | .error .isADirectory =>
      (state.complain (ofText "cannot create " ++ file ++ ofText ": Is a directory"), false)
    | .error _ =>
      (state.complain (ofText "cannot create " ++ file ++ ofText ": Directory nonexistent"), false)

/-- Opens a file for the standard input. -/
def openInput (state : State) (file : Octets) : State × Bool :=
  if file == "/dev/null".toList then ({ state with input := [] }, true)
  else
    match state.disk.readBytes (pathOf file) with
    | .ok content => ({ state with input := ofBytes content }, true)
    | .error _ => (state.complain (ofText "cannot open " ++ file ++ ofText ": No such file"), false)

/-- The state behind a command whose streams were led elsewhere. -/
def State.restore (outer inner : State) (redirects : List Redirect) : State :=
  let readsElsewhere := redirects.any fun redirect =>
    match redirect with
    | .read _ | .document _ => true
    | _ => false
  { inner with
    streams := outer.streams
    input := if readsElsewhere then outer.input else inner.input }

/-! ## Loops -/

/-- The state behind one run of a loop's body, and whether the loop goes on.  There is none if more
than the loop ends. -/
def goOn (state : State) : Option (State × Bool) :=
  match state.flow with
  | .running => some (state, true)
  | .leaving loops =>
    let flow := if loops ≤ 1 then .running else .leaving (loops - 1)
    some ({ state with flow, status := 0 }, false)
  | .skipping loops =>
    if loops ≤ 1 then some ({ state with flow := .running, status := 0 }, true)
    else some ({ state with flow := .skipping (loops - 1) }, false)
  | _ => none

/-! ## Commands -/

mutual

/-- Expands a word. -/
def expand : Nat → State → Word → State × List Mark
  | 0, state, _ | _, state, [] => (state, [])
  | fuel + 1, state, (piece, quoted) :: rest =>
    let (state, first) :=
      match piece with
      | .text octets =>
        (state, if quoted then .presence :: octets.map (.octet · true)
          else octets.map (.octet · false))
      | .parameter form => expandForm fuel state quoted form
      | .output script =>
        let (state, octets) := outputOf fuel state script
        (state, Mark.ofValue quoted octets)
      | .number expression =>
        let (state, marks) := expand fuel state (quotedWordOf expression)
        let value (name : Octets) : Octets := (parameter? state name).getD []
        let expression := Mark.text marks
        match Arithmetic.evaluate value expression with
        | .ok n => (state, Mark.ofValue quoted (decimalOf n))
        | .error cause => ((state.complain (cause.message expression)).leave 2, [])
    let (state, others) := expand fuel state rest
    (state, first ++ others)

/-- Expands a parameter with what is done to its value. -/
def expandForm : Nat → State → Bool → Octets → State × List Mark
  | 0, state, _, _ => (state, [])
  | fuel + 1, state, quoted, form =>
    let (name, operation) := splitForm form
    let value := parameter? state name
    let inner (text : Octets) : Word :=
      if quoted then quotedWordOf (dropQuotes text) else wordOf text
    let trimmed (drop : List Glob → Octets → Octets) (pattern : Octets) : State × List Mark :=
      let (state, marks) := expand fuel state (wordOf pattern)
      (state, Mark.ofValue quoted (drop (Mark.pattern marks) (value.getD [])))
    let refused (text : Octets) : State × List Mark :=
      ((state.complain (name ++ ofText ": " ++ text)).leave 2, [])
    let instead (state : State) (text : Octets) : State × List Mark :=
      let (state, marks) := expand fuel state (inner text)
      (state, if quoted then marks else marks.map Mark.loosen)
    let choose (emptyCounts : Bool) (operator : Char) (text : Octets) : State × List Mark :=
      let isMissing := value.isNone || (emptyCounts && value == some [])
      match operator with
      | '-' => if isMissing then instead state text
        else (state, Mark.ofValue quoted (value.getD []))
      | '+' => if isMissing then (state, []) else instead state text
      | '=' =>
        if isMissing then
          let (state, marks) := expand fuel state (inner text)
          (state.set name (Mark.text marks), Mark.ofValue quoted (Mark.text marks))
        else (state, Mark.ofValue quoted (value.getD []))
      | '?' =>
        if isMissing then refused (if text.isEmpty then ofText "parameter not set" else text)
        else (state, Mark.ofValue quoted (value.getD []))
      | _ => ((state.complain (ofText "Bad substitution")).leave 2, [])
    match form, operation with
    | '#' :: _ :: _, _ => (state, Mark.ofValue quoted (lengthOf state form.tail))
    | ['@'], _ => (state, Mark.ofValues quoted state.parameters)
    | ['*'], _ =>
      if quoted then (state, Mark.ofValue true (joinWords state.parameters))
      else (state, Mark.ofValues false state.parameters)
    | _, [] =>
      if value.isNone && state.stopsOnUnset then refused (ofText "parameter not set")
      else (state, Mark.ofValue quoted (value.getD []))
    | _, '#' :: '#' :: pattern => trimmed (Glob.dropStart · true ·) pattern
    | _, '#' :: pattern => trimmed (Glob.dropStart · false ·) pattern
    | _, '%' :: '%' :: pattern => trimmed (Glob.dropEnd · true ·) pattern
    | _, '%' :: pattern => trimmed (Glob.dropEnd · false ·) pattern
    | _, ':' :: operator :: text => choose true operator text
    | _, operator :: text => choose false operator text

/-- What a script prints. -/
def outputOf : Nat → State → Octets → State × Octets
  | 0, state, _ => (state, [])
  | fuel + 1, state, script =>
    match read state.line script with
    | none => ((state.complain (ofText "Syntax error")).leave 2, [])
    | some commands =>
      let (printed, inner) := (runAll fuel false state.capture commands).release
      let after := state.behind inner
      ({ after with status := state.status, innerStatus := after.status }, dropLineEnds printed)

/-- Expands words to fields. -/
def expandAll : Nat → State → List Word → State × List Octets
  | 0, state, _ | _, state, [] => (state, [])
  | fuel + 1, state, word :: rest =>
    let (state, marks) := expand fuel state word
    let (state, others) := expandAll fuel state rest
    (state, Mark.fields marks ++ others)

/-- Leads streams elsewhere, and tells whether that was possible. -/
def redirectAll : Nat → State → List Redirect → State × Bool
  | 0, state, _ | _, state, [] => (state, true)
  | fuel + 1, state, redirect :: rest =>
    let (state, isOpen) :=
      match redirect with
      | .copy stream other =>
        match state.streams.lookup other with
        | some sink => (state.lead stream sink, true)
        | none => (state.complain (decimal other ++ ofText ": Bad file descriptor"), false)
      | .close stream => (state.lead stream .nowhere, true)
      | .write stream append file =>
        let (state, marks) := expand fuel state file
        openFile state stream append (Mark.text marks)
      | .read file =>
        let (state, marks) := expand fuel state file
        openInput state (Mark.text marks)
      | .document content =>
        let (state, marks) := expand fuel state content
        ({ state with input := Mark.text marks }, true)
    if isOpen then redirectAll fuel state rest else (state, false)

/-- Sets variables. -/
def assignAll : Nat → State → List (Octets × Word) → State
  | 0, state, _ | _, state, [] => state
  | fuel + 1, state, (name, word) :: rest =>
    let (state, marks) := expand fuel state word
    assignAll fuel (state.set name (Mark.text marks)) rest

/-- Runs commands one after the other. -/
def runAll : Nat → Bool → State → List Command → State
  | 0, _, state, _ | _, _, state, [] => state
  | fuel + 1, tested, state, command :: rest =>
    let state := run fuel tested state command
    if state.isRunning then runAll fuel tested state rest else state

/-- Runs a command. -/
def run : Nat → Bool → State → Command → State
  | 0, _, state, _ => state
  | fuel + 1, tested, state, command =>
    let settle (state : State) : State :=
      if state.stopsOnFailure && !tested && state.isRunning && state.status != 0 then
        state.leave state.status
      else state
    match command with
    | .simple line words redirects =>
      settle (runSimple fuel tested { state with line, innerStatus := 0 } words redirects)
    | .negated body =>
      let state := run fuel true state body
      state.finish (if state.status == 0 then 1 else 0)
    | .chain first onSuccess second =>
      let state := run fuel true state first
      if !state.isRunning || (state.status == 0) != onSuccess then state
      else run fuel tested state second
    | .pipe first second =>
      let (printed, inner) := (run fuel true state.capture first).release
      let state := state.behind inner
      settle (state.behind (run fuel tested { state with input := printed } second))
    | .background body => (state.behind (run fuel true state body)).finish 0
    | .branch test body other =>
      let state := runAll fuel true state test
      if !state.isRunning then state
      else if state.status == 0 then runAll fuel tested state body
      else runAll fuel tested (state.finish 0) other
    | .loop onSuccess test body => runLoop fuel tested onSuccess (state.finish 0) 0 test body
    | .each name words body =>
      let (state, values) :=
        match words with
        | some words => expandAll fuel state words
        | none => (state, state.parameters)
      runEach fuel tested (state.finish 0) name values body
    | .choice subject cases =>
      let (state, marks) := expand fuel state subject
      runCases fuel tested (state.finish 0) (Mark.text marks) cases
    | .group body => runAll fuel tested state body
    | .subshell body => settle (state.behind (runAll fuel tested state body))
    | .define name body => { state with functions := (name, body) :: state.functions }.finish 0
    | .redirected line body redirects =>
      let (inner, isOpen) := redirectAll fuel { state with line } redirects
      if isOpen then state.restore (run fuel tested inner body) redirects
      else state.restore (inner.finish 2) redirects

/-- Runs a loop.  Its status is that of the body's last run. -/
def runLoop : Nat → Bool → Bool → State → Nat → List Command → List Command → State
  | 0, _, _, state, _, _, _ => state
  | fuel + 1, tested, onSuccess, state, status, test, body =>
    let state := runAll fuel true state test
    match goOn state with
    | some (state, false) => state
    | none => state
    | some (state, true) =>
      if (state.status == 0) != onSuccess then state.finish status
      else
        let state := runAll fuel tested state body
        match goOn state with
        | some (state, true) => runLoop fuel tested onSuccess state state.status test body
        | some (state, false) => state
        | none => state

/-- Runs a body for every value of a variable. -/
def runEach : Nat → Bool → State → Octets → List Octets → List Command → State
  | 0, _, state, _, _, _ | _, _, state, _, [], _ => state
  | fuel + 1, tested, state, name, value :: rest, body =>
    let state := runAll fuel tested (state.set name value) body
    match goOn state with
    | some (state, true) => runEach fuel tested state name rest body
    | some (state, false) => state
    | none => state

/-- Runs the first case of which a pattern matches. -/
def runCases : Nat → Bool → State → Octets → List (List Word × List Command) → State
  | 0, _, state, _, _ | _, _, state, _, [] => state
  | fuel + 1, tested, state, subject, (patterns, body) :: rest =>
    let (state, isFound) := matchesAny fuel state subject patterns
    if isFound then runAll fuel tested state body
    else runCases fuel tested state subject rest

/-- Whether one of several patterns matches. -/
def matchesAny : Nat → State → Octets → List Word → State × Bool
  | 0, state, _, _ | _, state, _, [] => (state, false)
  | fuel + 1, state, subject, pattern :: rest =>
    let (state, marks) := expand fuel state pattern
    if Glob.matchesAll (Mark.pattern marks) subject then (state, true)
    else matchesAny fuel state subject rest

/-- Runs a command that is given by words. -/
def runSimple : Nat → Bool → State → List Word → List Redirect → State
  | 0, _, state, _, _ => state
  | fuel + 1, tested, state, words, redirects =>
    let assignments := (words.takeWhile fun word => (assignment? word).isSome)
    let (expanded, fields) := expandAll fuel state (words.drop assignments.length)
    if !expanded.isRunning then expanded
    else
      let (opened, isOpen) := redirectAll fuel expanded redirects
      if !isOpen then expanded.restore (opened.finish 2) redirects
      else
        let assigned := assignAll fuel opened (assignments.filterMap assignment?)
        match fields with
        | [] => expanded.restore (assigned.finish assigned.innerStatus) redirects
        | name :: arguments =>
          let name := String.ofList name
          let state := runNamed fuel tested assigned name arguments
          let state :=
            if Builtin.isLasting name || assignments.isEmpty then state
            else { state with bindings := expanded.bindings }
          if name == "exec" && arguments.isEmpty then state
          else expanded.restore state redirects

/-- Runs a command that is given by its name and arguments. -/
def runNamed : Nat → Bool → State → String → List Octets → State
  | 0, _, state, _, _ => state
  | fuel + 1, tested, state, name, arguments =>
    match state.functions.lookup name.toList with
    | some body =>
      let inner := run fuel tested { state with parameters := arguments } body
      let flow := if inner.flow == .returning then .running else inner.flow
      { inner with flow, parameters := state.parameters }
    | none =>
      match name, arguments with
      | "eval", words => runText fuel tested state (joinWords words)
      | "exec", [] => state.finish 0
      | "exec", inner :: rest =>
        let state := runNamed fuel tested state (String.ofList inner) rest
        if state.isRunning then state.leave state.status else state
      | "command", inner :: rest => runNamed fuel tested state (String.ofList inner) rest
      | "sh", ['-', 'c'] :: script :: rest =>
        let inner := { state with
          name := rest.head?.getD "sh".toList, parameters := rest.drop 1, functions := []
          stopsOnFailure := false, stopsOnUnset := false, farewell := [] }
        state.behind (runText fuel false inner script)
      | _, _ =>
        match (Builtin.program? name).or (Utility.program? name) with
        | some program => program state arguments
        | none => (state.complain (name.toList ++ ofText ": not found")).finish 127

/-- Runs a script that is given as text. -/
def runText : Nat → Bool → State → Octets → State
  | 0, _, state, _ => state
  | fuel + 1, tested, state, script =>
    match read (max 1 state.line) script with
    | some commands => runAll fuel tested (state.finish 0) commands
    | none => (state.complain (ofText "Syntax error")).leave 2

end

/-! ## Scripts -/

/-- The number of steps that a script may take beside one for each of its octets. -/
def stepLimit : Nat := 20000

/-- The status of a script that has ended. -/
def State.exitStatus (state : State) : ExitStatus :=
  match state.flow with
  | .ended status => status
  | _ => .code state.status

/-- Runs what a script has kept for its end, which is not reached if a signal ends it. -/
def runFarewell (state : State) : State :=
  match state.flow, state.farewell with
  | .ended (.signal _), _ | _, [] => state
  | flow, script =>
    let after := runText stepLimit false { state with flow := .running, farewell := [] } script
    if after.isRunning then { after with status := state.status, flow } else after

/-- Runs a whole script. -/
def runScript (state : State) (script : Octets) : Finished :=
  let state := runFarewell (runText (script.length + stepLimit) false state script)
  let printed (index : Nat) : List UInt8 := toBytes (state.buffers[index]?.getD [])
  ⟨printed 0, printed 1, state.exitStatus⟩

end NamedExports.Shell
