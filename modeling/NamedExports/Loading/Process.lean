import NamedExports.Failure

/-!
# Processes

Programs that are run to completion: what they are started with, what they print and how they end.
-/

namespace NamedExports

/-- How a process ended. -/
inductive ExitStatus where
  | code (value : Nat)
  | signal (number : Nat)
  deriving Repr, DecidableEq

namespace ExitStatus

/-- Whether a process succeeded. -/
def isSuccess (status : ExitStatus) : Bool := status == .code 0

/-- The names of the signals, by their numbers. -/
def signalNames : List (Nat × String) :=
  [(1, "SIGHUP"), (2, "SIGINT"), (3, "SIGQUIT"), (4, "SIGILL"), (5, "SIGTRAP"), (6, "SIGABRT"),
    (7, "SIGBUS"), (8, "SIGFPE"), (9, "SIGKILL"), (10, "SIGUSR1"), (11, "SIGSEGV"),
    (12, "SIGUSR2"), (13, "SIGPIPE"), (14, "SIGALRM"), (15, "SIGTERM"), (16, "SIGSTKFLT"),
    (17, "SIGCHLD"), (18, "SIGCONT"), (19, "SIGSTOP"), (20, "SIGTSTP"), (21, "SIGTTIN"),
    (22, "SIGTTOU"), (23, "SIGURG"), (24, "SIGXCPU"), (25, "SIGXFSZ"), (26, "SIGVTALRM"),
    (27, "SIGPROF"), (28, "SIGWINCH"), (29, "SIGIO"), (30, "SIGPWR"), (31, "SIGSYS")]

/-- The wording of a status. -/
def text : ExitStatus → String
  | code n => s!"exit status: {n}"
  | signal n =>
    match signalNames.find? (·.1 == n) with
    | some (_, name) => s!"signal: {n} ({name})"
    | none => s!"signal: {n}"

end ExitStatus

/-- What a program is started with.  Its standard input is empty. -/
structure Invocation where
  program : Path
  arguments : List String
  /-- The directory that the program runs in. -/
  directory : Path
  /-- Variables set in addition to those of the environment. -/
  environment : List (String × String)
  deriving Repr, DecidableEq

/-- What a process printed, and how it ended. -/
structure Finished where
  stdout : List UInt8
  stderr : List UInt8
  status : ExitStatus
  deriving Repr, DecidableEq

/-- A way to run programs. -/
abbrev Runner := Invocation → Except IoError Finished

end NamedExports
