import BlocklistSync.SystemError
import BlocklistSync.Text.Utf8

/-! External commands and what comes of running them. -/
namespace BlocklistSync

inductive Ending
  | exited (code : Nat)
  | killed (signal : Nat)
  deriving Repr, DecidableEq

def signalNames : List (Nat × String) :=
  [(1, "SIGHUP"), (2, "SIGINT"), (3, "SIGQUIT"), (4, "SIGILL"), (5, "SIGTRAP"), (6, "SIGABRT"),
   (7, "SIGBUS"), (8, "SIGFPE"), (9, "SIGKILL"), (10, "SIGUSR1"), (11, "SIGSEGV"), (12, "SIGUSR2"),
   (13, "SIGPIPE"), (14, "SIGALRM"), (15, "SIGTERM"), (16, "SIGSTKFLT"), (17, "SIGCHLD"),
   (18, "SIGCONT"), (19, "SIGSTOP"), (20, "SIGTSTP"), (21, "SIGTTIN"), (22, "SIGTTOU"),
   (23, "SIGURG"), (24, "SIGXCPU"), (25, "SIGXFSZ"), (26, "SIGVTALRM"), (27, "SIGPROF"),
   (28, "SIGWINCH"), (29, "SIGIO"), (30, "SIGPWR"), (31, "SIGSYS")]

def Ending.describe : Ending → String
  | .exited code => s!"exit status: {code}"
  | .killed signal =>
    let name := match signalNames.lookup signal with
      | some n => s!" ({n})"
      | none => ""
    s!"signal: {signal}{name}"

structure Command where
  program : String
  arguments : List String
  deriving Repr, DecidableEq

def Command.line (c : Command) : String := " ".intercalate (c.program :: c.arguments)

inductive CommandResult
  | ended (ending : Ending) (output errors : Bytes)
  | notStarted (cause : IoError)
  deriving Repr, DecidableEq

/-- Whatever runs commands, with a state of its own that each run may change. -/
abbrev Runner (σ : Type) := σ → Command → σ × CommandResult

end BlocklistSync
