import BlocklistSync.FileTree.Operations
import BlocklistSync.Number.Natural

/-! Asking a running daemon to refresh now, by a signal to the process that its pid file names. No
usable pid file and no such process are routine: the daemon polls anyway. -/
namespace BlocklistSync.Notify

def maxPid : Nat := Nat.pow 2 31 - 1

/-- The process id that the text of a pid file names, white space aside. -/
def pidOfText (s : String) : Option Nat :=
  match Number.readNatural maxPid (Text.trim s) with
  | .ok 0 => none
  | .ok pid => some pid
  | .error _ => none

structure Unreadable where
  path : String
  cause : IoError
  deriving Repr, DecidableEq

def Unreadable.message (e : Unreadable) : String :=
  s!"Failed to read {e.path}: {e.cause.message}"

def target (t : FileTree) (path : String) : Except Unreadable (Option Nat) :=
  match t.readText path with
  | .ok s => .ok (pidOfText s)
  | .error e => if e.kind = .notFound then .ok none else .error ⟨path, e⟩

/-- A signal sent to a process, and whether there was one to receive it. -/
structure Signalled where
  pid : Nat
  delivered : Bool
  deriving Repr, DecidableEq

/-- Sends the signal to the process that the file names; `alive` tells which processes there are. -/
def refresh (t : FileTree) (alive : Nat → Bool) (path : String) :
    Except Unreadable (Option Signalled) := do
  return (← target t path).map fun pid => ⟨pid, alive pid⟩

def delivered : Option Signalled → Bool
  | some s => s.delivered
  | none => false

end BlocklistSync.Notify
