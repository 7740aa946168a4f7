import BlocklistSync.FileTree.Operations
import BlocklistSync.Log
import BlocklistSync.Text.Classes

/-! The file that tells others the daemon's process id. Failing to write it is no reason to stop; it
is removed in the end if it still holds the same id. -/
namespace BlocklistSync

structure PidFile where
  path : String
  pid : Nat
  written : Bool
  deriving Repr, DecidableEq

namespace PidFile

def contents (pid : Nat) : String := s!"{pid}\n"

/-- The directories above the file are made first. They stay even if the file cannot be written. -/
def writePid (t : FileTree) (path : String) (pid : Nat) : FileTree × Option IoError :=
  match t.makeDirectories ((Path.parent? path).getD "") with
  | (t, none) =>
    match t.write path (.ofText (contents pid)) with
    | .ok t => (t, none)
    | .error e => (t, some e)
  | failed => failed

def create (t : FileTree) (path : String) (pid : Nat) : FileTree × PidFile × Log :=
  match writePid t path pid with
  | (t, none) => (t, ⟨path, pid, true⟩, [.info .pidFile s!"Blocker PID file written: {path}"])
  | (t, some e) =>
    (t, ⟨path, pid, false⟩, [.warn .pidFile s!"Could not write PID file {path}: {e.message}"])

/-- Another process may have taken the path over since; then the file stays. -/
def remove (t : FileTree) (f : PidFile) : FileTree :=
  if !f.written then t
  else match t.readText f.path with
    | .ok s => if Text.trim s = toString f.pid then (t.unlink f.path).toOption.getD t else t
    | .error _ => t

end PidFile
end BlocklistSync
