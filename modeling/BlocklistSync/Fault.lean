import BlocklistSync.SystemError

/-! The faults that synchronisation can meet. None of them stops the daemon: they are logged,
counted and tried again, or leave the maps as they were. -/
namespace BlocklistSync

inductive Fault
  | storeUnavailable (reason : String)
  | mapWrite (path : String) (cause : IoError)
  /-- A command that could not start, or did not end with success. -/
  | command (line status stderr : String)
  | configuration (reason : String)
  deriving Repr, DecidableEq

namespace Fault

def message : Fault → String
  | .storeUnavailable reason => s!"store unavailable: {reason}"
  | .mapWrite path cause => s!"failed to write map {path}: {cause.message}"
  | .command line status stderr => "`" ++ line ++ "` exited with " ++ status ++ ": " ++ stderr
  | .configuration reason => s!"invalid configuration: {reason}"

def cause? : Fault → Option IoError
  | .mapWrite _ cause => some cause
  | _ => none

end Fault

abbrev Result (α : Type) := Except Fault α

end BlocklistSync
