/-! Lines of the daemon's log. Each has a level and the area of the daemon that it comes from. -/
namespace BlocklistSync

/-- From the gravest to the least grave. -/
inductive Level
  | error
  | warn
  | info
  deriving Repr, DecidableEq

namespace Level

def name : Level → String
  | .error => "ERROR"
  | .warn => "WARN"
  | .info => "INFO"

/-- The higher, the less grave. -/
def verbosity : Level → Nat
  | .error => 1
  | .warn => 2
  | .info => 3

end Level

inductive Area
  | main
  | setup
  | databaseStore
  | retry
  | engine
  | trigger
  | pidFile
  | writer
  | controller
  | stats
  deriving Repr, DecidableEq

def Area.target : Area → String
  | .main => "postfix_blocker"
  | .setup => "postfix_blocker::init"
  | .databaseStore => "postfix_blocker::store::sqlite"
  | .retry => "postfix_blocker::store::backoff"
  | .engine => "postfix_blocker::engine::sync"
  | .trigger => "postfix_blocker::engine::trigger"
  | .pidFile => "postfix_blocker::engine::pidfile"
  | .writer => "postfix_blocker::maps::writer"
  | .controller => "postfix_blocker::postfix::controller"
  | .stats => "postfix_blocker::stats"

structure LogLine where
  area : Area
  level : Level
  text : String
  deriving Repr, DecidableEq

abbrev Log := List LogLine

namespace LogLine

def error (area : Area) (text : String) : LogLine := ⟨area, .error, text⟩
def warn (area : Area) (text : String) : LogLine := ⟨area, .warn, text⟩
def info (area : Area) (text : String) : LogLine := ⟨area, .info, text⟩

def render (l : LogLine) : String := s!"{l.level.name} {l.text}"

end LogLine
end BlocklistSync
