import BlocklistSync.Engine.Host
import BlocklistSync.Log.Filter
import BlocklistSync.Notify
import BlocklistSync.PidFile
import BlocklistSync.Settings.EnvironmentFile
import BlocklistSync.Settings.Load
import BlocklistSync.Store.Location

/-! The daemon as a program: it reads its settings, opens its log, sets up the engine and its pid
file, and runs until a signal tells it to stop. -/
namespace BlocklistSync

/-- How the program ended, and what it left behind. -/
structure Exit where
  status : Nat
  tree : FileTree
  log : Log
  /-- What it wrote to its error output. -/
  errors : String

structure Service where
  settings : Settings
  filter : LogFilter
  errors : String
  host : Host
  pidFile : PidFile
  reporter : Option Reporter

namespace Service

variable [Timer]

/-- A problem and its cause, as the program reports them when it gives up. -/
def problem (headline : String) (cause : Option String) : String :=
  match cause with
  | some c =>
    let indented := c.replace "\n" "\n    "
    s!"Error: {headline}\n\nCaused by:\n    {indented}\n"
  | none => s!"Error: {headline}\n"

def storeProblem : String := "Failed to configure blocklist store"

def startingLine : LogLine := .info .main "Starting postfix-blocker..."

def settingsLine (s : Settings) : LogLine :=
  .info .main s!"Maps in {s.mapDirectory}, polling every {s.checkInterval.toText}"

def shutdownLine : LogLine := .info .main "Shutdown signal received."

def filterVariable : String := "RUST_LOG"

def reporterOf (s : Settings) : Option Reporter :=
  if s.stats.enabled then some ⟨.ofSeconds (max 1 s.stats.intervalSeconds.toNat), 0, 0⟩ else none

def setUp (t : FileTree) (s : Settings) (filter : LogFilter) (errors : String) (pid : Nat) :
    Except Exit Service :=
  let opening := [startingLine, settingsLine s]
  match StoreLocation.ofUrl s.storeUrl with
  | .error f =>
    .error ⟨1, t, opening.filter filter.shows, errors ++ problem storeProblem (some f.message)⟩
  | .ok path =>
    let (t, pidFile, pidLog) := PidFile.create t s.pidFile pid
    let w : World :=
      ⟨t, .database, .empty, .new, .new path, some s.commands, .new true⟩
    let log := opening ++ StoreLocation.log (.ok path) ++ [Trigger.listeningLine] ++ pidLog
    .ok ⟨s, filter, errors, { Host.start w (.ofSettings s) with log := log }, pidFile, reporterOf s⟩

/-- Starts the program in a tree of files, with its environment and its process id. -/
def launch (t : FileTree) (env : Environment) (pid : Nat) : Except Exit Service :=
  let env := EnvironmentFile.load t env
  match Settings.fromEnvironment t env with
  | .error e => .error ⟨1, t, [], problem e.headline e.cause?⟩
  | .ok s =>
    let (filter, complaints) := LogFilter.choose (env filterVariable) s.logLevel
    setUp t s filter (String.join (complaints.map (· ++ "\n"))) pid

def tree (s : Service) : FileTree := s.host.world.tree

def setTree (s : Service) (t : FileTree) : Service :=
  { s with host := { s.host with world := { s.host.world with tree := t } } }

/-- The counters are shown whenever the reporter is due. -/
def report (s : Service) : Nat → Service
  | 0 => s
  | n + 1 =>
    match s.reporter with
    | some r =>
      let host := s.host.passUntil r.due
      let host := { host with log := host.log ++ [host.daemon.engine.stats.dump] }
      { s with host := host, reporter := some { r with shown := r.shown + 1 } }.report n
    | none => s

def passUntil (s : Service) (time : Nat) : Service :=
  let s := s.report ((s.reporter.map (·.dueBefore time)).getD 0)
  { s with host := s.host.passUntil time }

def settle (s : Service) : Service := s.passUntil s.host.now

/-- Passes from one thing that the daemon does to the next until `done` holds or `limit` is
reached. -/
def passUntilDone (done : FileTree → Bool) (limit : Nat) : Nat → Service → Service
  | 0, s => s
  | fuel + 1, s =>
    let s := s.settle
    if done s.tree then s
    else match s.host.deadline? with
      | some deadline =>
        if deadline ≤ limit then passUntilDone done limit fuel (s.passUntil deadline)
          else s.passUntil limit
      | none => s

/-- Waits until `done` holds, for `patience` milliseconds at most. -/
def await (s : Service) (done : FileTree → Bool) (patience : Nat) : Service :=
  passUntilDone done (s.host.now + patience) (patience + 1) s

/-- Signals the process that the pid file at the path names, be it the service or one of `others`;
tells whether there was such a process. -/
def refresh (s : Service) (others : List Nat) (path : String) :
    Except Notify.Unreadable (Service × Bool) := do
  let own := s.pidFile.pid
  let signalled ← Notify.refresh s.tree (fun pid => pid == own || others.contains pid) path
  let reached := signalled.any (·.pid == own)
  return (if reached then { s with host := s.host.notify } else s, Notify.delivered signalled)

/-- The lines that the filter lets through. -/
def shown (s : Service) : Log := s.host.log.filter s.filter.shows

/-- A signal to stop: the daemon ends once it has noticed, and takes its pid file with it. -/
def stop (s : Service) : Exit :=
  let s := s.settle
  let host := { s.host with log := s.host.log ++ [shutdownLine] }
  let s := { s with host := host.cancel }.settle
  ⟨0, s.pidFile.remove s.tree, s.shown, s.errors⟩

end Service
end BlocklistSync
