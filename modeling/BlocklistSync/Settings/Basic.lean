import BlocklistSync.Backoff
import BlocklistSync.Maps.Kind

/-! Settings of the daemon and their defaults. -/
namespace BlocklistSync

/-! What each setting is where nothing is said about it. -/
namespace Settings.Default

def storeUrl : String := "sqlite:///var/lib/postfix-blocker/blocker.db"
def checkSeconds : Number.Binary64 := .ofRatio false 5 1
def mapDirectory : String := "/etc/postfix"
def pidFile : String := "/var/run/postfix-blocker/blocker.pid"
def indexer : String := "/usr/sbin/postmap"
def control : String := "/usr/sbin/postfix"
def query : String := "/usr/sbin/postconf"
def initialMs : UInt64 := 500
def ceilingMs : UInt64 := 30000
def logLevel : String := "info"
def statsEnabled : Bool := true
def statsSeconds : UInt64 := 300

end Settings.Default

/-- The mail server's programs: one indexes a map, one tells whether the server runs and reloads it,
and one lists the kinds of maps it knows. -/
structure CommandSettings where
  indexer : String := Settings.Default.indexer
  control : String := Settings.Default.control
  query : String := Settings.Default.query
  deriving Repr, DecidableEq

structure BackoffSettings where
  initialMs : UInt64 := Settings.Default.initialMs
  ceilingMs : UInt64 := Settings.Default.ceilingMs
  deriving Repr, DecidableEq

structure StatsSettings where
  enabled : Bool := Settings.Default.statsEnabled
  intervalSeconds : UInt64 := Settings.Default.statsSeconds
  deriving Repr, DecidableEq

structure Settings where
  storeUrl : String := Settings.Default.storeUrl
  checkSeconds : Number.Binary64 := Settings.Default.checkSeconds
  mapDirectory : String := Settings.Default.mapDirectory
  pidFile : String := Settings.Default.pidFile
  commands : CommandSettings := {}
  backoff : BackoffSettings := {}
  logLevel : String := Settings.Default.logLevel
  stats : StatsSettings := {}
  deriving Repr, DecidableEq

/-- A shorter interval would turn the poll loop into a busy loop. -/
def minCheckInterval : Duration := .ofMillis 1

def defaultCheckInterval : Duration := .ofMillis 5000

namespace Settings

/-- The poll interval; settings that were never checked are brought into range. -/
def checkInterval (s : Settings) : Duration :=
  match Duration.ofBinarySeconds s.checkSeconds with
  | .ok d => d.max minCheckInterval
  | .error _ => defaultCheckInterval.max minCheckInterval

def initialDelay (s : Settings) : Duration := .ofMillis s.backoff.initialMs

def delayCeiling (s : Settings) : Duration := .ofMillis s.backoff.ceilingMs

def newBackoff (s : Settings) : Backoff := .new s.initialDelay s.delayCeiling

def mapPaths (s : Settings) : MapPaths := .inDir s.mapDirectory

end Settings
end BlocklistSync
