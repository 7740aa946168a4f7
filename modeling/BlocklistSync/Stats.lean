import BlocklistSync.Log

/-! Counters of what the daemon has done since it started. They wrap around at 64 bits. -/
namespace BlocklistSync

structure Stats where
  cycles : UInt64 := 0
  timerWakes : UInt64 := 0
  notifiedWakes : UInt64 := 0
  unchanged : UInt64 := 0
  applies : UInt64 := 0
  storeRetries : UInt64 := 0
  compileFailures : UInt64 := 0
  commandFailures : UInt64 := 0
  unenforcedWarnings : UInt64 := 0
  deriving Repr, DecidableEq

namespace Stats

def addCycle (s : Stats) : Stats := { s with cycles := s.cycles + 1 }
def addTimerWake (s : Stats) : Stats := { s with timerWakes := s.timerWakes + 1 }
def addNotifiedWake (s : Stats) : Stats := { s with notifiedWakes := s.notifiedWakes + 1 }
def addUnchanged (s : Stats) : Stats := { s with unchanged := s.unchanged + 1 }
def addApply (s : Stats) : Stats := { s with applies := s.applies + 1 }
def addStoreRetry (s : Stats) : Stats := { s with storeRetries := s.storeRetries + 1 }
def addCompileFailure (s : Stats) : Stats := { s with compileFailures := s.compileFailures + 1 }
def addUnenforcedWarning (s : Stats) : Stats :=
  { s with unenforcedWarnings := s.unenforcedWarnings + 1 }
def addCommandFailures (s : Stats) (n : UInt64) : Stats :=
  { s with commandFailures := s.commandFailures + n }

def dump (s : Stats) : LogLine :=
  .info .stats <|
    s!"STATS DUMP: Cycles: {s.cycles} (timer {s.timerWakes}, notified {s.notifiedWakes}), " ++
    s!"Unchanged: {s.unchanged}, Applies: {s.applies}, StoreRetries: {s.storeRetries}, " ++
    s!"CompileFailures: {s.compileFailures}, CommandFailures: {s.commandFailures}, " ++
    s!"UnenforcedWarnings: {s.unenforcedWarnings}"

end Stats
end BlocklistSync
