import BlocklistSync.Backoff
import BlocklistSync.Clock
import BlocklistSync.Fault
import BlocklistSync.Log
import BlocklistSync.Stats

/-! Trying a store call again until it is served. After a failure the caller waits for as long as
the backoff says; only while it waits can it be cancelled. -/
namespace BlocklistSync.Retry

/-- The line for a failure: the number of the attempt, its fault and the wait that follows. -/
def failureLine (what : String) (b : Backoff) (f : Fault) : LogLine :=
  .warn .retry <| s!"{what} failed (attempt {b.failed.attempts}): {f.message}; " ++
    s!"retrying in {b.current.toText}"

def failureLog (what : String) (b : Backoff) (f : Fault) : Log :=
  if Backoff.isLoud b.failed.attempts then [failureLine what b f] else []

def successLine (what : String) (b : Backoff) : LogLine :=
  .info .retry s!"{what} succeeded after {b.attempts} failed attempt(s)"

def successLog (what : String) (b : Backoff) : Log :=
  if b.attempts = 0 then [] else [successLine what b]

/-- What came of a call and its repetitions. -/
structure Run (α : Type) where
  value : Option α
  backoff : Backoff
  stats : Stats
  calls : Nat
  /-- The waits in order, one for each failure. -/
  waits : List Duration
  /-- When it ended. -/
  time : Nat
  log : Log

/-- A call that meets `faults` in order and then gives `value`. It starts at time `now`;
cancellation, if any, fires at `cancelAt`. At the very end of a wait it comes too late here, where
the program takes either of the two ways. -/
def untilReady [Timer] {α : Type} (what : String) (value : α) (cancelAt : Option Nat) :
    List Fault → Backoff → Stats → Nat → Run α
  | [], b, stats, now => ⟨some value, b.reset, stats, 1, [], now, successLog what b⟩
  | f :: faults, b, stats, now =>
    let log := failureLog what b f
    let stats := stats.addStoreRetry
    let wake := now + Clock.millis b.current
    let cancelled := cancelAt.any fun c => c ≤ now || c < wake
    if cancelled then
      ⟨none, b.failed, stats, 1, [b.current], max now (cancelAt.getD now), log⟩
    else
      let r := untilReady what value cancelAt faults b.failed stats wake
      { r with calls := r.calls + 1, waits := b.current :: r.waits, log := log ++ r.log }

end BlocklistSync.Retry
