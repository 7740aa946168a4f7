import BlocklistSync.Duration
import BlocklistSync.Stats

/-! Time as the daemon's timers see it: whole milliseconds, a delay rounded up to the next. -/
namespace BlocklistSync

/-- The clock behind the timers. It counts seconds up to a last one, so how long a delay may be
depends on how far it has come. The bound is a parameter of everything that waits, and nothing is
assumed of it. -/
class Timer where
  /-- Delays of so many seconds end beyond what the clock can express. -/
  unreachableSeconds : Nat

/-- A clock that counts to 2^63 and has been running for less than 2^40 seconds. -/
instance Timer.ofLongClock : Timer := ⟨Nat.pow 2 63 - Nat.pow 2 40⟩

namespace Clock

/-- How long a delay lasts whose end the clock cannot express: thirty years. -/
def longestDelay : Nat := 86400 * 365 * 30 * 1000

def millis [Timer] (d : Duration) : Nat :=
  if Timer.unreachableSeconds ≤ d.seconds then longestDelay else d.ceilMillis

end Clock

/-- Shows the counters once every so often, for the first time one period after its start. -/
structure Reporter where
  period : Duration
  started : Nat
  /-- Dumps so far. -/
  shown : Nat

namespace Reporter

def due (r : Reporter) : Nat :=
  r.started + ((r.shown + 1) * r.period.nanos + nanosPerMilli - 1) / nanosPerMilli

def dueBefore (r : Reporter) (time : Nat) : Nat :=
  if r.period.nanos = 0 || time ≤ r.started then 0
  else ((time - 1 - r.started) * nanosPerMilli) / r.period.nanos - r.shown

def advance (r : Reporter) (time : Nat) : Reporter := { r with shown := r.shown + r.dueBefore time }

end Reporter

/-- Counters, and reporters that show them as time passes. -/
structure Reporters where
  now : Nat
  stats : Stats
  /-- Those whose time begins with the next wait. -/
  waiting : List Duration
  working : List Reporter
  cancelled : Bool

namespace Reporters

def none : Reporters := ⟨0, {}, [], [], false⟩

def add (r : Reporters) (period : Duration) : Reporters :=
  { r with waiting := r.waiting ++ [period] }

/-- Reporters stop at the first wait after this. -/
def cancel (r : Reporters) : Reporters := { r with cancelled := true }

def sleep (r : Reporters) (ms : Nat) : Reporters × Log :=
  if ms = 0 then (r, [])
  else
    let stop := r.now + ms
    let all := r.working ++ r.waiting.map fun d => ⟨d, r.now, 0⟩
    let working := if r.cancelled then [] else all
    let dumps := working.foldl (fun n w => n + w.dueBefore stop) 0
    ({ r with now := stop, waiting := [], working := working.map (·.advance stop) },
      List.replicate dumps r.stats.dump)

end Reporters
end BlocklistSync
