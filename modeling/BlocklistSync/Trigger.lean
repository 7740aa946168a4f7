import BlocklistSync.Clock

/-! Waking the daemon before its time. Requests to refresh coalesce into one flag, which the next
wake clears. -/
namespace BlocklistSync

inductive WakeReason
  | startup
  | timer
  | notified
  deriving Repr, DecidableEq

structure Trigger where
  pending : Bool
  deriving Repr, DecidableEq

namespace Trigger

def idle : Trigger := ⟨false⟩

/-- Logged once signals are turned into requests. -/
def listeningLine : LogLine := .info .trigger "Blocker listening for SIGUSR1 to trigger refresh"

def notify (_ : Trigger) : Trigger := ⟨true⟩

/-- Ends a wait: why, and the flag cleared. -/
def wake (t : Trigger) : Trigger × WakeReason := (idle, if t.pending then .notified else .timer)

/-- A trigger on its clock, with the requests that are still to come, each at its time. -/
structure Timeline where
  now : Nat
  trigger : Trigger
  coming : List Nat

namespace Timeline

def start : Timeline := ⟨0, idle, []⟩

/-- Lets the time pass up to `time`. Requests before it take effect; one at that very moment is
still to come when whoever slept goes on. -/
def passUntil (l : Timeline) (time : Nat) : Timeline :=
  let due := l.coming.any (· < time)
  ⟨time, if due then l.trigger.notify else l.trigger, l.coming.filter (time ≤ ·)⟩

/-- Waits for a request, for `interval` at most: a request that comes first ends the wait, together
with all others of its moment. -/
def wait [Timer] (l : Timeline) (interval : Duration) : Timeline × WakeReason :=
  if l.trigger.pending then
    let (trigger, reason) := l.trigger.wake
    ({ l with trigger := trigger }, reason)
  else
    let stop := l.now + Clock.millis interval
    match l.coming.foldl (fun first c => some (min c (first.getD c))) (none : Option Nat) with
    | some c =>
      if c < stop then
        ({ now := max l.now c, trigger := idle, coming := l.coming.filter (c < ·) }, .notified)
      else ({ l with now := stop }, .timer)
    | none => ({ l with now := stop }, .timer)

end Timeline
end Trigger
end BlocklistSync
