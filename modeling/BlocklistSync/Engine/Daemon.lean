import BlocklistSync.Engine.Basic

/-! The engine in its endless loop: a start, then cycles, and between two cycles a wait that the
timer or a request to refresh ends. Shutdown is noticed only in waits and in pauses between the
tries of a store call. -/
namespace BlocklistSync

inductive Activity
  | asking (request : Request)
  /-- Between two tries of a store call. -/
  | pausing (delay : Duration) (request : Request)
  /-- Between two cycles. -/
  | waiting
  | ended
  deriving Repr, DecidableEq

structure Daemon where
  engine : Engine
  activity : Activity
  trigger : Trigger
  cancelled : Bool

namespace Daemon

def start (e : Engine) : Daemon := ⟨e, .asking .connect, .idle, false⟩

def notify (d : Daemon) : Daemon := { d with trigger := d.trigger.notify }

def cancel (d : Daemon) : Daemon := { d with cancelled := true }

def neverStartedLine : LogLine :=
  .info .engine "Shutdown requested before the store became available"

def stoppedLine : LogLine := .info .engine "Sync loop stopped"

def beginCycle (d : Daemon) (reason : WakeReason) : Daemon :=
  { d with engine := d.engine.beginCycle, activity := .asking (.fingerprint reason) }

def follow (d : Daemon) : Next → Daemon × Log
  | .ask request => ({ d with activity := .asking request }, [])
  | .pause delay request => ({ d with activity := .pausing delay request }, [])
  | .started true => (d.beginCycle .startup, [])
  | .started false => ({ d with activity := .ended }, [neverStartedLine])
  | .finished .cancelled => ({ d with activity := .ended }, [stoppedLine])
  | .finished _ => ({ d with activity := .waiting }, [])

def receive (d : Daemon) (request : Request) (reply : request.Reply) : Daemon × Log :=
  let step := d.engine.receive request reply
  let (d, log) := { d with engine := step.engine }.follow step.next
  (d, step.log ++ log)

/-- How long the daemon stays as it is if nothing happens. -/
def timeout? (d : Daemon) : Option Duration :=
  match d.activity with
  | .pausing delay _ => some delay
  | .waiting => some d.engine.interval
  | .asking _ | .ended => none

/-- Ends a wait, and with it whatever requests to refresh there are. -/
def wake (d : Daemon) : Daemon :=
  let (trigger, reason) := d.trigger.wake
  let stats := match reason with
    | .notified => d.engine.stats.addNotifiedWake
    | .timer | .startup => d.engine.stats.addTimerWake
  { d with trigger := trigger, engine := { d.engine with stats := stats } }.beginCycle reason

def elapse (d : Daemon) : Daemon :=
  match d.activity with
  | .pausing _ request => { d with activity := .asking request }
  | .waiting => d.wake
  | .asking _ | .ended => d

/-- What shutdown or a request to refresh brings about at once, if there is such. Shutdown comes
first here; of shutdown and a timer or request of the same moment the program takes either. -/
def stir? (d : Daemon) : Option (Daemon × Log) :=
  match d.activity with
  | .pausing _ request => if d.cancelled then some (d.follow (Next.cancelled request)) else none
  | .waiting =>
    if d.cancelled then some (d.follow (.finished .cancelled))
    else if d.trigger.pending then some (d.wake, [])
    else none
  | .asking _ | .ended => none

def hasEnded (d : Daemon) : Bool := d.activity matches .ended

end Daemon
end BlocklistSync
