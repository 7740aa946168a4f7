import BlocklistSync.Engine.Daemon
import BlocklistSync.World

/-! The daemon on its host: the world that it works on and the clock that it waits by. -/
namespace BlocklistSync

structure Host where
  world : World
  daemon : Daemon
  /-- In milliseconds. -/
  now : Nat
  /-- When the daemon's present activity began. -/
  since : Nat
  log : Log

namespace Host

variable [Timer]

def start (w : World) (e : Engine) : Host := ⟨w, Daemon.start e, 0, 0, []⟩

def put (h : Host) (d : Daemon) (log : Log) : Host :=
  { h with daemon := d, since := h.now, log := h.log ++ log }

def deadline? (h : Host) : Option Nat :=
  h.daemon.timeout?.map fun d => h.since + Clock.millis d

/-- The next thing that the daemon does, if there is any up to `time`. -/
def act? (h : Host) (time : Nat) : Option Host :=
  match h.daemon.activity with
  | .asking request =>
    let done := h.world.perform h.daemon.engine.paths request
    let (d, log) := h.daemon.receive request done.reply
    some ({ h with world := done.world }.put d (done.log ++ log))
  | _ =>
    match h.daemon.stir?, h.deadline? with
    | some (d, log), _ => some (h.put d log)
    | none, some deadline =>
      if deadline ≤ time then some ({ h with now := deadline }.put h.daemon.elapse []) else none
    | none, none => none

/-- All that the daemon does up to `time`; `fuel` bounds the number of things. -/
def run (time : Nat) : Nat → Host → Host
  | 0, h => h
  | fuel + 1, h =>
    match h.act? time with
    | some h => run time fuel h
    | none => h

/-- A cycle takes seven steps and at least one millisecond, a call that is refused two. -/
def fuel (h : Host) (time : Nat) : Nat := 8 * (time - h.now) + 2 * h.world.outages + 32

def passUntil (h : Host) (time : Nat) : Host :=
  let h := run time (h.fuel time) h
  { h with now := max h.now time }

def notify (h : Host) : Host := { h with daemon := h.daemon.notify }

def cancel (h : Host) : Host := { h with daemon := h.daemon.cancel }

end Host
end BlocklistSync
