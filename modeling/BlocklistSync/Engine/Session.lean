import BlocklistSync.World

/-! An engine at work in its world, one start or one cycle at a time. The clock moves only in the
pauses between the tries of a store call. -/
namespace BlocklistSync

structure Session where
  world : World
  engine : Engine
  now : Nat
  log : Log

namespace Session

variable [Timer]

def ask (s : Session) (request : Request) : Session × Next :=
  let done := s.world.perform s.engine.paths request
  let step := s.engine.receive request done.reply
  ({ s with world := done.world, engine := step.engine, log := s.log ++ done.log ++ step.log },
    step.next)

/-- A pause ends at once if shutdown was requested before it or is requested before it is over. A
request at the very end comes too late here, where the program takes either of the two ways. -/
def cutShort (cancelAt : Option Nat) (now wake : Nat) : Bool :=
  cancelAt.any fun c => c ≤ now || c < wake

def pause (s : Session) (cancelAt : Option Nat) (delay : Duration) (request : Request) :
    Session × Next :=
  let wake := s.now + Clock.millis delay
  if cutShort cancelAt s.now wake then
    ({ s with now := max s.now (cancelAt.getD s.now) }, Next.cancelled request)
  else ({ s with now := wake }, .ask request)

/-- Goes on until the engine has nothing more to do; `fuel` bounds the requests and pauses. -/
def pursue (cancelAt : Option Nat) : Nat → Session → Next → Session × Next
  | 0, s, next => (s, next)
  | fuel + 1, s, next =>
    match next with
    | .ask request =>
      let (s, next) := s.ask request
      pursue cancelAt fuel s next
    | .pause delay request =>
      let (s, next) := s.pause cancelAt delay request
      pursue cancelAt fuel s next
    | .started connected => (s, .started connected)
    | .finished outcome => (s, .finished outcome)

/-- Two steps for each call that is refused, be it announced or before shutdown, and those of a
cycle without any. -/
def fuel (s : Session) (cancelAt : Option Nat) : Nat :=
  2 * (s.world.outages + ((cancelAt.getD s.now) - s.now)) + 16

def start (s : Session) (cancelAt : Option Nat) : Session × Next :=
  pursue cancelAt (s.fuel cancelAt) s (.ask .connect)

def cycle (s : Session) (reason : WakeReason) (cancelAt : Option Nat) : Session × Next :=
  pursue cancelAt (s.fuel cancelAt) { s with engine := s.engine.beginCycle }
    (.ask (.fingerprint reason))

end Session
end BlocklistSync
