import BlocklistSync.MailServer.Report
import BlocklistSync.Maps.Writer
import BlocklistSync.Retry
import BlocklistSync.Settings.Basic
import BlocklistSync.Trigger

/-! The engine that keeps the maps in step with the blocklist. A cycle compares the fingerprint of
the blocklist with the one that was applied last and, if they differ, fetches the entries, writes
the maps and hands them to the mail server. The engine itself does nothing: it makes one request at
a time and goes on with the reply, so that anything may happen to the blocklist between two
requests. -/
namespace BlocklistSync

inductive Request
  | connect
  | probe
  | fingerprint (reason : WakeReason)
  | entries (found : Fingerprint)
  | write (found : Fingerprint) (entries : List Entry)
  | apply (found : Fingerprint) (total : Nat) (written : WriteReport)
  /-- Hands maps that are already in place to the mail server once more. -/
  | reapply
  deriving Repr, DecidableEq

abbrev Request.Reply : Request → Type
  | .connect => Result Unit
  | .probe => Bool
  | .fingerprint _ => Result Fingerprint
  | .entries _ => Result (List Entry)
  | .write _ _ => Result WriteReport
  | .apply _ _ _ => ApplyReport
  | .reapply => ApplyReport

structure ApplySummary where
  fingerprint : Fingerprint
  totalEntries : Nat
  written : WriteReport
  commandFailures : Nat
  deriving Repr, DecidableEq

/-- What came of a cycle. -/
inductive Outcome
  | unchanged
  | applied (summary : ApplySummary)
  | reapplied (commandFailures : Nat)
  | aborted (cause : Fault)
  | cancelled
  deriving Repr, DecidableEq

/-- What the engine does next: a request, at once or after a pause, or nothing more for now. -/
inductive Next
  | ask (request : Request)
  | pause (delay : Duration) (request : Request)
  | started (connected : Bool)
  | finished (outcome : Outcome)
  deriving Repr, DecidableEq

/-- What becomes of a pause before `request` when shutdown is requested during it. -/
def Next.cancelled : Request → Next
  | .connect => .started false
  | _ => .finished .cancelled

structure Engine where
  paths : MapPaths
  interval : Duration
  backoff : Backoff
  stats : Stats
  /-- The fingerprint of the maps on disk, if this engine wrote them. -/
  lastApplied : Option Fingerprint
  /-- What the mail server said when it was asked. -/
  patternSupport : Option Bool
  warnedUnenforced : Bool
  /-- A command failed when the maps were last handed over. -/
  applyPending : Bool

structure Step where
  engine : Engine
  next : Next
  log : Log

namespace Engine

def new (paths : MapPaths) (interval : Duration) (backoff : Backoff) : Engine :=
  ⟨paths, interval, backoff, {}, none, none, false, false⟩

def ofSettings (s : Settings) : Engine := .new s.mapPaths s.checkInterval s.newBackoff

def connectName : String := "Store connection"
def fingerprintName : String := "Fingerprint query"
def entriesName : String := "Entry fetch"

def preparingLine (maps : CompiledMaps) : LogLine :=
  .info .engine
    s!"Preparing maps from {maps.totalEntries} entries ({maps.patternEntries} pattern rules)"

def unenforcedLine (maps : CompiledMaps) : LogLine :=
  .warn .engine <| s!"{maps.patternEntries} pattern rule(s) will be written but not enforced: " ++
    "mail server has no pattern map support"

def abortedLine (f : Fault) : LogLine :=
  .error .engine s!"Map write failed, keeping previous maps: {f.message}"

def appliedLine (total : Nat) (found : Fingerprint) : LogLine :=
  .info .engine s!"BLOCKER_APPLY maps_updated total_entries={total} fingerprint={found.toText}"

def reapplyLine : LogLine :=
  .info .engine "Forced refresh: retrying mail server apply after earlier failure"

def refused (e : Engine) (what : String) (request : Request) (f : Fault) : Step :=
  ⟨{ e with backoff := e.backoff.failed, stats := e.stats.addStoreRetry },
    .pause e.backoff.current request, Retry.failureLog what e.backoff f⟩

def served (e : Engine) : Engine := { e with backoff := e.backoff.reset }

def servedLog (e : Engine) (what : String) : Log := Retry.successLog what e.backoff

/-- Pattern rules that the mail server will not enforce are worth one warning. -/
def warnsOf (e : Engine) (maps : CompiledMaps) : Bool :=
  e.patternSupport == some false && 0 < maps.patternEntries && !e.warnedUnenforced

def compareFingerprint (e : Engine) (reason : WakeReason) (found : Fingerprint) : Step :=
  if e.lastApplied = some found then
    if e.applyPending && reason = .notified then ⟨e, .ask .reapply, [reapplyLine]⟩
    else ⟨{ e with stats := e.stats.addUnchanged }, .finished .unchanged, []⟩
  else ⟨e, .ask (.entries found), []⟩

def prepare (e : Engine) (found : Fingerprint) (entries : List Entry) : Step :=
  let maps := compile entries
  if e.warnsOf maps then
    ⟨{ e with warnedUnenforced := true, stats := e.stats.addUnenforcedWarning },
      .ask (.write found entries), [preparingLine maps, unenforcedLine maps]⟩
  else ⟨e, .ask (.write found entries), [preparingLine maps]⟩

def abort (e : Engine) (f : Fault) : Step :=
  ⟨{ e with stats := e.stats.addCompileFailure }, .finished (.aborted f), [abortedLine f]⟩

/-- The mail server got the maps; steps of it that failed are to be repeated on request. -/
def handedOver (e : Engine) (report : ApplyReport) : Engine :=
  { e with
    stats := e.stats.addCommandFailures report.failures.toUInt64
    applyPending := 0 < report.failures }

/-- The maps on disk match the fingerprint even if a command failed. -/
def conclude (e : Engine) (found : Fingerprint) (total : Nat) (written : WriteReport)
    (report : ApplyReport) : Step :=
  let e := e.handedOver report
  ⟨{ e with lastApplied := some found, stats := e.stats.addApply },
    .finished (.applied ⟨found, total, written, report.failures⟩), [appliedLine total found]⟩

def receive (e : Engine) : (request : Request) → request.Reply → Step
  | .connect, .error f => e.refused connectName .connect f
  | .connect, .ok () => ⟨e.served, .ask .probe, e.servedLog connectName⟩
  | .probe, supported => ⟨{ e with patternSupport := some supported }, .started true, []⟩
  | .fingerprint reason, .error f => e.refused fingerprintName (.fingerprint reason) f
  | .fingerprint reason, .ok found =>
    let s := e.served.compareFingerprint reason found
    { s with log := e.servedLog fingerprintName ++ s.log }
  | .entries found, .error f => e.refused entriesName (.entries found) f
  | .entries found, .ok entries =>
    let s := e.served.prepare found entries
    { s with log := e.servedLog entriesName ++ s.log }
  | .write _ _, .error f => e.abort f
  | .write found entries, .ok written => ⟨e, .ask (.apply found entries.length written), []⟩
  | .apply found total written, report => e.conclude found total written report
  | .reapply, report => ⟨e.handedOver report, .finished (.reapplied report.failures), []⟩

/-- Counts a cycle, whose first request is for the fingerprint. -/
def beginCycle (e : Engine) : Engine := { e with stats := e.stats.addCycle }

end Engine
end BlocklistSync
