import BlocklistSync.Fault
import BlocklistSync.Store.Entry

/-! A blocklist held in memory. Every insertion and every change of mode moves a clock on by one
second, so that no two of them bear the same stamp; an outage can be announced for the next
calls. -/
namespace BlocklistSync

structure MemoryStore where
  entries : List Entry
  nextId : Int
  /-- Seconds since the start of 1970. -/
  clock : Nat
  /-- Calls still to be refused. -/
  outages : Nat
  /-- Calls served or refused so far. -/
  calls : Nat
  deriving Repr, DecidableEq

namespace MemoryStore

def empty : MemoryStore := ⟨[], 1, 0, 0, 0⟩

def stamp (clock : Nat) : Calendar.Moment := .ofSeconds clock 0

def insert (s : MemoryStore) (pattern : String) (isRegex testMode : Bool) : MemoryStore × Int :=
  let clock := s.clock + 1
  let e : Entry := ⟨s.nextId, pattern, isRegex, testMode, some (stamp clock)⟩
  ({ s with entries := s.entries ++ [e], nextId := s.nextId + 1, clock := clock }, s.nextId)

/-- The clock moves on even if no entry has the id. -/
def setTestMode (s : MemoryStore) (id : Int) (testMode : Bool) : MemoryStore × Bool :=
  let clock := s.clock + 1
  let change (e : Entry) : Entry :=
    if e.id = id then { e with testMode := testMode, updatedAt := some (stamp clock) } else e
  ({ s with entries := s.entries.map change, clock := clock }, s.entries.any (·.id == id))

def remove (s : MemoryStore) (id : Int) : MemoryStore × Bool :=
  ({ s with entries := s.entries.filter (·.id ≠ id) }, s.entries.any (·.id == id))

def failNext (s : MemoryStore) (n : Nat) : MemoryStore := { s with outages := n }

/-- Counts a call and refuses it while an outage lasts. -/
def call {α : Type} (s : MemoryStore) (answer : α) : MemoryStore × Result α :=
  let s := { s with calls := s.calls + 1 }
  if s.outages = 0 then (s, .ok answer)
  else ({ s with outages := s.outages - 1 }, .error (.storeUnavailable "injected outage"))

def connect (s : MemoryStore) : MemoryStore × Result Unit := s.call ()

def listed (s : MemoryStore) : List Entry := s.entries.mergeSort fun a b => a.id ≤ b.id

def fetchEntries (s : MemoryStore) : MemoryStore × Result (List Entry) := s.call s.listed

def newest (entries : List Entry) : Option Calendar.Moment :=
  (entries.filterMap (·.updatedAt)).foldl (fun best m =>
    match best with
    | none => some m
    | some b => if compare b m == .gt then some b else some m) none

def fingerprint (s : MemoryStore) : Fingerprint :=
  ⟨s.entries.length, (newest s.entries).map (·.toText)⟩

def fetchFingerprint (s : MemoryStore) : MemoryStore × Result Fingerprint := s.call s.fingerprint

end MemoryStore
end BlocklistSync
