import BlocklistSync.Fault
import BlocklistSync.Store.Entry

/-! A store whose answers are set beforehand, for trying out what depends on it. Its fingerprint and
its entries need not belong together, and each kind of call can be made to fail a number of
times. -/
namespace BlocklistSync

structure StandInStore where
  fingerprint : Fingerprint
  entries : List Entry
  /-- Calls still to be refused, kind by kind. -/
  failConnect : Nat
  failFingerprint : Nat
  failEntries : Nat
  fault : Fault
  calls : Nat
  deriving Repr, DecidableEq

namespace StandInStore

def outage : Fault := .storeUnavailable "scripted outage"

def new : StandInStore := ⟨⟨0, none⟩, [], 0, 0, 0, outage, 0⟩

def connect (s : StandInStore) : StandInStore × Result Unit :=
  let s := { s with calls := s.calls + 1 }
  if s.failConnect = 0 then (s, .ok ())
  else ({ s with failConnect := s.failConnect - 1 }, .error s.fault)

def fetchFingerprint (s : StandInStore) : StandInStore × Result Fingerprint :=
  let s := { s with calls := s.calls + 1 }
  if s.failFingerprint = 0 then (s, .ok s.fingerprint)
  else ({ s with failFingerprint := s.failFingerprint - 1 }, .error s.fault)

def fetchEntries (s : StandInStore) : StandInStore × Result (List Entry) :=
  let s := { s with calls := s.calls + 1 }
  if s.failEntries = 0 then (s, .ok s.entries)
  else ({ s with failEntries := s.failEntries - 1 }, .error s.fault)

def outages (s : StandInStore) : Nat := s.failConnect + s.failFingerprint + s.failEntries

end StandInStore
end BlocklistSync
