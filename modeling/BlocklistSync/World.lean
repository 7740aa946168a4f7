import BlocklistSync.Engine.Basic
import BlocklistSync.MailServer.Controller
import BlocklistSync.MailServer.Programs
import BlocklistSync.MailServer.StandIn
import BlocklistSync.Store.DatabaseStore
import BlocklistSync.Store.Memory
import BlocklistSync.Store.StandIn

/-! What an engine works on: the files, the blocklist in one of three stores, and the mail server or
a stand-in for it. Here the requests of the engine are carried out. -/
namespace BlocklistSync

/-- Which of the stores the engine asks. -/
inductive Backend
  | memory
  | standIn
  | database
  deriving Repr, DecidableEq

/-- The store's end of a database, and how the other end gets at the rows. -/
structure DatabaseAccess where
  store : DatabaseStore
  order : Query.RowOrder

/-- Access to a database of plain tables. -/
def DatabaseAccess.new (path : String) : DatabaseAccess := ⟨.new path, Query.byId⟩

structure World where
  tree : FileTree
  backend : Backend
  memory : MemoryStore
  standInStore : StandInStore
  database : DatabaseAccess
  /-- The programs of the mail server; without them the stand-in answers. -/
  commands : Option CommandSettings
  standInServer : StandInServer

/-- The world after a request, the reply to it, and what was logged on the way. -/
structure Performed (r : Request) where
  world : World
  reply : r.Reply
  log : Log

namespace World

def connect (w : World) : Performed .connect :=
  match w.backend with
  | .memory =>
    let (s, r) := w.memory.connect
    ⟨{ w with memory := s }, r, []⟩
  | .standIn =>
    let (s, r) := w.standInStore.connect
    ⟨{ w with standInStore := s }, r, []⟩
  | .database =>
    let (s, r) := w.database.store.connect w.tree
    ⟨{ w with database.store := s }, r, s.connectLog r⟩

def fetchFingerprint (w : World) : World × Result Fingerprint :=
  match w.backend with
  | .memory =>
    let (s, r) := w.memory.fetchFingerprint
    ({ w with memory := s }, r)
  | .standIn =>
    let (s, r) := w.standInStore.fetchFingerprint
    ({ w with standInStore := s }, r)
  | .database =>
    let (s, r) := w.database.store.fetchFingerprint w.tree
    ({ w with database.store := s }, r)

def fetchEntries (w : World) : World × Result (List Entry) :=
  match w.backend with
  | .memory =>
    let (s, r) := w.memory.fetchEntries
    ({ w with memory := s }, r)
  | .standIn =>
    let (s, r) := w.standInStore.fetchEntries
    ({ w with standInStore := s }, r)
  | .database =>
    let (s, r) := w.database.store.fetchEntriesIn w.database.order w.tree
    ({ w with database.store := s }, r)

def probe (w : World) : Performed .probe :=
  match w.commands with
  | some commands =>
    let a := Controller.probe Programs.start commands w.tree
    ⟨{ w with tree := a.state }, a.value, a.log⟩
  | none =>
    let (s, supported) := w.standInServer.probe
    ⟨{ w with standInServer := s }, supported, []⟩

def apply (w : World) (paths : MapPaths) : World × ApplyReport × Log :=
  match w.commands with
  | some commands =>
    let a := Controller.apply Programs.start commands w.tree paths
    ({ w with tree := a.state }, a.value, a.log)
  | none =>
    let (s, report) := w.standInServer.apply paths
    ({ w with standInServer := s }, report, [])

def write (w : World) (paths : MapPaths) (entries : List Entry) : World × Result WriteReport :=
  let written := MapWriter.write w.tree paths (compile entries)
  ({ w with tree := written.tree }, written.result)

/-- Carries out a request of an engine whose maps are at `paths`. -/
def perform (w : World) (paths : MapPaths) : (request : Request) → Performed request
  | .connect => w.connect
  | .probe => w.probe
  | .fingerprint _ =>
    let (w, r) := w.fetchFingerprint
    ⟨w, r, []⟩
  | .entries _ =>
    let (w, r) := w.fetchEntries
    ⟨w, r, []⟩
  | .write _ entries =>
    let (w, r) := w.write paths entries
    ⟨w, r, MapWriter.log r⟩
  | .apply _ _ _ =>
    let (w, r, log) := w.apply paths
    ⟨w, r, log⟩
  | .reapply =>
    let (w, r, log) := w.apply paths
    ⟨w, r, log⟩

/-- Calls that the stores will refuse if nothing is changed. -/
def outages (w : World) : Nat := w.memory.outages + w.standInStore.outages

end World
end BlocklistSync
