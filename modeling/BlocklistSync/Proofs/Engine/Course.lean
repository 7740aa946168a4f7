import BlocklistSync.Engine.Basic
import BlocklistSync.Store.Memory
import BlocklistSync.Proofs.Maps.InDirectory

/-! The engine amid a store that changes, files that others change, and a mail server and a file
system that may fail. A course is what has come of any order of such events, down to the single
requests of the engine, so that the store may change between two requests of one cycle. -/
namespace BlocklistSync

/-- What a store holds at one moment: the fingerprint that it shows, and its entries. -/
structure Snapshot where
  fingerprint : Fingerprint
  entries : List Entry
  deriving DecidableEq

/-- The fingerprint that a store counts and renders from its entries. -/
def Snapshot.ofEntries (entries : List Entry) : Snapshot :=
  ⟨⟨entries.length, (MemoryStore.newest entries).map (·.toText)⟩, entries⟩

/-- What the store holds before its first change, after it, after the second, and so on. -/
abbrev History := ℕ → Snapshot

/-- The moments at which a cycle was told the fingerprint and the entries. -/
structure Origin where
  compared : ℕ
  fetched : ℕ
  deriving DecidableEq

structure Course where
  engine : Engine
  /-- What the engine is about to do; nothing while no start and no cycle is under way. -/
  next : Next
  tree : FileTree
  /-- How often the store has changed. -/
  moment : ℕ
  /-- Of the last cycle that was begun. -/
  origin : Origin
  /-- Of the last cycle that applied its maps. -/
  applied : Option Origin
  /-- For each map that the engine has put in place, when the entries were fetched that it was made
  of. -/
  source : MapKind → Option ℕ

inductive Event
  | storeChanges
  | filesChange (tree : FileTree)
  | start
  | cycle (reason : WakeReason)
  | resume
  /-- Shutdown is requested during a pause. -/
  | giveUp
  | refuse (fault : Fault)
  | serve
  | probe (supported : Bool)
  | write (faults : MapWriter.Faults)
  | apply (report : ApplyReport)

def Next.isIdle : Next → Bool
  | .started _ | .finished _ => true
  | .ask _ | .pause _ _ => false

namespace Course

def new (paths : MapPaths) (interval : Duration) (backoff : Backoff) (tree : FileTree) : Course :=
  ⟨.new paths interval backoff, .started false, tree, 0, ⟨0, 0⟩, none, fun _ => none⟩

def receive (c : Course) (request : Request) (reply : request.Reply) : Course :=
  let step := c.engine.receive request reply
  { c with engine := step.engine, next := step.next }

/-- The files after a write, and where those in place come from. -/
def writeFiles (c : Course) (faults : MapWriter.Faults) (entries : List Entry) : Course :=
  let kinds := MapWriter.replacedBy faults c.tree c.engine.paths (compile entries)
  { c with
    tree := (MapWriter.writeWith faults c.tree c.engine.paths (compile entries)).tree
    source := fun kind => if kind ∈ kinds then some c.origin.fetched else c.source kind }

def write (c : Course) (faults : MapWriter.Faults) (found : Fingerprint) (entries : List Entry) :
    Course :=
  (c.writeFiles faults entries).receive (.write found entries)
    (MapWriter.writeWith faults c.tree c.engine.paths (compile entries)).result

theorem next_write (c : Course) (faults : MapWriter.Faults) (found : Fingerprint)
    (entries : List Entry) :
    (c.write faults found entries).next = (c.engine.receive (.write found entries)
      (MapWriter.writeWith faults c.tree c.engine.paths (compile entries)).result).next := rfl

/-- What comes of an event; none if it cannot happen now. -/
def act? (h : History) (c : Course) : Event → Option Course
  | .storeChanges => some { c with moment := c.moment + 1 }
  | .filesChange tree => some { c with tree := tree }
  | .start => if c.next.isIdle then some { c with next := .ask .connect } else none
  | .cycle reason =>
    if c.next.isIdle then
      some { c with engine := c.engine.beginCycle, next := .ask (.fingerprint reason) }
    else none
  | .resume =>
    match c.next with
    | .pause _ request => some { c with next := .ask request }
    | _ => none
  | .giveUp =>
    match c.next with
    | .pause _ request => some { c with next := .cancelled request }
    | _ => none
  | .refuse fault =>
    match c.next with
    | .ask .connect => some (c.receive .connect (.error fault))
    | .ask (.fingerprint reason) => some (c.receive (.fingerprint reason) (.error fault))
    | .ask (.entries found) => some (c.receive (.entries found) (.error fault))
    | _ => none
  | .serve =>
    match c.next with
    | .ask .connect => some (c.receive .connect (.ok ()))
    | .ask (.fingerprint reason) =>
      some { c.receive (.fingerprint reason) (.ok (h c.moment).fingerprint) with
        origin := { c.origin with compared := c.moment } }
    | .ask (.entries found) =>
      some { c.receive (.entries found) (.ok (h c.moment).entries) with
        origin := { c.origin with fetched := c.moment } }
    | _ => none
  | .probe supported =>
    match c.next with
    | .ask .probe => some (c.receive .probe supported)
    | _ => none
  | .write faults =>
    match c.next with
    | .ask (.write found entries) => some (c.write faults found entries)
    | _ => none
  | .apply report =>
    match c.next with
    | .ask (.apply found total written) =>
      some { c.receive (.apply found total written) report with applied := some c.origin }
    | .ask .reapply => some (c.receive .reapply report)
    | _ => none

/-- All that an event can bring about, case by case. -/
inductive Transition (h : History) (c : Course) : Event → Course → Prop
  | storeChanges : Transition h c .storeChanges { c with moment := c.moment + 1 }
  | filesChange (tree : FileTree) : Transition h c (.filesChange tree) { c with tree := tree }
  | start (hidle : c.next.isIdle) : Transition h c .start { c with next := .ask .connect }
  | cycle (reason : WakeReason) (hidle : c.next.isIdle) :
    Transition h c (.cycle reason)
      { c with engine := c.engine.beginCycle, next := .ask (.fingerprint reason) }
  | resume {delay : Duration} {request : Request} (hn : c.next = .pause delay request) :
    Transition h c .resume { c with next := .ask request }
  | giveUp {delay : Duration} {request : Request} (hn : c.next = .pause delay request) :
    Transition h c .giveUp { c with next := .cancelled request }
  | refuseConnect (fault : Fault) (hn : c.next = .ask .connect) :
    Transition h c (.refuse fault) (c.receive .connect (.error fault))
  | refuseFingerprint (fault : Fault) {reason : WakeReason}
    (hn : c.next = .ask (.fingerprint reason)) :
    Transition h c (.refuse fault) (c.receive (.fingerprint reason) (.error fault))
  | refuseEntries (fault : Fault) {found : Fingerprint} (hn : c.next = .ask (.entries found)) :
    Transition h c (.refuse fault) (c.receive (.entries found) (.error fault))
  | serveConnect (hn : c.next = .ask .connect) : Transition h c .serve (c.receive .connect (.ok ()))
  | serveFingerprint {reason : WakeReason} (hn : c.next = .ask (.fingerprint reason)) :
    Transition h c .serve { c.receive (.fingerprint reason) (.ok (h c.moment).fingerprint) with
      origin := { c.origin with compared := c.moment } }
  | serveEntries {found : Fingerprint} (hn : c.next = .ask (.entries found)) :
    Transition h c .serve { c.receive (.entries found) (.ok (h c.moment).entries) with
      origin := { c.origin with fetched := c.moment } }
  | probe (supported : Bool) (hn : c.next = .ask .probe) :
    Transition h c (.probe supported) (c.receive .probe supported)
  | write (faults : MapWriter.Faults) {found : Fingerprint} {entries : List Entry}
    (hn : c.next = .ask (.write found entries)) :
    Transition h c (.write faults) (c.write faults found entries)
  | apply (report : ApplyReport) {found : Fingerprint} {total : ℕ} {written : WriteReport}
    (hn : c.next = .ask (.apply found total written)) :
    Transition h c (.apply report)
      { c.receive (.apply found total written) report with applied := some c.origin }
  | reapply (report : ApplyReport) (hn : c.next = .ask .reapply) :
    Transition h c (.apply report) (c.receive .reapply report)

theorem transition_of_act? {h : History} {c c' : Course} {e : Event} (ha : c.act? h e = some c') :
    Transition h c e c' := by
  unfold act? at ha
  split at ha
  · exact Option.some.inj ha ▸ .storeChanges
  · exact Option.some.inj ha ▸ .filesChange _
  · split at ha
    · next hidle => exact Option.some.inj ha ▸ .start hidle
    · cases ha
  · split at ha
    · next hidle => exact Option.some.inj ha ▸ .cycle _ hidle
    · cases ha
  · split at ha
    · next hn => exact Option.some.inj ha ▸ .resume hn
    · cases ha
  · split at ha
    · next hn => exact Option.some.inj ha ▸ .giveUp hn
    · cases ha
  · split at ha
    · next hn => exact Option.some.inj ha ▸ .refuseConnect _ hn
    · next hn => exact Option.some.inj ha ▸ .refuseFingerprint _ hn
    · next hn => exact Option.some.inj ha ▸ .refuseEntries _ hn
    · cases ha
  · split at ha
    · next hn => exact Option.some.inj ha ▸ .serveConnect hn
    · next hn => exact Option.some.inj ha ▸ .serveFingerprint hn
    · next hn => exact Option.some.inj ha ▸ .serveEntries hn
    · cases ha
  · split at ha
    · next hn => exact Option.some.inj ha ▸ .probe _ hn
    · cases ha
  · split at ha
    · next hn => exact Option.some.inj ha ▸ .write _ hn
    · cases ha
  · split at ha
    · next hn => exact Option.some.inj ha ▸ .apply _ hn
    · next hn => exact Option.some.inj ha ▸ .reapply _ hn
    · cases ha

/-- What others may do in a course, as a relation of two states and the event between them. -/
abbrev Promise := Course → Event → Course → Prop

/-- What comes of a course by events that keep a promise. -/
inductive Reachable (h : History) (promise : Promise) (start : Course) : Course → Prop
  | start : Reachable h promise start start
  | step {c c' : Course} {e : Event} : Reachable h promise start c → c.act? h e = some c' →
      promise c e c' → Reachable h promise start c'

theorem Reachable.mono {h : History} {promise promise' : Promise} {start c : Course}
    (hp : ∀ c e c', promise c e c' → promise' c e c') (hc : Reachable h promise start c) :
    Reachable h promise' start c := by
  induction hc with
  | start => exact .start
  | step _ hact hpromise ih => exact .step ih hact (hp _ _ _ hpromise)

theorem Reachable.trans {h : History} {promise : Promise} {a b c : Course}
    (hab : Reachable h promise a b) (hbc : Reachable h promise b c) : Reachable h promise a c := by
  induction hbc with
  | start => exact hab
  | step _ hact hpromise ih => exact .step ih hact hpromise

/-- Nobody else touches the map files of the directory, nor makes its path lead to another one. -/
def Undisturbed (dir : String) (d : Place) (c : Course) : Event → Course → Prop
  | .filesChange tree, _ =>
    (∀ kind, tree.sight? (mapPlace d kind) = c.tree.sight? (mapPlace d kind)) ∧ LeadsTo tree dir d
  | _, _ => True

/-- The course of a list of events, as long as each can happen and passes the test. -/
def run? (h : History) (test : Course → Event → Course → Bool) : List Event → Course → Option Course
  | [], c => some c
  | e :: events, c =>
    match c.act? h e with
    | some c' => if test c e c' then run? h test events c' else none
    | none => none

theorem reachable_of_run? {h : History} {test : Course → Event → Course → Bool} {promise : Promise}
    (hp : ∀ c e c', test c e c' → promise c e c') {start c c' : Course}
    (hc : Reachable h promise start c) {events : List Event} (hr : run? h test events c = some c') :
    Reachable h promise start c' := by
  induction events generalizing c with
  | nil =>
    obtain rfl := Option.some.inj hr
    exact hc
  | cons e events ih =>
    rw [run?] at hr
    split at hr
    · next c₁ hact =>
      split at hr
      · next htest => exact ih (.step hc hact (hp _ _ _ htest)) hr
      · simp at hr
    · simp at hr

theorem exists_reachable_of_run? {h : History} {test : Course → Event → Course → Bool}
    {promise : Promise} (hp : ∀ c e c', test c e c' → promise c e c') {start : Course}
    {events : List Event} {p : Course → Prop} [DecidablePred p]
    (hr : (run? h test events start).any (p ·) = true) :
    ∃ c, Reachable h promise start c ∧ p c := by
  obtain ⟨c, hrun, hc⟩ := (Option.any_eq_true ..).mp hr
  exact ⟨c, reachable_of_run? hp .start hrun, of_decide_eq_true hc⟩

section Scene

def emptyDirectory : FileTree := ⟨[(["maps"], .directory)], [], []⟩

def firstCourse : Course :=
  .new (.inDir "maps") (.ofSeconds 60) (.new (.ofSeconds 1) (.ofSeconds 30)) emptyDirectory

theorem emptyDirectory_leadsTo : LeadsTo emptyDirectory "maps" ["maps"] := by
  have hd : emptyDirectory.directory? "maps" = some ["maps"] := by decide +kernel
  intro p hp
  exact (Option.some.inj (hd.symm.trans hp)).symm

def isAlone (_ : Course) : Event → Course → Bool
  | .filesChange _, _ => false
  | _, _ => true

/-- Nor is a write aborted. -/
def isSmooth (c : Course) (e : Event) (c' : Course) : Bool :=
  isAlone c e c' && !(c'.next matches .finished (.aborted _))

theorem undisturbed_of_isAlone {dir : String} {d : Place} {c c' : Course} {e : Event}
    (h : isAlone c e c') :
    Undisturbed dir d c e c' := by
  cases e with
  | filesChange => cases h
  | _ => trivial

theorem not_aborted_of_isSmooth {c c' : Course} {e : Event} (h : isSmooth c e c') (f : Fault) :
    c'.next ≠ .finished (.aborted f) := by
  intro hn
  simp [isSmooth, hn] at h

end Scene

end Course
end BlocklistSync
