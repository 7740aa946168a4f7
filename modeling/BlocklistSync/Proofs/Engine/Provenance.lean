import BlocklistSync.Proofs.Engine.Course

/-! Where the maps on disk come from: an invariant of every course in which nobody else touches
them. For each map that the engine has put in place it tells the moment of its entries, and what the
engine knows when it makes a request or ends a cycle, in terms of these moments. -/
namespace BlocklistSync
open MapWriter

namespace Engine

theorem compareFingerprint_engine (e : Engine) (reason : WakeReason) (found : Fingerprint) :
    (e.compareFingerprint reason found).engine.paths = e.paths ∧
      (e.compareFingerprint reason found).engine.lastApplied = e.lastApplied := by
  unfold compareFingerprint
  split
  · split <;> exact ⟨rfl, rfl⟩
  · exact ⟨rfl, rfl⟩

theorem compareFingerprint_next (e : Engine) (reason : WakeReason) (found : Fingerprint) :
    (e.lastApplied = some found ∧ ((e.compareFingerprint reason found).next = .ask .reapply ∨
      (e.compareFingerprint reason found).next = .finished .unchanged)) ∨
    (e.compareFingerprint reason found).next = .ask (.entries found) := by
  unfold compareFingerprint
  split
  · next h => split <;> simp [h]
  · exact .inr rfl

theorem prepare_engine (e : Engine) (found : Fingerprint) (entries : List Entry) :
    (e.prepare found entries).engine.paths = e.paths ∧
      (e.prepare found entries).engine.lastApplied = e.lastApplied := by
  unfold prepare
  dsimp only
  split <;> exact ⟨rfl, rfl⟩

theorem prepare_next (e : Engine) (found : Fingerprint) (entries : List Entry) :
    (e.prepare found entries).next = .ask (.write found entries) := by
  unfold prepare
  dsimp only
  split <;> rfl

theorem receive_paths (e : Engine) (request : Request) (reply : request.Reply) :
    (e.receive request reply).engine.paths = e.paths := by
  cases request with
  | connect => cases reply <;> rfl
  | fingerprint reason =>
    cases reply with
    | error => rfl
    | ok found => exact (compareFingerprint_engine _ reason found).1
  | entries found =>
    cases reply with
    | error => rfl
    | ok entries => exact (prepare_engine _ found entries).1
  | write => cases reply <;> rfl
  | probe | apply | reapply => rfl

/-- Only handing over new maps changes what counts as applied. -/
theorem receive_lastApplied (e : Engine) (request : Request) (reply : request.Reply)
    (h : ∀ found total written, request ≠ .apply found total written) :
    (e.receive request reply).engine.lastApplied = e.lastApplied := by
  cases request with
  | connect => cases reply <;> rfl
  | fingerprint reason =>
    cases reply with
    | error => rfl
    | ok found => exact (compareFingerprint_engine _ reason found).2
  | entries found =>
    cases reply with
    | error => rfl
    | ok entries => exact (prepare_engine _ found entries).2
  | write => cases reply <;> rfl
  | probe | reapply => rfl
  | apply => exact absurd rfl (h _ _ _)

end Engine

namespace Course

/-- The store showed the fingerprint of the maps applied last, and no map on disk is of a later
moment. -/
def Recalls (h : History) (c : Course) : Prop :=
  ∃ o, c.applied = some o ∧ (h o.compared).fingerprint = (h c.origin.compared).fingerprint ∧
    ∀ kind m, c.source kind = some m → m ≤ c.origin.compared

/-- What holds while a request is to be made. -/
def Pending (h : History) (c : Course) : Request → Prop
  | .connect | .probe | .fingerprint _ => True
  | .entries found => found = (h c.origin.compared).fingerprint
  | .write found entries =>
    found = (h c.origin.compared).fingerprint ∧ entries = (h c.origin.fetched).entries ∧
      c.origin.compared ≤ c.origin.fetched
  | .apply found _ _ =>
    found = (h c.origin.compared).fingerprint ∧ c.origin.compared ≤ c.origin.fetched ∧
      ∀ kind, c.source kind = some c.origin.fetched
  | .reapply => c.Recalls h

def Standing (h : History) (c : Course) : Next → Prop
  | .ask request | .pause _ request => c.Pending h request
  | .finished .unchanged | .finished (.reapplied _) => c.Recalls h
  | .finished (.applied _) =>
    c.applied = some c.origin ∧ ∀ kind, c.source kind = some c.origin.fetched
  | .finished (.aborted _) | .finished .cancelled | .started _ => True

/-- The invariant, for a directory `dir` at the place `d`. -/
structure Traced (h : History) (dir : String) (d : Place) (c : Course) : Prop where
  paths : c.engine.paths = MapPaths.inDir dir
  leads : LeadsTo c.tree dir d
  files : ∀ kind m, c.source kind = some m →
    c.tree.sight? (mapPlace d kind) = some (mapFile (compile (h m).entries) kind)
  compared_le : c.origin.compared ≤ c.moment
  fetched_le : c.origin.fetched ≤ c.moment
  source_le : ∀ kind m, c.source kind = some m → m ≤ c.moment
  lastApplied : c.engine.lastApplied = c.applied.map fun o => (h o.compared).fingerprint
  applied_le : ∀ o, c.applied = some o → o.compared ≤ c.origin.compared
  applied_source : ∀ o, c.applied = some o → ∀ kind, ∃ m, c.source kind = some m ∧ o.compared ≤ m
  standing : c.Standing h c.next

variable {h : History} {dir : String} {d : Place} {c : Course}

theorem traced_new {interval : Duration} {backoff : Backoff} {t : FileTree} (hl : LeadsTo t dir d) :
    Traced h dir d (.new (MapPaths.inDir dir) interval backoff t) where
  paths := rfl
  leads := hl
  files := by simp [new]
  compared_le := Nat.le_refl _
  fetched_le := Nat.le_refl _
  source_le := by simp [new]
  lastApplied := rfl
  applied_le := by simp [new]
  applied_source := by simp [new]
  standing := trivial

namespace Traced

theorem pending (hc : Traced h dir d c) {request : Request} (hn : c.next = .ask request) :
    c.Pending h request := by
  have hs := hc.standing
  rw [hn] at hs
  exact hs

theorem storeChanges (hc : Traced h dir d c) : Traced h dir d { c with moment := c.moment + 1 } :=
  { hc with
    compared_le := Nat.le_succ_of_le hc.compared_le
    fetched_le := Nat.le_succ_of_le hc.fetched_le
    source_le := fun kind m hm => Nat.le_succ_of_le (hc.source_le kind m hm)
    standing := by
      have hs := hc.standing
      unfold Standing Pending Recalls at hs ⊢
      exact hs }

theorem filesChange (hc : Traced h dir d c) {t : FileTree}
    (hs : ∀ kind, t.sight? (mapPlace d kind) = c.tree.sight? (mapPlace d kind))
    (hl : LeadsTo t dir d) :
    Traced h dir d { c with tree := t } :=
  { hc with
    leads := hl
    files := fun kind m hm => (hs kind).trans (hc.files kind m hm)
    standing := by
      have hs := hc.standing
      unfold Standing Pending Recalls at hs ⊢
      exact hs }

theorem goOn (hc : Traced h dir d c) {e : Engine} {next : Next} (hp : e.paths = c.engine.paths)
    (hl : e.lastApplied = c.engine.lastApplied) (hn : c.Standing h next) :
    Traced h dir d { c with engine := e, next := next } :=
  { hc with
    paths := hp.trans hc.paths
    lastApplied := hl.trans hc.lastApplied
    standing := by
      unfold Standing Pending Recalls at hn ⊢
      exact hn }

theorem receive (hc : Traced h dir d c) (request : Request) (reply : request.Reply)
    (hr : ∀ found total written, request ≠ .apply found total written)
    (hn : c.Standing h (c.engine.receive request reply).next) :
    Traced h dir d (c.receive request reply) :=
  hc.goOn (Engine.receive_paths ..) (Engine.receive_lastApplied _ _ _ hr) hn

theorem compare (hc : Traced h dir d c) {reason : WakeReason}
    (hn : c.next = .ask (.fingerprint reason)) :
    Traced h dir d { c with origin := { c.origin with compared := c.moment } } :=
  { hc with
    compared_le := Nat.le_refl _
    applied_le := fun o ho => (hc.applied_le o ho).trans hc.compared_le
    standing := by
      rw [hn]
      trivial }

/-- The fingerprint was read just now, so everything on disk is of this moment or an earlier one. -/
theorem standing_compare (hc : Traced h dir d c) (hn : c.origin.compared = c.moment)
    (reason : WakeReason) :
    c.Standing h (c.engine.receive (.fingerprint reason) (.ok (h c.moment).fingerprint)).next := by
  have hl : c.engine.served.lastApplied = c.engine.lastApplied := rfl
  have hrecalls : c.engine.lastApplied = some (h c.moment).fingerprint → c.Recalls h := by
    intro he
    rw [hc.lastApplied, Option.map_eq_some_iff] at he
    obtain ⟨o, ho, hf⟩ := he
    exact ⟨o, ho, by rw [hf, hn], fun kind m hm => hn ▸ hc.source_le kind m hm⟩
  rcases c.engine.served.compareFingerprint_next reason (h c.moment).fingerprint with
    ⟨he, hx | hx⟩ | hx
  · exact hx ▸ hrecalls (hl ▸ he)
  · exact hx ▸ hrecalls (hl ▸ he)
  · exact hx ▸ congrArg (fun m => (h m).fingerprint) hn.symm

theorem fetch (hc : Traced h dir d c) {found : Fingerprint} (hn : c.next = .ask (.entries found)) :
    Traced h dir d { c with origin := { c.origin with fetched := c.moment } } :=
  { hc with
    fetched_le := Nat.le_refl _
    standing := by
      rw [hn]
      exact hc.pending hn }

theorem standing_fetch (hc : Traced h dir d c) {found : Fingerprint}
    (hn : c.next = .ask (.entries found)) (hm : c.origin.fetched = c.moment) :
    c.Standing h (c.engine.receive (.entries found) (.ok (h c.moment).entries)).next := by
  have hx : (c.engine.receive (.entries found) (.ok (h c.moment).entries)).next =
      .ask (.write found (h c.moment).entries) := Engine.prepare_next ..
  rw [hx]
  exact ⟨hc.pending hn, by rw [hm], by rw [hm]; exact hc.compared_le⟩

theorem writeFiles (hc : Traced h dir d c) {faults : Faults} {found : Fingerprint}
    {entries : List Entry} (hn : c.next = .ask (.write found entries)) :
    Traced h dir d (c.writeFiles faults entries) := by
  obtain ⟨hfound, hentries, hle⟩ := hc.pending hn
  exact { hc with
    leads := leadsTo_writeWith hc.leads _
    files := fun kind m hm => by
      simp only [Course.writeFiles, hc.paths] at hm ⊢
      rw [sight?_mapPlace hc.leads]
      split at hm
      · next hk =>
        rw [if_pos hk, ← Option.some.inj hm, hentries]
      · next hk =>
        rw [if_neg hk]
        exact hc.files kind m hm
    source_le := fun kind m hm => by
      simp only [Course.writeFiles] at hm ⊢
      split at hm
      · exact Option.some.inj hm ▸ hc.fetched_le
      · exact hc.source_le kind m hm
    applied_source := fun o ho kind => by
      simp only [Course.writeFiles]
      split
      · exact ⟨_, rfl, (hc.applied_le o ho).trans hle⟩
      · exact hc.applied_source o ho kind
    standing := by
      have hn' : (c.writeFiles faults entries).next = .ask (.write found entries) := hn
      rw [hn']
      exact ⟨hfound, hentries, hle⟩ }

theorem standing_writeFiles (hc : Traced h dir d c) {faults : Faults} {found : Fingerprint}
    {entries : List Entry} (hn : c.next = .ask (.write found entries)) :
    (c.writeFiles faults entries).Standing h (c.write faults found entries).next := by
  rw [next_write]
  obtain ⟨hfound, -, hle⟩ := hc.pending hn
  rcases hr : (writeWith faults c.tree c.engine.paths (compile entries)).result with f | written
  · trivial
  · have hall := replacedBy_of_ok hr
    exact ⟨hfound, hle, fun kind => if_pos (hall ▸ kind.mem_all)⟩

theorem conclude (hc : Traced h dir d c) {found : Fingerprint} {total : ℕ} {written : WriteReport}
    (hn : c.next = .ask (.apply found total written)) (report : ApplyReport) :
    Traced h dir d { c.receive (.apply found total written) report with
      applied := some c.origin } := by
  obtain ⟨hfound, hle, hsource⟩ := hc.pending hn
  exact { hc with
    lastApplied := by rw [Option.map_some, ← hfound]; rfl
    applied_le := fun o ho => by rw [← Option.some.inj ho]; exact Nat.le_refl _
    applied_source := fun o ho kind => ⟨_, hsource kind, by rw [← Option.some.inj ho]; exact hle⟩
    standing := ⟨rfl, hsource⟩ }

theorem step (hc : Traced h dir d c) {e : Event} {c' : Course} (hs : Transition h c e c')
    (hu : Undisturbed dir d c e c') : Traced h dir d c' := by
  -- Only four events bear on where the maps come from: the two answers of the store, a write and a
  -- hand-over.
  cases hs with
  | storeChanges => exact hc.storeChanges
  | filesChange t => exact hc.filesChange hu.1 hu.2
  | start | cycle => exact hc.goOn rfl rfl trivial
  | resume hn =>
    have hstanding := hc.standing
    rw [hn] at hstanding
    exact hc.goOn rfl rfl hstanding
  | giveUp =>
    refine hc.goOn rfl rfl ?_
    next request _ => cases request <;> trivial
  | refuseConnect | refuseFingerprint | serveConnect | probe =>
    exact hc.receive _ _ (by simp) trivial
  | refuseEntries fault hn => exact hc.receive _ _ (by simp) (hc.pending hn)
  | serveFingerprint hn =>
    exact (hc.compare hn).receive (.fingerprint _) _ (by simp)
      ((hc.compare hn).standing_compare rfl _)
  | serveEntries hn =>
    exact (hc.fetch hn).receive (.entries _) _ (by simp) ((hc.fetch hn).standing_fetch hn rfl)
  | write faults hn =>
    exact (hc.writeFiles hn).receive (.write _ _) _ (by simp) (hc.standing_writeFiles hn)
  | apply report hn => exact hc.conclude hn report
  | reapply report hn => exact hc.receive .reapply _ (by simp) (hc.pending hn)

theorem of_reachable {start : Course} (hs : Traced h dir d start)
    (hc : Reachable h (Undisturbed dir d) start c) : Traced h dir d c := by
  induction hc with
  | start => exact hs
  | step _ hact hu ih => exact ih.step (transition_of_act? hact) hu

end Traced
end Course
end BlocklistSync
