import BlocklistSync.Engine.Session
import BlocklistSync.Proofs.Engine.Course

/-! Sessions are courses. What a world answers to a request of the engine is one of the events that
can happen then, so a cycle of a session leads to nowhere that a course does not lead to. -/
namespace BlocklistSync

namespace MemoryStore

variable {α : Type} (s : MemoryStore) (answer : α)

theorem call_reply : (s.call answer).2 = .ok answer ∨ ∃ f, (s.call answer).2 = .error f := by
  unfold call
  dsimp only
  split
  · exact .inl rfl
  · exact .inr ⟨_, rfl⟩

@[simp] theorem entries_call : (s.call answer).1.entries = s.entries := by
  unfold call
  dsimp only
  split <;> rfl

end MemoryStore

namespace World

/-- What the store that the engine asks would answer; a store in a file answers from the file. -/
def shown? (w : World) : Option Snapshot :=
  match w.backend with
  | .memory => some ⟨w.memory.fingerprint, w.memory.listed⟩
  | .standIn => some ⟨w.standInStore.fingerprint, w.standInStore.entries⟩
  | .database => none

variable {w : World} {s : Snapshot}

theorem fetchFingerprint_reply (h : w.shown? = some s) :
    w.fetchFingerprint.2 = .ok s.fingerprint ∨ ∃ f, w.fetchFingerprint.2 = .error f := by
  unfold shown? at h
  unfold fetchFingerprint
  cases hb : w.backend with
  | memory =>
    rw [hb] at h
    obtain rfl := Option.some.inj h
    exact w.memory.call_reply _
  | standIn =>
    rw [hb] at h
    obtain rfl := Option.some.inj h
    simp only [StandInStore.fetchFingerprint]
    split
    · exact .inl rfl
    · exact .inr ⟨_, rfl⟩
  | database => simp [hb] at h

theorem fetchEntries_reply (h : w.shown? = some s) :
    w.fetchEntries.2 = .ok s.entries ∨ ∃ f, w.fetchEntries.2 = .error f := by
  unfold shown? at h
  unfold fetchEntries
  cases hb : w.backend with
  | memory =>
    rw [hb] at h
    obtain rfl := Option.some.inj h
    exact w.memory.call_reply _
  | standIn =>
    rw [hb] at h
    obtain rfl := Option.some.inj h
    simp only [StandInStore.fetchEntries]
    split
    · exact .inl rfl
    · exact .inr ⟨_, rfl⟩
  | database => simp [hb] at h

theorem shown?_perform (w : World) (paths : MapPaths) (request : Request) :
    (w.perform paths request).world.shown? = w.shown? := by
  cases request with
  | connect =>
    cases hb : w.backend <;> simp only [perform, connect, hb, shown?]
    · simp [MemoryStore.connect, MemoryStore.fingerprint, MemoryStore.listed]
    · unfold StandInStore.connect
      dsimp only
      split <;> rfl
  | fingerprint =>
    cases hb : w.backend <;> simp only [perform, fetchFingerprint, hb, shown?]
    · simp [MemoryStore.fetchFingerprint, MemoryStore.fingerprint, MemoryStore.listed]
    · unfold StandInStore.fetchFingerprint
      dsimp only
      split <;> rfl
  | entries =>
    cases hb : w.backend <;> simp only [perform, fetchEntries, hb, shown?]
    · simp [MemoryStore.fetchEntries, MemoryStore.fingerprint, MemoryStore.listed]
    · unfold StandInStore.fetchEntries
      dsimp only
      split <;> rfl
  | write => rfl
  | probe =>
    simp only [perform, probe]
    split <;> rfl
  | apply | reapply =>
    simp only [perform, apply]
    split <;> rfl

/-- Without programs of the mail server only a write changes files. -/
theorem tree_perform (h : w.commands = none) (paths : MapPaths) (request : Request) :
    (w.perform paths request).world.tree = match request with
      | .write _ entries => (MapWriter.write w.tree paths (compile entries)).tree
      | _ => w.tree := by
  cases request with
  | connect => cases hb : w.backend <;> simp only [perform, connect, hb]
  | fingerprint => cases hb : w.backend <;> simp only [perform, fetchFingerprint, hb]
  | entries => cases hb : w.backend <;> simp only [perform, fetchEntries, hb]
  | write => rfl
  | probe => simp only [perform, probe, h]
  | apply | reapply => simp only [perform, apply, h]

theorem commands_perform (w : World) (paths : MapPaths) (request : Request) :
    (w.perform paths request).world.commands = w.commands := by
  cases request with
  | connect => cases hb : w.backend <;> simp only [perform, connect, hb]
  | fingerprint => cases hb : w.backend <;> simp only [perform, fetchFingerprint, hb]
  | entries => cases hb : w.backend <;> simp only [perform, fetchEntries, hb]
  | write => rfl
  | probe =>
    simp only [perform, probe]
    split <;> simp_all
  | apply | reapply =>
    simp only [perform, apply]
    split <;> simp_all

end World

namespace Session
open Course

/-- The session is where the course is, in a world whose mail server touches no files. -/
structure Follows (h : History) (s : Session) (c : Course) : Prop where
  engine : s.engine = c.engine
  tree : s.world.tree = c.tree
  shown : s.world.shown? = some (h c.moment)
  commands : s.world.commands = none

variable {h : History} {s : Session} {c : Course} {request : Request}

theorem Follows.asked (hf : s.Follows h c) {c' : Course}
    (he : c'.engine =
    (c.engine.receive request (s.world.perform s.engine.paths request).reply).engine)
    (ht : c'.tree = (s.world.perform s.engine.paths request).world.tree)
    (hm : c'.moment = c.moment) :
    (s.ask request).1.Follows h c' where
  engine := by rw [he, ← hf.engine]; rfl
  tree := ht.symm
  shown := (World.shown?_perform ..).trans (hm ▸ hf.shown)
  commands := (World.commands_perform ..).trans hf.commands

theorem Follows.ask (hf : s.Follows h c) (hn : c.next = .ask request) :
    ∃ e c', c.act? h e = some c' ∧ isAlone c e c' ∧ (s.ask request).1.Follows h c' ∧
      c'.next = (s.ask request).2 := by
  have htree := World.tree_perform hf.commands s.engine.paths request
  have hnext : (s.ask request).2 =
      (c.engine.receive request (s.world.perform s.engine.paths request).reply).next := by
    rw [← hf.engine]; rfl
  rw [hf.tree] at htree
  -- The store answers as its snapshot says or refuses, and for either there is an event.
  cases request with
  | connect =>
    rcases hr : (s.world.perform s.engine.paths .connect).reply with f | ⟨⟩
    · have hact : c.act? h (.refuse f) = some (c.receive .connect (.error f)) := by
        simp only [act?, hn]
      exact ⟨_, _, hact, rfl, hf.asked (by rw [hr]; rfl) htree.symm rfl, by rw [hnext, hr]; rfl⟩
    · have hact : c.act? h .serve = some (c.receive .connect (.ok ())) := by simp only [act?, hn]
      exact ⟨_, _, hact, rfl, hf.asked (by rw [hr]; rfl) htree.symm rfl, by rw [hnext, hr]; rfl⟩
  | fingerprint reason =>
    rcases World.fetchFingerprint_reply hf.shown with hr | ⟨f, hr⟩
    · have hreply : (s.world.perform s.engine.paths (.fingerprint reason)).reply =
          .ok (h c.moment).fingerprint := hr
      have hact : c.act? h .serve =
        some { c.receive (.fingerprint reason) (.ok (h c.moment).fingerprint) with
          origin := { c.origin with compared := c.moment } } := by simp only [act?, hn]
      exact ⟨_, _, hact, rfl, hf.asked (by rw [hreply]; rfl) htree.symm rfl,
        by rw [hnext, hreply]; rfl⟩
    · have hreply : (s.world.perform s.engine.paths (.fingerprint reason)).reply = .error f := hr
      have hact : c.act? h (.refuse f) = some (c.receive (.fingerprint reason) (.error f)) := by
        simp only [act?, hn]
      exact ⟨_, _, hact, rfl, hf.asked (by rw [hreply]; rfl) htree.symm rfl,
        by rw [hnext, hreply]; rfl⟩
  | entries found =>
    rcases World.fetchEntries_reply hf.shown with hr | ⟨f, hr⟩
    · have hreply : (s.world.perform s.engine.paths (.entries found)).reply =
          .ok (h c.moment).entries := hr
      have hact : c.act? h .serve =
        some { c.receive (.entries found) (.ok (h c.moment).entries) with
          origin := { c.origin with fetched := c.moment } } := by simp only [act?, hn]
      exact ⟨_, _, hact, rfl, hf.asked (by rw [hreply]; rfl) htree.symm rfl,
        by rw [hnext, hreply]; rfl⟩
    · have hreply : (s.world.perform s.engine.paths (.entries found)).reply = .error f := hr
      have hact : c.act? h (.refuse f) = some (c.receive (.entries found) (.error f)) := by
        simp only [act?, hn]
      exact ⟨_, _, hact, rfl, hf.asked (by rw [hreply]; rfl) htree.symm rfl,
        by rw [hnext, hreply]; rfl⟩
  | probe =>
    have hact : c.act? h (.probe (s.world.perform s.engine.paths .probe).reply) =
        some (c.receive .probe (s.world.perform s.engine.paths .probe).reply) := by
          simp only [act?, hn]
    exact ⟨_, _, hact, rfl, hf.asked rfl htree.symm rfl, hnext.symm⟩
  | write found entries =>
    have hreply : (s.world.perform s.engine.paths (.write found entries)).reply =
        (MapWriter.write c.tree c.engine.paths (compile entries)).result := by
          rw [← hf.engine, ← hf.tree]; rfl
    have hact : c.act? h (.write MapWriter.noFaults) =
        some (c.write MapWriter.noFaults found entries) := by
      simp only [act?, hn]
    refine ⟨_, _, hact, rfl, hf.asked ?_ ?_ rfl, ?_⟩
    · rw [hreply]; rfl
    · rw [htree, hf.engine]; rfl
    · rw [hnext, hreply]; rfl
  | apply found total written =>
    have hact :
      c.act? h (.apply (s.world.perform s.engine.paths (.apply found total written)).reply) =
        some { c.receive (.apply found total written)
            (s.world.perform s.engine.paths (.apply found total written)).reply with
          applied := some c.origin } := by
      simp only [act?, hn]
    exact ⟨_, _, hact, rfl, hf.asked rfl htree.symm rfl, hnext.symm⟩
  | reapply =>
    have hact : c.act? h (.apply (s.world.perform s.engine.paths .reapply).reply) =
        some (c.receive .reapply (s.world.perform s.engine.paths .reapply).reply) := by
          simp only [act?, hn]
    exact ⟨_, _, hact, rfl, hf.asked rfl htree.symm rfl, hnext.symm⟩

variable [Timer]

theorem Follows.pause (hf : s.Follows h c) {delay : Duration} (hn : c.next = .pause delay request)
    (cancelAt : Option ℕ) :
    ∃ e c', c.act? h e = some c' ∧ isAlone c e c' ∧
      (s.pause cancelAt delay request).1.Follows h c' ∧
      c'.next = (s.pause cancelAt delay request).2 := by
  have hgiveUp : c.act? h .giveUp = some { c with next := .cancelled request } := by
    simp only [act?, hn]
  have hresume : c.act? h .resume = some { c with next := .ask request } := by simp only [act?, hn]
  unfold Session.pause
  dsimp only
  split
  · exact ⟨_, _, hgiveUp, rfl, ⟨hf.engine, hf.tree, hf.shown, hf.commands⟩, rfl⟩
  · exact ⟨_, _, hresume, rfl, ⟨hf.engine, hf.tree, hf.shown, hf.commands⟩, rfl⟩

theorem Follows.pursue (hf : s.Follows h c) (cancelAt : Option ℕ) (fuel : ℕ) :
    ∃ c', Reachable h (isAlone · · ·) c c' ∧
      (Session.pursue cancelAt fuel s c.next).1.Follows h c' ∧
      c'.next = (Session.pursue cancelAt fuel s c.next).2 := by
  induction fuel generalizing s c with
  | zero => exact ⟨c, .start, hf, rfl⟩
  | succ fuel ih =>
    cases hn : c.next with
    | ask request =>
      obtain ⟨e, c₁, hact, halone, hf₁, hn₁⟩ := hf.ask hn
      obtain ⟨c', hreach, hf', hn'⟩ := ih hf₁
      rw [hn₁] at hf' hn'
      exact ⟨c', (Reachable.start.step hact halone).trans hreach, hf', hn'⟩
    | pause delay request =>
      obtain ⟨e, c₁, hact, halone, hf₁, hn₁⟩ := hf.pause hn cancelAt
      obtain ⟨c', hreach, hf', hn'⟩ := ih hf₁
      rw [hn₁] at hf' hn'
      exact ⟨c', (Reachable.start.step hact halone).trans hreach, hf', hn'⟩
    | started connected => exact ⟨c, .start, hf, hn⟩
    | finished outcome => exact ⟨c, .start, hf, hn⟩

theorem Follows.cycle (hf : s.Follows h c) (hidle : c.next.isIdle) (reason : WakeReason)
    (cancelAt : Option ℕ) :
    ∃ c', Reachable h (isAlone · · ·) c c' ∧ (s.cycle reason cancelAt).1.Follows h c' ∧
      c'.next = (s.cycle reason cancelAt).2 := by
  have hact : c.act? h (.cycle reason) =
      some { c with engine := c.engine.beginCycle, next := .ask (.fingerprint reason) } := by
    simp only [act?, hidle, if_true]
  have hbegun : ({ s with engine := s.engine.beginCycle } : Session).Follows h
      { c with engine := c.engine.beginCycle, next := .ask (.fingerprint reason) } :=
    ⟨by rw [hf.engine], hf.tree, hf.shown, hf.commands⟩
  obtain ⟨c', hreach, hf', hn'⟩ := hbegun.pursue cancelAt (s.fuel cancelAt)
  exact ⟨c', (Reachable.start.step hact rfl).trans hreach, hf', hn'⟩

end Session
end BlocklistSync
