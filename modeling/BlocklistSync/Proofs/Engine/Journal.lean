import BlocklistSync.Proofs.Engine.Refusals
import BlocklistSync.Proofs.Engine.Sessions

/-! What a session exchanges with its world until the engine has nothing more to do. The bound on
the steps of a session plays no part as soon as it is large enough. -/
namespace BlocklistSync

namespace World

/-- Two worlds that differ in their stores at most. -/
structure Alike (w w' : World) : Prop where
  tree : w.tree = w'.tree
  commands : w.commands = w'.commands
  standInServer : w.standInServer = w'.standInServer

theorem Alike.refl (w : World) : w.Alike w := ⟨rfl, rfl, rfl⟩

theorem Alike.trans {w w' w'' : World} (h : w.Alike w') (h' : w'.Alike w'') : w.Alike w'' :=
  ⟨h.tree.trans h'.tree, h.commands.trans h'.commands, h.standInServer.trans h'.standInServer⟩

theorem Alike.symm {w w' : World} (h : w.Alike w') : w'.Alike w :=
  ⟨h.tree.symm, h.commands.symm, h.standInServer.symm⟩

/-- A store call changes nothing but the store. -/
theorem alike_perform (w : World) (paths : MapPaths) {request : Request}
    (hr : request.isStoreCall) :
    (w.perform paths request).world.Alike w := by
  cases request with
  | connect => cases hb : w.backend <;> simp only [perform, connect, hb] <;> exact ⟨rfl, rfl, rfl⟩
  | fingerprint =>
    cases hb : w.backend <;> simp only [perform, fetchFingerprint, hb] <;> exact ⟨rfl, rfl, rfl⟩
  | entries =>
    cases hb : w.backend <;> simp only [perform, fetchEntries, hb] <;> exact ⟨rfl, rfl, rfl⟩
  | probe | write | apply | reapply => cases hr

theorem Alike.perform {w w' : World} (h : w.Alike w') (paths : MapPaths) {request : Request}
    (hr : request.isStoreCall = false) :
    (w.perform paths request).reply = (w'.perform paths request).reply ∧
      (w.perform paths request).world.Alike (w'.perform paths request).world := by
  obtain ⟨ht, hc, hs⟩ := h
  cases request with
  | connect | fingerprint | entries => cases hr
  | probe =>
    simp only [World.perform, probe, ht, hc, hs]
    split <;> exact ⟨rfl, by constructor <;> simp_all⟩
  | write =>
    simp only [World.perform, write, ht]
    exact ⟨trivial, ⟨rfl, hc, hs⟩⟩
  | apply | reapply =>
    simp only [World.perform, apply, ht, hc, hs]
    split <;> exact ⟨rfl, by constructor <;> simp_all⟩

end World

namespace Session

def exchange (s : Session) (request : Request) : Exchange :=
  ⟨request, (s.world.perform s.engine.paths request).reply⟩

theorem isPause_ask (s : Session) (request : Request) :
    (s.ask request).2.isPause = (s.exchange request).refusal?.isSome := Engine.isPause_receive ..

variable [Timer]

/-- What is exchanged while a session goes on. -/
def journal (cancelAt : Option ℕ) : ℕ → Session → Next → List Exchange
  | 0, _, _ => []
  | fuel + 1, s, next =>
    match next with
    | .ask request =>
      s.exchange request :: journal cancelAt fuel (s.ask request).1 (s.ask request).2
    | .pause delay request =>
      journal cancelAt fuel (s.pause cancelAt delay request).1 (s.pause cancelAt delay request).2
    | .started _ | .finished _ => []

def startJournal (s : Session) (cancelAt : Option ℕ) : List Exchange :=
  journal cancelAt (s.fuel cancelAt) s (.ask .connect)

def cycleJournal (s : Session) (reason : WakeReason) (cancelAt : Option ℕ) : List Exchange :=
  journal cancelAt (s.fuel cancelAt) { s with engine := s.engine.beginCycle }
    (.ask (.fingerprint reason))

/-- A session gets by these exchanges to another state, where the engine is about to do something
else. -/
inductive Runs (cancelAt : Option ℕ) : Session → Next → List Exchange → Session → Next → Prop
  | still (s : Session) (next : Next) : Runs cancelAt s next [] s next
  | ask {s s' : Session} {request : Request} {xs : List Exchange} {next' : Next}
    (hr : Runs cancelAt (s.ask request).1 (s.ask request).2 xs s' next') :
    Runs cancelAt s (.ask request) (s.exchange request :: xs) s' next'
  | pause {s s' : Session} {delay : Duration} {request : Request} {xs : List Exchange}
    {next' : Next} (hr : Runs cancelAt (s.pause cancelAt delay request).1
      (s.pause cancelAt delay request).2 xs s' next') :
    Runs cancelAt s (.pause delay request) xs s' next'

variable {cancelAt : Option ℕ} {s s' : Session} {next next' : Next} {xs : List Exchange} {fuel : ℕ}

theorem pause_none (s : Session) (delay : Duration) (request : Request) :
    s.pause none delay request = ({ s with now := s.now + Clock.millis delay }, .ask request) := by
  simp [pause, cutShort]

theorem isPause_pause (s : Session) (cancelAt : Option ℕ) (delay : Duration) (request : Request) :
    (s.pause cancelAt delay request).2.isPause = false := by
  unfold pause
  dsimp only
  split
  · cases request <;> rfl
  · rfl

theorem pursue_of_isIdle (hi : next.isIdle) : pursue cancelAt fuel s next = (s, next) := by
  cases fuel with
  | zero => rfl
  | succ => cases next <;> first | rfl | cases hi

theorem journal_of_isIdle (hi : next.isIdle) : journal cancelAt fuel s next = [] := by
  cases fuel with
  | zero => rfl
  | succ => cases next <;> first | rfl | cases hi

namespace Runs

theorem trans {s₁ : Session} {next₁ : Next} {ys : List Exchange}
    (hr : Runs cancelAt s next xs s₁ next₁) (hr' : Runs cancelAt s₁ next₁ ys s' next') :
    Runs cancelAt s next (xs ++ ys) s' next' := by
  induction hr with
  | still => exact hr'
  | ask _ ih => exact .ask (ih hr')
  | pause _ ih => exact .pause (ih hr')

/-- Each request takes one step and at most one pause. -/
theorem pursue_eq (hr : Runs cancelAt s next xs s' next') (hi : next'.isIdle)
    (hf : 2 * xs.length + next.isPause.toNat ≤ fuel) :
    pursue cancelAt fuel s next = (s', next') ∧ journal cancelAt fuel s next = xs := by
  induction hr generalizing fuel with
  | still => exact ⟨pursue_of_isIdle hi, journal_of_isIdle hi⟩
  | @ask s _ request xs _ _ ih =>
    rw [List.length_cons] at hf
    obtain ⟨fuel, rfl⟩ := Nat.exists_eq_add_of_le' (by omega : 1 ≤ fuel)
    have hrest : 2 * xs.length + (s.ask request).2.isPause.toNat ≤ fuel := by
      have := (s.ask request).2.isPause.toNat_le
      omega
    exact ⟨(ih hi hrest).1, congrArg (List.cons _) (ih hi hrest).2⟩
  | @pause s _ delay request xs _ _ ih =>
    rw [Next.isPause, Bool.toNat_true] at hf
    obtain ⟨fuel, rfl⟩ := Nat.exists_eq_add_of_le' (by omega : 1 ≤ fuel)
    have hrest : 2 * xs.length + (s.pause cancelAt delay request).2.isPause.toNat ≤ fuel := by
      rw [isPause_pause, Bool.toNat_false]
      omega
    exact ih hi hrest

theorem dialogue (hr : Runs cancelAt s next xs s' next') :
    Engine.Dialogue s.engine next xs s'.engine next' := by
  induction hr with
  | still => exact .still ..
  | ask _ ih => exact .ask ih
  | @pause s _ delay request _ _ _ ih =>
    unfold Session.pause at ih
    dsimp only at ih
    split at ih
    · exact .giveUp ih
    · exact .resume ih

end Runs

theorem runs_pursue (cancelAt : Option ℕ) (fuel : ℕ) (s : Session) (next : Next) :
    Runs cancelAt s next (journal cancelAt fuel s next) (pursue cancelAt fuel s next).1
      (pursue cancelAt fuel s next).2 := by
  induction fuel generalizing s next with
  | zero => exact .still ..
  | succ fuel ih =>
    cases next with
    | ask request => exact .ask (ih ..)
    | pause delay request => exact .pause (ih ..)
    | started | finished => exact .still ..

theorem runs_cycle (s : Session) (reason : WakeReason) (cancelAt : Option ℕ) :
    Runs cancelAt { s with engine := s.engine.beginCycle } (.ask (.fingerprint reason))
      (s.cycleJournal reason cancelAt)
      (s.cycle reason cancelAt).1 (s.cycle reason cancelAt).2 := runs_pursue ..

/-- A cycle of a session that has come to rest is one of those that a cycle can be. -/
theorem cycleEnds {reason : WakeReason} (hi : (s.cycle reason cancelAt).2.isIdle) :
    ∃ o, (s.cycle reason cancelAt).2 = .finished o ∧
      s.engine.CycleEnds reason (s.cycleJournal reason cancelAt)
        (s.cycle reason cancelAt).1.engine o :=
  (s.runs_cycle reason cancelAt).dialogue.cycleEnds hi

end Session
end BlocklistSync
