import BlocklistSync.Engine.Host
import BlocklistSync.Proofs.Engine.Cycles
import BlocklistSync.Proofs.Engine.Outages

/-! What shutdown does. It is noticed only between two tries of a store call and between two cycles,
so a cycle whose store calls are served goes through as if nothing had happened, and one that is
given up has done nothing. Without it the daemon goes on for ever. -/
namespace BlocklistSync

/-- How many requests there can be until the engine has nothing more to do, if none is refused. -/
def Next.rank : Next → ℕ
  | .ask (.fingerprint _) => 4
  | .ask (.entries _) => 3
  | .ask (.write _ _) | .ask .connect => 2
  | .ask (.apply _ _ _) | .ask .reapply | .ask .probe => 1
  | .pause _ _ | .started _ | .finished _ => 0

theorem Next.isIdle_of_rank {next : Next} (hr : next.rank = 0) (hn : next.isPause = false) :
    next.isIdle := by
  cases next with
  | ask request => cases request <;> cases hr
  | pause => cases hn
  | started | finished => rfl

namespace Exchange

variable {x : Exchange}

theorem attemptsWrite_of_isStoreCall (hx : x.request.isStoreCall) : x.attemptsWrite = false := by
  obtain ⟨request, reply⟩ := x
  cases request <;> first | rfl | cases hx

theorem report?_of_isStoreCall (hx : x.request.isStoreCall) : x.report? = none := by
  obtain ⟨request, reply⟩ := x
  cases request <;> first | rfl | cases hx

end Exchange

namespace Engine

variable {e e' : Engine} {reason : WakeReason} {xs : List Exchange}

theorem rank_receive_lt (e : Engine) {request : Request} {reply : request.Reply}
    (hs : Exchange.refusal? ⟨request, reply⟩ = none) :
    (e.receive request reply).next.rank < (Next.ask request).rank := by
  cases request with
  | connect =>
    cases reply with
    | error => cases hs
    | ok => exact Nat.lt_succ_self 1
  | fingerprint reason =>
    cases reply with
    | error => cases hs
    | ok found =>
      rcases e.served.compareFingerprint_next reason found with
        ⟨-, hn | hn⟩ | hn <;> simp [receive, hn, Next.rank]
  | entries found =>
    cases reply with
    | error => cases hs
    | ok entries => simp [receive, prepare_next, Next.rank]
  | write => cases reply <;> simp [receive, abort, Next.rank]
  | probe | apply | reapply => exact Nat.zero_lt_one

theorem receive_next_ne (e : Engine) (request : Request) (reply : request.Reply) :
    (e.receive request reply).next ≠ .started false ∧
      (e.receive request reply).next ≠ .finished .cancelled := by
  cases request with
  | connect | write => cases reply <;> simp [receive, refused, abort]
  | fingerprint reason =>
    cases reply with
    | error => simp [receive, refused]
    | ok found =>
      rcases e.served.compareFingerprint_next reason found with
        ⟨-, hn | hn⟩ | hn <;> simp [receive, hn]
  | entries found =>
    cases reply with
    | error => simp [receive, refused]
    | ok entries => simp [receive, prepare_next]
  | probe | apply | reapply => simp [receive, conclude]

/-- What the engine remembers of the maps and of the mail server is the same. -/
structure SameMemory (e e' : Engine) : Prop where
  lastApplied : e.lastApplied = e'.lastApplied
  applyPending : e.applyPending = e'.applyPending
  warnedUnenforced : e.warnedUnenforced = e'.warnedUnenforced

/-- A cycle that is given up has asked the store only, and the engine has learnt nothing from it. -/
theorem CycleEnds.of_cancelled (hc : e.CycleEnds reason xs e' .cancelled) :
    (∀ x ∈ xs, x.request.isStoreCall) ∧ e'.SameMemory e := by
  cases hc with
  | neverCompared =>
    refine ⟨fun x hx => ?_, ⟨rfl, rfl, rfl⟩⟩
    obtain ⟨f, -, rfl⟩ := List.mem_map.mp hx
    rfl
  | neverFetched =>
    refine ⟨?_, ⟨rfl, rfl, rfl⟩⟩
    simp only [comparing, inVain, List.mem_append, List.mem_map, List.mem_singleton]
    rintro x ((⟨f, -, rfl⟩ | rfl) | ⟨f, -, rfl⟩) <;> rfl

end Engine

namespace Course

variable {h : History} {c c' : Course} {ev : Event} {events : List Event} {xs : List Exchange}

/-- Only a refusal makes the engine wait, and only while it waits can it be made to give up. -/
theorem isPause_of_transition (hs : Transition h c ev c') (hb : ev.begins = false)
    (hn : c.next.isPause = false) (hx : ∀ x ∈ c.exchanged h ev, x.refusal? = none) :
    c'.next.isPause = false ∧ ev ≠ .giveUp := by
  have hreply : ∀ request reply, c.exchanged h ev = [⟨request, reply⟩] →
      (c.engine.receive request reply).next.isPause = false := by
    intro request reply heq
    rw [Engine.isPause_receive, hx _ (heq ▸ List.mem_singleton_self _), Option.isSome_none]
  cases hs with
  | storeChanges | filesChange => exact ⟨hn, by simp⟩
  | start | cycle => cases hb
  | resume hpause | giveUp hpause =>
    rw [hpause] at hn
    cases hn
  | refuseConnect _ hask | refuseFingerprint _ hask | refuseEntries _ hask | serveConnect hask
  | serveFingerprint hask
  | serveEntries hask | probe _ hask | write _ hask | apply _ hask | reapply _ hask =>
    exact ⟨hreply _ _ (by simp only [exchanged, hask, reply?]; rfl), by simp⟩

theorem not_mem_giveUp_of_trace? (ht : trace? h events c = some (xs, c'))
    (hb : ∀ ev ∈ events, ev.begins = false) (hn : c.next.isPause = false)
    (hx : ∀ x ∈ xs, x.refusal? = none) : .giveUp ∉ events := by
  induction events generalizing c xs with
  | nil => simp
  | cons ev events ih =>
    obtain ⟨c₁, rest, hact, hrest, rfl⟩ := trace?_cons ht
    obtain ⟨hn₁, hne⟩ := isPause_of_transition (transition_of_act? hact) (hb ev (by simp)) hn
      fun x hm => hx x (List.mem_append_left _ hm)
    have hlater := ih hrest (fun ev hm => hb ev (by simp [hm])) hn₁ fun x hm =>
      hx x (List.mem_append_right _ hm)
    simpa [hne.symm] using hlater

theorem eq_giveUp_of_transition (hs : Transition h c ev c') (hn : c.next ≠ .finished .cancelled)
    (hn' : c'.next = .finished .cancelled) : ev = .giveUp := by
  have hreply : ∀ request reply, c'.next ≠ (c.engine.receive request reply).next :=
    fun request reply heq =>
    (c.engine.receive_next_ne request reply).2 (heq.symm.trans hn')
  cases hs with
  | storeChanges | filesChange => exact absurd hn' hn
  | start | cycle | resume => cases hn'
  | giveUp => rfl
  | refuseConnect | refuseFingerprint | refuseEntries | serveConnect | serveFingerprint
  | serveEntries | probe | write
  | apply | reapply => exact absurd rfl (hreply _ _)

theorem mem_giveUp_of_trace? (ht : trace? h events c = some (xs, c'))
    (hn : c.next ≠ .finished .cancelled) (hn' : c'.next = .finished .cancelled) :
    .giveUp ∈ events := by
  induction events generalizing c xs with
  | nil =>
    obtain ⟨-, rfl⟩ := Prod.mk.inj (Option.some.inj ht)
    exact absurd hn' hn
  | cons ev events ih =>
    obtain ⟨c₁, rest, hact, hrest, rfl⟩ := trace?_cons ht
    by_cases hn₁ : c₁.next = .finished .cancelled
    · obtain rfl := eq_giveUp_of_transition (transition_of_act? hact) hn hn₁
      exact List.mem_cons_self ..
    · exact List.mem_cons_of_mem _ (ih hrest hn₁)

namespace Cycle

theorem not_mem_giveUp (k : Cycle h) (hx : ∀ x ∈ k.exchanges, x.refusal? = none) :
    .giveUp ∉ k.events := by
  obtain ⟨c, -, hn, ht⟩ := begun_of_trace? k.passes
  exact not_mem_giveUp_of_trace? ht k.within (by rw [hn]; rfl) hx

/-- A cycle that is given up has done nothing. -/
theorem of_cancelled (k : Cycle h) (ho : k.outcome = .cancelled) :
    .giveUp ∈ k.events ∧ (∃ x ∈ k.exchanges, x.refusal?.isSome) ∧ k.attemptsWrite = false ∧
      k.reports = [] ∧
      (k.IsAlone → k.after.tree = k.before.tree) ∧ k.after.engine.SameMemory k.before.engine := by
  have hends := ho ▸ k.cycleEnds
  obtain ⟨hstore, hengine⟩ := hends.of_cancelled
  obtain ⟨c, -, hn, ht⟩ := begun_of_trace? k.passes
  obtain ⟨f, hf⟩ := List.exists_mem_of_ne_nil _ hends.refused_of_cancelled
  obtain ⟨x, hx, hrefusal⟩ := List.mem_filterMap.mp hf
  have hwrite : k.attemptsWrite = false := List.any_eq_false.mpr fun x hx => by
    simp [Exchange.attemptsWrite_of_isStoreCall (hstore x hx)]
  have hreports : k.reports = [] := List.filterMap_eq_nil_iff.mpr fun x hx =>
    Exchange.report?_of_isStoreCall (hstore x hx)
  exact ⟨mem_giveUp_of_trace? ht (by simp [hn]) (k.ends.trans (congrArg _ ho)),
    ⟨x, hx, by rw [hrefusal]; rfl⟩, hwrite, hreports, fun ha => k.tree_after ha hwrite, hengine⟩

end Cycle

end Course

namespace Session

variable [Timer] {cancelAt : Option ℕ} {s s' : Session} {next next' : Next} {xs : List Exchange}
  {fuel : ℕ}

/-- Without a refusal a session comes to rest within a bounded number of requests. -/
theorem isIdle_pursue (hn : next.isPause = false)
    (hx : ∀ x ∈ journal cancelAt fuel s next, x.refusal? = none) (hf : next.rank ≤ fuel) :
    (pursue cancelAt fuel s next).2.isIdle ∧ (journal cancelAt fuel s next).length ≤ next.rank := by
  induction fuel generalizing s next with
  | zero => exact ⟨Next.isIdle_of_rank (Nat.le_zero.mp hf) hn, Nat.zero_le _⟩
  | succ fuel ih =>
    cases next with
    | ask request =>
      have hserved : (s.exchange request).refusal? = none := hx _ (List.mem_cons_self ..)
      have hlt : (s.ask request).2.rank < (Next.ask request).rank :=
        s.engine.rank_receive_lt hserved
      have hpause : (s.ask request).2.isPause = false := by
        rw [isPause_ask, hserved, Option.isSome_none]
      obtain ⟨hi, hle⟩ := ih hpause (fun x hm => hx x (List.mem_cons_of_mem _ hm)) (by omega)
      exact ⟨hi, by rw [journal, List.length_cons]; omega⟩
    | pause => cases hn
    | started | finished => exact ⟨rfl, Nat.zero_le _⟩

namespace Runs

theorem of_served (hr : Runs cancelAt s next xs s' next') (hn : next.isPause = false)
    (hx : ∀ x ∈ xs, x.refusal? = none) (cancelAt' : Option ℕ) :
    Runs cancelAt' s next xs s' next' := by
  induction hr with
  | still => exact .still ..
  | @ask s _ request _ _ _ ih =>
    have hserved : (s.exchange request).refusal? = none := hx _ (List.mem_cons_self ..)
    exact .ask (ih (by rw [isPause_ask, hserved, Option.isSome_none]) fun x hm =>
      hx x (List.mem_cons_of_mem _ hm))
  | pause => cases hn

theorem of_isIdle (hr : Runs cancelAt s next xs s' next') (hi : next.isIdle) :
    s' = s ∧ next' = next := by
  cases hr with
  | still => exact ⟨rfl, rfl⟩
  | ask | pause => cases hi

theorem alike (hr : Runs cancelAt s next xs s' next') (hx : ∀ x ∈ xs, x.request.isStoreCall) :
    s'.world.Alike s.world := by
  induction hr with
  | still => exact .refl _
  | @ask s _ request _ _ _ ih =>
    have hstore : request.isStoreCall := hx (s.exchange request) (List.mem_cons_self ..)
    exact (ih fun x hm => hx x (List.mem_cons_of_mem _ hm)).trans (World.alike_perform _ _ hstore)
  | @pause s _ delay request _ _ _ ih =>
    have hworld : (s.pause cancelAt delay request).1.world = s.world := by
      unfold Session.pause
      dsimp only
      split <;> rfl
    exact hworld ▸ ih hx

theorem fired (hr : Runs cancelAt s next xs s' next') (hn : next ≠ .finished .cancelled)
    (hn' : next' = .finished .cancelled) : ∃ t, cancelAt = some t ∧ t ≤ s'.now := by
  induction hr with
  | still => exact absurd hn' hn
  | @ask s _ request _ _ _ ih => exact ih (s.engine.receive_next_ne ..).2 hn'
  | @pause s s' delay request _ _ hrest ih =>
    unfold Session.pause at ih hrest
    dsimp only at ih hrest
    split at ih
    · next hcut =>
      rw [if_pos hcut] at hrest
      obtain ⟨rfl, -⟩ := hrest.of_isIdle (Engine.Dialogue.isIdle_cancelled request)
      obtain ⟨t, rfl, -⟩ := (Option.any_eq_true ..).mp hcut
      exact ⟨t, rfl, Nat.le_max_right ..⟩
    · exact ih (by simp) hn'

end Runs

/-- A cycle whose store calls are all served takes no notice of shutdown. -/
theorem cycle_eq_of_served {reason : WakeReason}
    (hx : ∀ x ∈ s.cycleJournal reason cancelAt, x.refusal? = none) (cancelAt' : Option ℕ) :
    s.cycle reason cancelAt' = s.cycle reason cancelAt ∧
      s.cycleJournal reason cancelAt' = s.cycleJournal reason cancelAt := by
  have hfuel : ∀ c, 16 ≤ s.fuel c := fun c => Nat.le_add_left ..
  have hrank : (Next.ask (.fingerprint reason)).rank = 4 := rfl
  have hf : (Next.ask (.fingerprint reason)).rank ≤ s.fuel cancelAt := by
    have := hfuel cancelAt
    omega
  obtain ⟨hi, hle⟩ := isIdle_pursue rfl hx hf
  have hruns := (s.runs_cycle reason cancelAt).of_served rfl hx cancelAt'
  refine hruns.pursue_eq hi ?_
  have hle' : (s.cycleJournal reason cancelAt).length ≤ 4 := hle
  have := hfuel cancelAt'
  rw [Next.isPause, Bool.toNat_false]
  omega

theorem of_cancelled {reason : WakeReason}
    (hc : (s.cycle reason cancelAt).2 = .finished .cancelled) :
    (∃ t, cancelAt = some t ∧ t ≤ (s.cycle reason cancelAt).1.now) ∧
      (∃ x ∈ s.cycleJournal reason cancelAt, x.refusal?.isSome) ∧
      (∀ x ∈ s.cycleJournal reason cancelAt, x.request.isStoreCall) ∧
      (s.cycle reason cancelAt).1.world.Alike s.world ∧
      (s.cycle reason cancelAt).1.engine.SameMemory s.engine := by
  have hruns := s.runs_cycle reason cancelAt
  obtain ⟨o, ho, hends⟩ := cycleEnds (congrArg Next.isIdle hc)
  obtain rfl : o = .cancelled := Next.finished.inj (ho.symm.trans hc)
  obtain ⟨hstore, hengine⟩ := hends.of_cancelled
  obtain ⟨f, hf⟩ := List.exists_mem_of_ne_nil _ hends.refused_of_cancelled
  obtain ⟨x, hx, hrefusal⟩ := List.mem_filterMap.mp hf
  exact ⟨hruns.fired (by simp) hc, ⟨x, hx, by rw [hrefusal]; rfl⟩, hstore, hruns.alike hstore,
    hengine⟩

end Session

namespace Daemon

/-- What can happen to a daemon. -/
inductive Deed
  /-- The world replies to a request, with success or not. -/
  | reply (x : Exchange)
  /-- The timer of a pause or a wait has run down. -/
  | elapse
  /-- The daemon notices shutdown or a request to refresh. -/
  | stir
  | notify
  | cancel

/-- One deed, whatever the world is like. -/
inductive Step (d : Daemon) : Deed → Daemon → Prop
  | reply {request : Request} (reply : request.Reply) (ha : d.activity = .asking request) :
    Step d (.reply ⟨request, reply⟩) (d.receive request reply).1
  | elapse : Step d .elapse d.elapse
  | stir {d' : Daemon} {log : Log} (hs : d.stir? = some (d', log)) : Step d .stir d'
  | notify : Step d .notify d.notify
  | cancel : Step d .cancel d.cancel

/-- What comes of a daemon by one deed after another. -/
inductive Reaches (start : Daemon) : List Deed → Daemon → Prop
  | start : Reaches start [] start
  | step {deeds : List Deed} {d d' : Daemon} {deed : Deed} (hr : Reaches start deeds d)
    (hs : Step d deed d') :
    Reaches start (deeds ++ [deed]) d'

variable {d d' : Daemon} {deed : Deed}

@[simp] theorem cancelled_follow (d : Daemon) (next : Next) :
    (d.follow next).1.cancelled = d.cancelled := by
  cases next with
  | ask | pause => rfl
  | started connected => cases connected <;> rfl
  | finished outcome => cases outcome <;> rfl

theorem hasEnded_follow {next : Next} (he : (d.follow next).1.hasEnded) :
    next = .started false ∨ next = .finished .cancelled := by
  cases next with
  | ask | pause => cases he
  | started connected => cases connected <;> first | exact .inl rfl | cases he
  | finished outcome => cases outcome <;> first | exact .inr rfl | cases he

theorem not_hasEnded_receive (d : Daemon) (request : Request) (reply : request.Reply) :
    (d.receive request reply).1.hasEnded = false := by
  rw [Bool.eq_false_iff]
  intro he
  obtain ⟨hstarted, hfinished⟩ := d.engine.receive_next_ne request reply
  exact (hasEnded_follow he).elim hstarted hfinished

theorem of_stir? {log : Log} (hs : d.stir? = some (d', log)) :
    (d.cancelled ∧ ∃ next, d' = (d.follow next).1) ∨ d' = d.wake := by
  unfold stir? at hs
  split at hs
  · split at hs
    · next hc => exact .inl ⟨hc, _, (congrArg Prod.fst (Option.some.inj hs)).symm⟩
    · cases hs
  · split at hs
    · next hc => exact .inl ⟨hc, _, (congrArg Prod.fst (Option.some.inj hs)).symm⟩
    · split at hs
      · exact .inr (congrArg Prod.fst (Option.some.inj hs)).symm
      · cases hs
  · cases hs
  · cases hs

theorem elapse_cases (d : Daemon) :
    d.elapse = d ∨ (∃ request, d.elapse = { d with activity := .asking request }) ∨
      d.elapse = d.wake := by
  unfold elapse
  split
  · exact .inr (.inl ⟨_, rfl⟩)
  · exact .inr (.inr rfl)
  · exact .inl rfl
  · exact .inl rfl

theorem Step.cancelled (hs : Step d deed d') : d'.cancelled = d.cancelled ∨ deed = .cancel := by
  cases hs with
  | reply => exact .inl (cancelled_follow ..)
  | elapse =>
    rcases d.elapse_cases with h | ⟨request, h⟩ | h <;> rw [h] <;> exact .inl rfl
  | stir hs =>
    rcases of_stir? hs with ⟨-, next, rfl⟩ | rfl
    · exact .inl (cancelled_follow ..)
    · exact .inl rfl
  | notify => exact .inl rfl
  | cancel => exact .inr rfl

theorem Step.hasEnded (hs : Step d deed d') (he : d'.hasEnded) : d.hasEnded ∨ d.cancelled := by
  cases hs with
  | @reply request reply => exact absurd he (by simp [d.not_hasEnded_receive request reply])
  | elapse =>
    rcases d.elapse_cases with h | ⟨request, h⟩ | h
    · exact .inl (h ▸ he)
    · rw [h] at he
      cases he
    · rw [h] at he
      cases he
  | stir hs =>
    rcases of_stir? hs with ⟨hc, -⟩ | rfl
    · exact .inr hc
    · cases he
  | notify | cancel => exact .inl he

theorem Reaches.cancel_mem {e : Engine} {deeds : List Deed} (hr : Reaches (.start e) deeds d)
    (hc : d.cancelled) :
    .cancel ∈ deeds := by
  induction hr with
  | start => cases hc
  | step _ hstep ih =>
    rcases hstep.cancelled with h | rfl
    · exact List.mem_append_left _ (ih (h ▸ hc))
    · exact List.mem_append_right _ (List.mem_singleton_self _)

/-- Whatever the world replies, a daemon ends only after a request for shutdown. -/
theorem Reaches.cancel_mem_of_hasEnded {e : Engine} {deeds : List Deed}
    (hr : Reaches (.start e) deeds d) (he : d.hasEnded) : .cancel ∈ deeds := by
  induction hr with
  | start => cases he
  | step hpast hstep ih =>
    rcases hstep.hasEnded he with hended | hc
    · exact List.mem_append_left _ (ih hended)
    · exact List.mem_append_left _ (hpast.cancel_mem hc)

end Daemon

namespace Host

variable [Timer] {h h' : Host} {time fuel : ℕ}

theorem step_of_act? (ha : h.act? time = some h') :
    ∃ deed, Daemon.Step h.daemon deed h'.daemon ∧ deed ≠ .cancel := by
  unfold act? at ha
  split at ha
  · next request hrequest =>
    obtain rfl := Option.some.inj ha
    exact ⟨_, .reply (h.world.perform h.daemon.engine.paths request).reply hrequest, by simp⟩
  · split at ha
    · next _ _ _ hstir =>
      obtain rfl := Option.some.inj ha
      exact ⟨_, .stir hstir, by simp⟩
    · split at ha
      · obtain rfl := Option.some.inj ha
        exact ⟨_, .elapse, by simp⟩
      · cases ha
    · cases ha

theorem of_hasEnded_run (he : (run time fuel h).daemon.hasEnded) :
    h.daemon.hasEnded ∨ h.daemon.cancelled := by
  induction fuel generalizing h with
  | zero => exact .inl he
  | succ fuel ih =>
    rw [run] at he
    split at he
    · next h₁ ha =>
      obtain ⟨deed, hstep, hne⟩ := step_of_act? ha
      rcases ih he with hended | hcancelled
      · exact hstep.hasEnded hended
      · exact .inr ((hstep.cancelled.resolve_right hne) ▸ hcancelled)
    · exact .inl he

theorem of_hasEnded_passUntil (he : (h.passUntil time).daemon.hasEnded) :
    h.daemon.hasEnded ∨ h.daemon.cancelled :=
  of_hasEnded_run he

end Host

/-- Shutdown takes effect between two cycles, or while a store call is refused and nothing has been
done yet; nothing else makes an end. In a session it is requested at some time, in a course whenever
the engine waits. -/
theorem Session.shutdown_tears_nothing [Timer] (s : Session) (reason : WakeReason)
    (cancelAt : Option ℕ) :
    ((∀ x ∈ s.cycleJournal reason cancelAt, x.refusal? = none) → ∀ cancelAt',
      s.cycle reason cancelAt' = s.cycle reason cancelAt ∧
        s.cycleJournal reason cancelAt' = s.cycleJournal reason cancelAt) ∧
    ((s.cycle reason cancelAt).2 = .finished .cancelled →
      (∃ t, cancelAt = some t ∧ t ≤ (s.cycle reason cancelAt).1.now) ∧
        (∃ x ∈ s.cycleJournal reason cancelAt, x.refusal?.isSome) ∧
        (∀ x ∈ s.cycleJournal reason cancelAt, x.request.isStoreCall) ∧
        (s.cycle reason cancelAt).1.world.Alike s.world ∧
        (s.cycle reason cancelAt).1.engine.SameMemory s.engine) ∧
    (∀ h, ∀ k : Course.Cycle h,
      ((∀ x ∈ k.exchanges, x.refusal? = none) → .giveUp ∉ k.events) ∧
      (k.outcome = .cancelled → .giveUp ∈ k.events ∧ (∃ x ∈ k.exchanges, x.refusal?.isSome) ∧
        k.attemptsWrite = false ∧ k.reports = [] ∧ (k.IsAlone → k.after.tree = k.before.tree) ∧
        k.after.engine.SameMemory k.before.engine)) ∧
    ∀ deeds d, Daemon.Reaches (.start s.engine) deeds d → d.hasEnded → .cancel ∈ deeds :=
  ⟨cycle_eq_of_served, of_cancelled, fun _ k => ⟨k.not_mem_giveUp, k.of_cancelled⟩,
    fun _ _ hr he => hr.cancel_mem_of_hasEnded he⟩

section Stopped

theorem Session.shutdown_tears_nothing_of_refusedSession :
    (refusedSession 0 0 0).cycle .startup none = (refusedSession 0 0 0).cycle .startup (some 0) ∧
    ((refusedSession 0 9 0).cycle .startup (some 2500)).1.world.Alike (refusedSession 0 9 0).world ∧
    ∃ deeds d, Daemon.Reaches (.start (refusedSession 0 0 0).engine) deeds d ∧ d.hasEnded ∧
      .cancel ∈ deeds := by
  have hserved : ∀ x ∈ (refusedSession 0 0 0).cycleJournal .startup (some 0),
      x.refusal? = none := by
    decide +kernel
  have hcancelled : ((refusedSession 0 9 0).cycle .startup (some 2500)).2 =
      .finished .cancelled := by
    decide +kernel
  let refusal : Request.connect.Reply := .error StandInStore.outage
  have hrefused : Daemon.Reaches (.start (refusedSession 0 0 0).engine) [.reply ⟨.connect, refusal⟩]
      ((Daemon.start (refusedSession 0 0 0).engine).receive .connect refusal).1 :=
        .step .start (.reply refusal rfl)
  have hended := (hrefused.step .cancel).step (.stir rfl)
  obtain ⟨hsame, -, -, hend⟩ := shutdown_tears_nothing (refusedSession 0 0 0) .startup (some 0)
  obtain ⟨-, huntouched, -⟩ := shutdown_tears_nothing (refusedSession 0 9 0) .startup (some 2500)
  obtain ⟨-, -, -, halike, -⟩ := huntouched hcancelled
  exact ⟨(hsame hserved none).1, halike, _, _, hended, rfl, hend _ _ hended rfl⟩

end Stopped

end BlocklistSync
