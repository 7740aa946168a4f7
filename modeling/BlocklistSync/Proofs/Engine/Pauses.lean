import BlocklistSync.Proofs.Backoff.Delays
import BlocklistSync.Proofs.Engine.Refreshes
import BlocklistSync.Proofs.Engine.Refusals

/-! How long the daemon sleeps. A wait between two cycles lasts for the interval of its engine and a
pause for the delay that its backoff has come to, and only a request to refresh or shutdown makes it
shorter. -/
namespace BlocklistSync

/-- A refusal counts as a failure and is followed by the delay that was next; any other reply leaves
the backoff as it is or as new. -/
theorem Engine.backoff_receive (e : Engine) (request : Request) (reply : request.Reply) :
    ((e.receive request reply).engine.backoff = e.backoff.failed ∧
      ∃ request', (e.receive request reply).next = .pause e.backoff.current request') ∨
    (((e.receive request reply).engine.backoff = e.backoff ∨
      (e.receive request reply).engine.backoff = e.backoff.reset) ∧
      (e.receive request reply).next.isPause = false) := by
  cases request with
  | connect =>
    cases reply with
    | error f => exact .inl ⟨rfl, _, rfl⟩
    | ok u => exact .inr ⟨.inr rfl, rfl⟩
  | fingerprint reason =>
    cases reply with
    | error f => exact .inl ⟨rfl, _, rfl⟩
    | ok found =>
      refine .inr ⟨.inr ?_, by rw [isPause_receive]; rfl⟩
      simp only [receive, compareFingerprint]
      split
      · split <;> rfl
      · rfl
  | entries found =>
    cases reply with
    | error f => exact .inl ⟨rfl, _, rfl⟩
    | ok entries => exact .inr ⟨.inr (prepare_backoff ..), by rw [isPause_receive]; rfl⟩
  | write found entries => cases reply <;> exact .inr ⟨.inl rfl, rfl⟩
  | probe | apply | reapply => exact .inr ⟨.inl rfl, rfl⟩

namespace Daemon

variable {d : Daemon}

@[simp] theorem backoff_follow (d : Daemon) (next : Next) :
    (d.follow next).1.engine.backoff = d.engine.backoff := by
  cases next with
  | ask | pause => rfl
  | started connected => cases connected <;> rfl
  | finished outcome => cases outcome <;> rfl

theorem next_of_pausing {next : Next} {delay : Duration} {request : Request}
    (h : (d.follow next).1.activity = .pausing delay request) : next = .pause delay request := by
  cases next with
  | ask => cases h
  | pause => cases h; rfl
  | started connected => cases connected <;> cases h
  | finished outcome => cases outcome <;> cases h

/-- The backoff of the daemon's engine is where some failures in a row bring `b`, and a pause is for
the delay that came before the last of them. -/
structure KeepsPace (b : Backoff) (d : Daemon) : Prop where
  backoff : ∃ n, d.engine.backoff = Backoff.failed^[n] b
  pausing : ∀ delay request, d.activity = .pausing delay request →
    ∃ n, d.engine.backoff = Backoff.failed^[n + 1] b ∧ delay = (Backoff.failed^[n] b).current

namespace KeepsPace

variable {b : Backoff}

theorem receive (hb : b.reset = b) (k : KeepsPace b d) (request : Request) (reply : request.Reply) :
    KeepsPace b (d.receive request reply).1 := by
  obtain ⟨n, hn⟩ := k.backoff
  have hbackoff : (d.receive request reply).1.engine.backoff =
      (d.engine.receive request reply).engine.backoff :=
    backoff_follow ..
  have hnext {delay : Duration} {request' : Request}
      (ha : (d.receive request reply).1.activity = .pausing delay request') :
      (d.engine.receive request reply).next = .pause delay request' := next_of_pausing ha
  rcases d.engine.backoff_receive request reply with ⟨hfailed, request', hpause⟩ | ⟨hkept, hpause⟩
  · have hfailed : (d.receive request reply).1.engine.backoff = Backoff.failed^[n + 1] b := by
      rw [hbackoff, hfailed, hn, Function.iterate_succ_apply']
    refine ⟨⟨n + 1, hfailed⟩, fun delay request' ha => ⟨n, hfailed, ?_⟩⟩
    obtain ⟨hdelay, -⟩ := Next.pause.inj (hpause.symm.trans (hnext ha))
    rw [← hdelay, hn]
  · refine ⟨?_, fun delay request' ha => ?_⟩
    · rcases hkept with hsame | hreset
      · exact ⟨n, by rw [hbackoff, hsame, hn]⟩
      · exact ⟨0, by rw [hbackoff, hreset, hn, Backoff.reset_iterate_failed, hb]; rfl⟩
    · rw [hnext ha] at hpause
      cases hpause

theorem of_not_pausing {d' : Daemon} (k : KeepsPace b d) (hb : d'.engine.backoff = d.engine.backoff)
    (ha : ∀ delay request, d'.activity ≠ .pausing delay request) : KeepsPace b d' :=
  ⟨hb ▸ k.backoff, fun delay request h => absurd h (ha delay request)⟩

end KeepsPace
end Daemon

namespace Host

variable [Timer]

theorem Course.keepsPace {w : World} {e : Engine} (he : e.backoff.reset = e.backoff)
    {marks : List Mark} {h : Host} (hc : Course (.start w e) marks h) :
    h.daemon.KeepsPace e.backoff := by
  induction hc with
  | start => exact ⟨⟨0, rfl⟩, fun _ _ ha => by cases ha⟩
  | @act marks h h' _ time ha ih =>
    cases goes_of_act? ha with
    | reply _ reply => exact ih.receive he _ reply
    | resume | stir | elapse => exact ih.of_not_pausing rfl fun _ _ hp => by cases hp
    | stop _ _ hended =>
      exact ih.of_not_pausing (Daemon.backoff_follow ..) fun _ _ hp => by
        cases hended.symm.trans hp
  | wake _ _ _ ih => exact ih.of_not_pausing rfl fun _ _ hp => by cases hp
  | pass _ _ ih | notify _ ih | cancel _ ih | change _ _ ih => exact ⟨ih.backoff, ih.pausing⟩

/-- A sleep lasts as long as it is meant to unless shutdown ends it or, between two cycles, a
request does. -/
theorem now_of_act? {h h' : Host} {time : ℕ} (ha : h.act? time = some h') {length : Duration}
    (hd : h.daemon.timeout? = some length) :
    h.daemon.cancelled ∨ (h.daemon.activity = .waiting ∧ h.daemon.trigger.pending) ∨
      h'.now = h.since + Clock.millis length := by
  cases goes_of_act? ha with
  | reply hactivity => simp [Daemon.timeout?, hactivity] at hd
  | resume hactivity =>
    rw [Daemon.timeout?, hactivity] at hd
    obtain rfl := Option.some.inj hd
    exact .inr (.inr rfl)
  | stir hactivity _ hp => exact .inr (.inl ⟨hactivity, hp⟩)
  | elapse hactivity =>
    rw [Daemon.timeout?, hactivity] at hd
    obtain rfl := Option.some.inj hd
    exact .inr (.inr rfl)
  | stop _ hc => exact .inl hc

end Host
end BlocklistSync
