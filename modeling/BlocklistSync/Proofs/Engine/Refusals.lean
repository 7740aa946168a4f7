import BlocklistSync.Proofs.Engine.Cycles

/-! Refusals of the store. The engine asks again and again until it is served, and then only a
counter tells of them, so that a cycle in which calls were refused is one in which none was, but for
that counter. -/
namespace BlocklistSync

def Request.isStoreCall : Request → Bool
  | .connect | .fingerprint _ | .entries _ => true
  | .probe | .write _ _ | .apply _ _ _ | .reapply => false

def Next.isPause : Next → Bool
  | .pause _ _ => true
  | .ask _ | .started _ | .finished _ => false

theorem Exchange.refusal?_eq_none {x : Exchange} (hx : x.request.isStoreCall = false) :
    x.refusal? = none := by
  obtain ⟨request, reply⟩ := x
  cases request <;> first | rfl | cases hx

namespace Engine

theorem isPause_receive (e : Engine) (request : Request) (reply : request.Reply) :
    (e.receive request reply).next.isPause = (Exchange.refusal? ⟨request, reply⟩).isSome := by
  cases request with
  | connect | write => cases reply <;> rfl
  | fingerprint reason =>
    cases reply with
    | error => rfl
    | ok found =>
      rcases e.served.compareFingerprint_next reason found with ⟨-, hn | hn⟩ | hn <;>
        simp [receive, hn, Next.isPause, Exchange.refusal?]
  | entries found =>
    cases reply with
    | error => rfl
    | ok entries => simp [receive, prepare_next, Next.isPause, Exchange.refusal?]
  | probe | apply | reapply => rfl

end Engine

namespace Exchange

/-- Not a store call that was refused. -/
def isServed (x : Exchange) : Bool := x.refusal?.isNone

end Exchange

theorem Stats.addStoreRetries_addStoreRetry (s : Stats) (n : ℕ) :
    (s.addStoreRetries n).addStoreRetry = s.addStoreRetry.addStoreRetries n :=
  (s.addStoreRetries_addStoreRetries n 1).trans (s.addStoreRetry_addStoreRetries n).symm

def Step.retried (s : Step) (n : ℕ) : Step := { s with engine := s.engine.retried n }

namespace Engine

@[simp] theorem retried_zero (e : Engine) : e.retried 0 = e := by
  simp [retried]

theorem retried_retried (e : Engine) (m n : ℕ) : (e.retried m).retried n = e.retried (m + n) := by
  simp [retried, Stats.addStoreRetries_addStoreRetries]

theorem refused_retried (e : Engine) (n : ℕ) (what : String) (request : Request) (f : Fault) :
    (e.retried n).refused what request f = (e.refused what request f).retried n := by
  simp only [refused, Step.retried, retried, Stats.addStoreRetries_addStoreRetry]

theorem compareFingerprint_next_of_eq {e : Engine} {found : Fingerprint}
    (hl : e.lastApplied = some found) (reason : WakeReason) :
    (e.compareFingerprint reason found).next = .ask .reapply ∨
      (e.compareFingerprint reason found).next = .finished .unchanged := by
  rw [compareFingerprint, if_pos hl]
  split
  · exact .inl rfl
  · exact .inr rfl

theorem compareFingerprint_next_of_ne {e : Engine} {found : Fingerprint}
    (hl : e.lastApplied ≠ some found) (reason : WakeReason) :
    (e.compareFingerprint reason found).next = .ask (.entries found) := by
  rw [compareFingerprint, if_neg hl]

@[simp] theorem compareFingerprint_retried (e : Engine) (n : ℕ) (reason : WakeReason)
    (found : Fingerprint) :
    (e.retried n).compareFingerprint reason found =
      (e.compareFingerprint reason found).retried n := by
  unfold compareFingerprint
  by_cases hl : e.lastApplied = some found
  · by_cases hp : e.applyPending ∧ reason = .notified
    · simp [retried, Step.retried, hl, hp]
    · simp [retried, Step.retried, hl, hp]
      rfl
  · simp [retried, Step.retried, hl]

@[simp] theorem prepare_retried (e : Engine) (n : ℕ) (found : Fingerprint) (entries : List Entry) :
    (e.retried n).prepare found entries = (e.prepare found entries).retried n := by
  have hwarns : (e.retried n).warnsOf (compile entries) = e.warnsOf (compile entries) := rfl
  unfold prepare
  dsimp only
  rw [hwarns]
  split <;> rfl

/-- The counter of refusals plays no part in what the engine does. -/
theorem receive_retried (e : Engine) (n : ℕ) (request : Request) (reply : request.Reply) :
    (e.retried n).receive request reply = (e.receive request reply).retried n := by
  have hserved : (e.retried n).served = e.served.retried n := rfl
  cases request with
  | connect =>
    cases reply with
    | error f => exact e.refused_retried ..
    | ok => rfl
  | fingerprint reason =>
    cases reply with
    | error f => exact e.refused_retried ..
    | ok found =>
      simp only [receive, hserved, compareFingerprint_retried]
      rfl
  | entries found =>
    cases reply with
    | error f => exact e.refused_retried ..
    | ok entries =>
      simp only [receive, hserved, prepare_retried]
      rfl
  | write => cases reply <;> rfl
  | probe | apply | reapply => rfl

/-- Once a store call is served, the refusals before it play no part any more. -/
theorem receive_afterRefusals (e : Engine) (n : ℕ) {request : Request} {reply : request.Reply}
    (hr : request.isStoreCall) (hs : Exchange.refusal? ⟨request, reply⟩ = none) :
    ((e.afterRefusals n).receive request reply).engine =
      (e.receive request reply).engine.retried n ∧
      ((e.afterRefusals n).receive request reply).next = (e.receive request reply).next := by
  cases request with
  | connect =>
    cases reply with
    | error => cases hs
    | ok => exact ⟨served_afterRefusals e n, rfl⟩
  | fingerprint reason =>
    cases reply with
    | error => cases hs
    | ok found =>
      simp only [receive, served_afterRefusals, compareFingerprint_retried]
      exact ⟨rfl, rfl⟩
  | entries found =>
    cases reply with
    | error => cases hs
    | ok entries =>
      simp only [receive, served_afterRefusals, prepare_retried]
      exact ⟨rfl, rfl⟩
  | probe | write | apply | reapply => cases hr

theorem afterRefusals_refused (e : Engine) (what : String) (request : Request) (f : Fault) (n : ℕ) :
    ((e.afterRefusals n).refused what request f).engine = e.afterRefusals (n + 1) := by
  simp only [refused, afterRefusals, Function.iterate_succ_apply',
    Stats.addStoreRetries_addStoreRetry, Stats.addStoreRetry_addStoreRetries]

theorem receive_of_refusal (e : Engine) {request : Request} {reply : request.Reply} {f : Fault}
    (hf : Exchange.refusal? ⟨request, reply⟩ = some f) :
    ∃ what, e.receive request reply = e.refused what request f := by
  cases request with
  | connect | fingerprint | entries =>
    cases reply with
    | error =>
      obtain rfl := Option.some.inj hf
      exact ⟨_, rfl⟩
    | ok => cases hf
  | probe | write | apply | reapply => cases hf

end Engine

/-- A refusal, or the end of the wait after it. -/
def Event.isDelay : Event → Bool
  | .refuse _ | .resume => true
  | _ => false

namespace Course
open Engine

variable {h : History} {c c' c₀ : Course} {ev : Event} {events : List Event} {xs : List Exchange}
  {n j : ℕ}
  {request : Request} {reply : request.Reply}

def retried (c : Course) (n : ℕ) : Course := { c with engine := c.engine.retried n }

/-- Two courses that have met the same, but for refusals. The first has met `n` that its engine has
only counted, and then `j` of the store call that both are about to make, if it does not wait to
make it again. -/
structure Behind (n j : ℕ) (c c₀ : Course) : Prop where
  engine : c.engine = (c₀.engine.retried n).afterRefusals j
  tree : c.tree = c₀.tree
  moment : c.moment = c₀.moment
  origin : c.origin = c₀.origin
  applied : c.applied = c₀.applied
  source : c.source = c₀.source
  next : c.next = c₀.next ∨ ∃ delay request, c.next = .pause delay request ∧ c₀.next = .ask request
  awake : c₀.next.isPause = false
  pending : j = 0 ∨ ∃ request, c₀.next = .ask request ∧ request.isStoreCall

namespace Behind

theorem refl (hn : c.next.isPause = false) : Behind 0 0 c c where
  engine := by simp
  tree := rfl
  moment := rfl
  origin := rfl
  applied := rfl
  source := rfl
  next := .inl rfl
  awake := hn
  pending := .inl rfl

theorem asks (hb : Behind n j c c₀) (hn : c.next = .ask request) : c₀.next = .ask request := by
  rcases hb.next with h | ⟨delay, request', hpause, -⟩
  · exact h ▸ hn
  · cases hn.symm.trans hpause

/-- What is no store call is not asked until all refusals are counted. -/
theorem caughtUp (hb : Behind n j c c₀) (hn : c.next = .ask request)
    (hr : request.isStoreCall = false) : j = 0 := by
  refine hb.pending.resolve_right ?_
  rintro ⟨request', hask, hstore⟩
  obtain rfl : request = request' := Next.ask.inj ((hb.asks hn).symm.trans hask)
  simp [hr] at hstore

theorem eq_retried (hb : Behind n j c c₀) (hi : c.next.isIdle) : c = c₀.retried n ∧ j = 0 := by
  obtain hn | ⟨delay, request, hn, -⟩ := hb.next
  · obtain hj | ⟨request, hask, -⟩ := hb.pending
    · refine ⟨?_, hj⟩
      obtain ⟨engine, next, tree, moment, origin, applied, source⟩ := c
      obtain ⟨rfl, rfl, rfl, rfl, rfl, rfl, rfl⟩ :
        engine = _ ∧ next = _ ∧ tree = _ ∧ moment = _ ∧ origin = _ ∧ applied = _ ∧ source = _ :=
        ⟨hb.engine, hn, hb.tree, hb.moment, hb.origin, hb.applied, hb.source⟩
      rw [hj, afterRefusals_zero]
      rfl
    · rw [hn, hask] at hi
      cases hi
  · rw [hn] at hi
    cases hi

theorem refuse (hb : Behind n j c c₀) (hn : c.next = .ask request) {f : Fault}
    (hf : Exchange.refusal? ⟨request, reply⟩ = some f) :
    Behind n (j + 1) (c.receive request reply) c₀ := by
  have hstore : request.isStoreCall := by
    by_contra hr
    simp [Exchange.refusal?_eq_none (x := ⟨request, reply⟩) (Bool.eq_false_iff.mpr hr)] at hf
  obtain ⟨what, hstep⟩ := c.engine.receive_of_refusal hf
  refine { hb with
    engine := ?_, next := .inr ⟨_, request, congrArg Step.next hstep, hb.asks hn⟩, pending := ?_ }
  · change (c.engine.receive request reply).engine = _
    rw [hstep, hb.engine, afterRefusals_refused]
  · exact .inr ⟨request, hb.asks hn, hstore⟩

theorem receive (hb : Behind n j c c₀) (hn : c.next = .ask request)
    (hs : Exchange.refusal? ⟨request, reply⟩ = none) :
    Behind (n + j) 0 (c.receive request reply) (c₀.receive request reply) := by
  have hstep : (c.engine.receive request reply).engine =
    (c₀.engine.receive request reply).engine.retried (n + j) ∧
      (c.engine.receive request reply).next = (c₀.engine.receive request reply).next := by
    rw [hb.engine]
    by_cases hr : request.isStoreCall
    · obtain ⟨he, hnext⟩ := (c₀.engine.retried n).receive_afterRefusals j hr hs
      rw [he, hnext, receive_retried]
      exact ⟨retried_retried .., rfl⟩
    · obtain rfl := hb.caughtUp hn (Bool.eq_false_iff.mpr hr)
      rw [afterRefusals_zero, receive_retried]
      exact ⟨rfl, rfl⟩
  refine { hb with engine := ?_, next := .inl hstep.2, awake := ?_, pending := .inl rfl }
  · rw [afterRefusals_zero]
    exact hstep.1
  · exact (isPause_receive ..).trans (by rw [hs]; rfl)

theorem paths_eq (hb : Behind n j c c₀) : c.engine.paths = c₀.engine.paths := by
  rw [hb.engine]
  rfl

theorem writeFiles (hb : Behind n j c c₀) (faults : MapWriter.Faults) (entries : List Entry) :
    Behind n j (c.writeFiles faults entries) (c₀.writeFiles faults entries) := by
  refine { hb with tree := ?_, source := ?_ }
  · simp only [Course.writeFiles, hb.tree, hb.paths_eq]
  · simp only [Course.writeFiles, hb.tree, hb.origin, hb.source, hb.paths_eq]

theorem write (hb : Behind n j c c₀) (faults : MapWriter.Faults) {found : Fingerprint}
    {entries : List Entry} (hn : c.next = .ask (.write found entries)) :
    Behind (n + j) 0 (c.write faults found entries) (c₀.write faults found entries) := by
  rw [Course.write, hb.tree, hb.paths_eq]
  exact (hb.writeFiles faults entries).receive hn (Exchange.refusal?_eq_none rfl)

end Behind

/-- One course goes through these events, with these exchanges. The other is `m` refusals behind
before them, and goes through all of them but the delays. -/
def CatchesUp (h : History) (m : ℕ) (events : List Event) (xs : List Exchange) (c₀ c' : Course) :
    Prop :=
  ∃ n j c₀', Behind n j c' c₀' ∧ n + j = m + xs.countP (!·.isServed) ∧
    trace? h (events.filter (!·.isDelay)) c₀ = some (xs.filter Exchange.isServed, c₀')

namespace Behind

theorem catchesUp {m : ℕ} {c₀' : Course} (hb : Behind n j c' c₀') (hm : n + j = m)
    (hd : ev.isDelay = false) (ha : c₀.act? h ev = some c₀')
    (hx : c.exchanged h ev = c₀.exchanged h ev) (hs : (c.exchanged h ev).all Exchange.isServed) :
    CatchesUp h m [ev] (c.exchanged h ev) c₀ c' := by
  refine ⟨n, j, c₀', hb, ?_, ?_⟩
  · have hnone : (c.exchanged h ev).countP (!·.isServed) = 0 := by simpa using hs
    rw [hnone, hm, Nat.add_zero]
  · rw [List.filter_eq_self.mpr (List.all_eq_true.mp hs), hx]
    simpa [hd] using trace?_singleton ha

/-- The other course goes along with each event but for a delay, for which it waits. -/
theorem step (hb : Behind n j c c₀) (hs : Transition h c ev c') (hbegins : ev.begins = false)
    (hg : ev ≠ .giveUp) :
    CatchesUp h (n + j) [ev] (c.exchanged h ev) c₀ c' := by
  -- What is neither a refusal nor the end of a pause happens in both courses alike.
  cases hs with
  | storeChanges =>
    have hb' : Behind n j { c with moment := c.moment + 1 } { c₀ with moment := c₀.moment + 1 } :=
      { hb with moment := congrArg (· + 1) hb.moment }
    refine hb'.catchesUp rfl rfl rfl ?_ ?_ <;> simp [exchanged_storeChanges]
  | filesChange tree =>
    have hb' : Behind n j { c with tree := tree } { c₀ with tree := tree } :=
      { hb with tree := rfl }
    refine hb'.catchesUp rfl rfl rfl ?_ ?_ <;> simp [exchanged_filesChange]
  | start | cycle => cases hbegins
  | giveUp => exact absurd rfl hg
  | @resume delay request hn =>
    have hask : c₀.next = .ask request := by
      rcases hb.next with hsame | ⟨delay', request', hpause, hask⟩
      · have hawake := hb.awake
        rw [← hsame, hn] at hawake
        cases hawake
      · rw [hask, (Next.pause.inj (hn.symm.trans hpause)).2]
    refine ⟨n, j, c₀, { hb with next := .inl hask.symm }, ?_, ?_⟩
    · simp [exchanged, hn]
    · simp [Event.isDelay, trace?, exchanged, hn]
  | refuseConnect f hn | refuseFingerprint f hn | refuseEntries f hn =>
    refine ⟨n, j + 1, c₀, hb.refuse hn rfl, ?_, ?_⟩
    · simp [exchanged, hn, reply?, Exchange.isServed, Exchange.refusal?]
      omega
    · simp [Event.isDelay, trace?, exchanged, hn, reply?, Exchange.isServed, Exchange.refusal?]
  | serveConnect hn | probe _ hn | reapply _ hn =>
    refine (hb.receive hn rfl).catchesUp rfl rfl ?_ ?_ ?_
    · simp only [act?, hb.asks hn]
    · simp only [exchanged, hn, hb.asks hn, reply?]
    · simp [exchanged, hn, reply?, Exchange.isServed, Exchange.refusal?]
  | @serveFingerprint reason hn =>
    have hb' : Behind (n + j) 0
        { c.receive (.fingerprint reason) (.ok (h c.moment).fingerprint) with
          origin := { c.origin with compared := c.moment } }
        { c₀.receive (.fingerprint reason) (.ok (h c₀.moment).fingerprint) with
          origin := { c₀.origin with compared := c₀.moment } } := by
      rw [hb.moment, hb.origin]
      exact { hb.receive hn rfl with origin := rfl }
    refine hb'.catchesUp rfl rfl ?_ ?_ ?_
    · simp only [act?, hb.asks hn]
    · simp only [exchanged, hn, hb.asks hn, reply?, hb.moment]
    · simp [exchanged, hn, reply?, Exchange.isServed, Exchange.refusal?]
  | @serveEntries found hn =>
    have hb' : Behind (n + j) 0
        { c.receive (.entries found) (.ok (h c.moment).entries) with
          origin := { c.origin with fetched := c.moment } }
        { c₀.receive (.entries found) (.ok (h c₀.moment).entries) with
          origin := { c₀.origin with fetched := c₀.moment } } := by
      rw [hb.moment, hb.origin]
      exact { hb.receive hn rfl with origin := rfl }
    refine hb'.catchesUp rfl rfl ?_ ?_ ?_
    · simp only [act?, hb.asks hn]
    · simp only [exchanged, hn, hb.asks hn, reply?, hb.moment]
    · simp [exchanged, hn, reply?, Exchange.isServed, Exchange.refusal?]
  | write faults hn =>
    refine (hb.write faults hn).catchesUp rfl rfl ?_ ?_ ?_
    · simp only [act?, hb.asks hn]
    · simp only [exchanged, hn, hb.asks hn, reply?, hb.tree, hb.paths_eq]
    · simp [exchanged, hn, reply?, Exchange.isServed, Exchange.refusal?]
  | @apply report found total written hn =>
    have hb' : Behind (n + j) 0
        { c.receive (.apply found total written) report with applied := some c.origin }
        { c₀.receive (.apply found total written) report with applied := some c₀.origin } := by
      rw [hb.origin]
      exact { hb.receive hn rfl with applied := rfl }
    refine hb'.catchesUp rfl rfl ?_ ?_ ?_
    · simp only [act?, hb.asks hn]
    · simp only [exchanged, hn, hb.asks hn, reply?]
    · simp [exchanged, hn, reply?, Exchange.isServed, Exchange.refusal?]

/-- A course without the delays of another one goes where that goes. -/
theorem run (hb : Behind n j c c₀) (ht : trace? h events c = some (xs, c'))
    (he : ∀ ev ∈ events, ev.begins = false ∧ ev ≠ .giveUp) :
    CatchesUp h (n + j) events xs c₀ c' := by
  induction events generalizing n j c c₀ xs with
  | nil =>
    obtain ⟨rfl, rfl⟩ := Prod.mk.inj (Option.some.inj ht)
    exact ⟨n, j, c₀, hb, by simp, rfl⟩
  | cons ev events ih =>
    obtain ⟨c₁, rest, hact, hrest, rfl⟩ := trace?_cons ht
    obtain ⟨hbegins, hg⟩ := he ev (by simp)
    obtain ⟨n₁, j₁, c₁₀, hb₁, hm₁, ht₁⟩ := hb.step (transition_of_act? hact) hbegins hg
    obtain ⟨n', j', c₀', hb', hm', ht'⟩ := ih hb₁ hrest fun ev hev => he ev (by simp [hev])
    refine ⟨n', j', c₀', hb', ?_, ?_⟩
    · rw [List.countP_append]
      omega
    · rw [← List.singleton_append, List.filter_append, List.filter_append]
      exact trace?_append ht₁ ht'

end Behind

/-- What comes of a start or of a cycle in which nobody gives up is what comes of it without the
refusals, but for the count of them. -/
theorem catchesUp_of_trace? (ht : trace? h (ev :: events) c = some (xs, c')) (hbegins : ev.begins)
    (he : ∀ ev ∈ events, ev.begins = false ∧ ev ≠ .giveUp) (hi : c'.next.isIdle) :
    ∃ c₀, trace? h (ev :: events.filter (!·.isDelay)) c = some (xs.filter Exchange.isServed, c₀) ∧
      c' = c₀.retried (xs.countP (!·.isServed)) := by
  obtain ⟨c₁, rest, hact, hrest, rfl⟩ := trace?_cons ht
  have hbegun : c.exchanged h ev = [] ∧ c₁.next.isPause = false := by
    cases transition_of_act? hact with
    | start => exact ⟨exchanged_eq_nil fun request => by cases request <;> rfl, rfl⟩
    | cycle reason => exact ⟨exchanged_cycle reason, rfl⟩
    | _ => cases hbegins
  rw [hbegun.1, List.nil_append]
  obtain ⟨n, j, c₀, hb, hm, ht₀⟩ := (Behind.refl hbegun.2).run hrest he
  obtain ⟨rfl, rfl⟩ := hb.eq_retried hi
  refine ⟨c₀, ?_, ?_⟩
  · simp [trace?, hact, ht₀, hbegun.1]
  · rw [← Nat.zero_add (List.countP ..), ← hm, Nat.add_zero]

end Course
end BlocklistSync
