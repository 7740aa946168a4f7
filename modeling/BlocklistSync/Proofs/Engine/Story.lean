import BlocklistSync.Proofs.Engine.Shutdown

/-! The life of an engine told in chapters: starts, cycles, and the wakes between them, each with
what was exchanged in it. What a daemon has done can be told so, up to the chapter that is still
being written. -/
namespace BlocklistSync

inductive Chapter
  | start (exchanges : List Exchange) (connected : Bool)
  /-- A wait between two cycles is over. -/
  | wake (reason : WakeReason)
  | cycle (reason : WakeReason) (exchanges : List Exchange) (outcome : Outcome)

namespace Chapter

def exchanges : Chapter → List Exchange
  | start xs _ | cycle _ xs _ => xs
  | wake _ => []

def outcome? : Chapter → Option Outcome
  | cycle _ _ o => some o
  | start _ _ | wake _ => none

def wake? : Chapter → Option WakeReason
  | wake reason => some reason
  | start _ _ | cycle _ _ _ => none

def outcomes (past : List Chapter) : List Outcome := past.filterMap outcome?

def wakes (past : List Chapter) : List WakeReason := past.filterMap wake?

def talk (past : List Chapter) : List Exchange := past.flatMap exchanges

end Chapter

namespace Engine

def woken (e : Engine) (reason : WakeReason) : Engine :=
  { e with
    stats := match reason with
      | .notified => e.stats.addNotifiedWake
      | .timer | .startup => e.stats.addTimerWake }

/-- What an engine goes through, whatever it hears, and what becomes of it. -/
inductive Story (e₀ : Engine) : List Chapter → Engine → Prop
  | new : Story e₀ [] e₀
  | start {past : List Chapter} {e e' : Engine} {xs : List Exchange} {connected : Bool}
    (hs : Story e₀ past e) (hd : Dialogue e (.ask .connect) xs e' (.started connected)) :
    Story e₀ (past ++ [.start xs connected]) e'
  | wake {past : List Chapter} {e : Engine} (hs : Story e₀ past e) (reason : WakeReason) :
    Story e₀ (past ++ [.wake reason]) (e.woken reason)
  | cycle {past : List Chapter} {e e' : Engine} {reason : WakeReason} {xs : List Exchange}
    {o : Outcome} (hs : Story e₀ past e)
    (hd : Dialogue e.beginCycle (.ask (.fingerprint reason)) xs e' (.finished o)) :
    Story e₀ (past ++ [.cycle reason xs o]) e'

/-- The ways that a start can go. -/
inductive StartEnds (e : Engine) : List Exchange → Engine → Bool → Prop
  | neverConnected {faults : List Fault} (hf : faults ≠ []) :
    StartEnds e (inVain .connect .error faults) (e.afterRefusals faults.length) false
  | connected {faults : List Fault} (supported : Bool) :
    StartEnds e (inVain .connect .error faults ++ [⟨.connect, .ok ()⟩, ⟨.probe, supported⟩])
      { e.served.retried faults.length with patternSupport := some supported } true

namespace Dialogue

variable {e e' e₁ : Engine} {next next' next₁ : Next} {xs ys : List Exchange}

theorem trans (hd : Dialogue e next xs e₁ next₁) (hd' : Dialogue e₁ next₁ ys e' next') :
    Dialogue e next (xs ++ ys) e' next' := by
  induction hd with
  | still => exact hd'
  | ask _ ih => exact .ask (ih hd')
  | resume _ ih => exact .resume (ih hd')
  | giveUp _ ih => exact .giveUp (ih hd')

theorem asked {request : Request} (hd : Dialogue e next xs e₁ (.ask request))
    (reply : request.Reply) :
    Dialogue e next (xs ++ [⟨request, reply⟩]) (e₁.receive request reply).engine
      (e₁.receive request reply).next :=
  hd.trans (.ask (.still ..))

theorem resumed {delay : Duration} {request : Request}
    (hd : Dialogue e next xs e₁ (.pause delay request)) :
    Dialogue e next xs e₁ (.ask request) := by
  simpa using hd.trans (.resume (.still ..))

theorem givenUp {delay : Duration} {request : Request}
    (hd : Dialogue e next xs e₁ (.pause delay request)) :
    Dialogue e next xs e₁ (.cancelled request) := by
  simpa using hd.trans (.giveUp (.still ..))

theorem startEnds (hd : Dialogue e (.ask .connect) xs e' next') (hi : next'.isIdle) :
    ∃ connected, next' = .started connected ∧ e.StartEnds xs e' connected := by
  obtain ⟨faults, ⟨hf, rfl, rfl, rfl⟩ | ⟨_ | _, rest, hreply, rfl, hserved⟩⟩ :=
    hd.tries .connect connectName .error (fun _ _ => rfl) hi
  · exact ⟨_, rfl, .neverConnected hf⟩
  · exact absurd rfl (hreply _)
  · have hprobe : Dialogue (e.served.retried faults.length) (.ask .probe) rest e' next' := by
      simpa only [receive, served_afterRefusals] using hserved
    cases hprobe with
    | still => cases hi
    | @ask _ _ _ supported rest _ hstarted =>
      obtain ⟨rfl, rfl, rfl⟩ := hstarted.of_isIdle rfl
      exact ⟨_, rfl, .connected supported⟩

end Dialogue

end Engine

/-- What a daemon does while its engine is in the midst of a start or a cycle. -/
def Next.activity? : Next → Option Activity
  | .ask request => some (.asking request)
  | .pause delay request => some (.pausing delay request)
  | .started _ | .finished _ => none

theorem Next.eq_ask {next : Next} {request : Request}
    (h : next.activity? = some (.asking request)) :
    next = .ask request := by
  cases next <;> simp_all [activity?]

theorem Next.eq_pause {next : Next} {delay : Duration} {request : Request}
    (h : next.activity? = some (.pausing delay request)) : next = .pause delay request := by
  cases next <;> simp_all [activity?]

theorem Next.activity?_ne (next : Next) :
    next.activity? ≠ some .waiting ∧ next.activity? ≠ some .ended := by
  cases next <;> simp [activity?]

namespace Daemon
open Engine

def Deed.exchange? : Deed → Option Exchange
  | .reply x => some x
  | .elapse | .stir | .notify | .cancel => none

/-- The start was not in vain, and `k` more cycles have ended than waits. -/
structure Paced (k : ℕ) (past : List Chapter) : Prop where
  started : ∃ xs rest, past = .start xs true :: rest
  balance : (Chapter.outcomes past).length = (Chapter.wakes past).length + k

/-- The chapters that a daemon has behind it, and what was exchanged since. -/
inductive Along (e₀ : Engine) : List Chapter → List Exchange → Daemon → Prop
  | starting {d : Daemon} {xs : List Exchange} {next : Next}
    (hd : Dialogue e₀ (.ask .connect) xs d.engine next) (ha : next.activity? = some d.activity) :
    Along e₀ [] xs d
  | neverStarted {d : Daemon} {xs : List Exchange}
    (hd : Dialogue e₀ (.ask .connect) xs d.engine (.started false)) (ha : d.activity = .ended) :
    Along e₀ [.start xs false] [] d
  | cycling {d : Daemon} {past : List Chapter} {e : Engine} {reason : WakeReason}
    {xs : List Exchange} {next : Next} (hs : Story e₀ past e) (hp : Paced 0 past)
    (hd : Dialogue e.beginCycle (.ask (.fingerprint reason)) xs d.engine next)
    (ha : next.activity? = some d.activity) : Along e₀ past xs d
  | between {d : Daemon} {past : List Chapter} (hs : Story e₀ past d.engine) (hp : Paced 1 past)
    (ha : d.activity = .waiting ∨ d.activity = .ended) : Along e₀ past [] d

namespace Paced

variable {k : ℕ} {past : List Chapter}

theorem snoc {k' : ℕ} (hp : Paced k past) (c : Chapter)
    (hk : k + c.outcome?.toList.length = c.wake?.toList.length + k') : Paced k' (past ++ [c]) where
  started := by
    obtain ⟨xs, rest, rfl⟩ := hp.started
    exact ⟨xs, rest ++ [c], rfl⟩
  balance := by
    have hb := hp.balance
    rw [Chapter.outcomes, Chapter.wakes] at hb ⊢
    rw [List.filterMap_append, List.filterMap_append, List.length_append, List.length_append,
      List.filterMap_cons, List.filterMap_cons, List.filterMap_nil, List.filterMap_nil]
    cases c <;> simp_all [Chapter.outcome?, Chapter.wake?] <;> omega

end Paced

/-- All that was exchanged, in the chapters and since. -/
def told (past : List Chapter) (xs : List Exchange) : List Exchange := Chapter.talk past ++ xs

theorem told_snoc (past : List Chapter) (c : Chapter) (xs : List Exchange) :
    told (past ++ [c]) xs = told past (c.exchanges ++ xs) := by
  simp [told, Chapter.talk]

theorem told_append (past : List Chapter) (xs ys : List Exchange) :
    told past (xs ++ ys) = told past xs ++ ys := by
  simp [told]

namespace Along

variable {e₀ e : Engine} {past : List Chapter} {xs : List Exchange} {d d' : Daemon} {next : Next}
  {reason : WakeReason}

theorem congr (h : Along e₀ past xs d) (he : d'.engine = d.engine) (ha : d'.activity = d.activity) :
    Along e₀ past xs d' := by
  cases h with
  | starting hd hn => exact .starting (he ▸ hd) (ha ▸ hn)
  | neverStarted hd hn => exact .neverStarted (he ▸ hd) (ha ▸ hn)
  | cycling hs hp hd hn => exact .cycling hs hp (he ▸ hd) (ha ▸ hn)
  | between hs hp hn => exact .between (he ▸ hs) hp (ha ▸ hn)

theorem follow_starting (hd : Dialogue e₀ (.ask .connect) xs d.engine next) :
    ∃ past' xs', Along e₀ past' xs' (d.follow next).1 ∧ told past' xs' = xs := by
  cases next with
  | ask request => exact ⟨[], xs, .starting hd rfl, rfl⟩
  | pause delay request => exact ⟨[], xs, .starting hd rfl, rfl⟩
  | started connected =>
    cases connected with
    | false => exact ⟨[.start xs false], [], .neverStarted hd rfl,
        by simp [told, Chapter.talk, Chapter.exchanges]⟩
    | true =>
      exact ⟨[.start xs true], [], .cycling (.start .new hd) ⟨⟨xs, [], rfl⟩, rfl⟩ (.still ..) rfl,
        by simp [told, Chapter.talk, Chapter.exchanges]⟩
  | finished o =>
    obtain ⟨connected, hn, -⟩ := hd.startEnds rfl
    cases hn

theorem follow_cycling (hs : Story e₀ past e) (hp : Paced 0 past)
    (hd : Dialogue e.beginCycle (.ask (.fingerprint reason)) xs d.engine next) :
    ∃ past' xs', Along e₀ past' xs' (d.follow next).1 ∧ told past' xs' = told past xs := by
  cases next with
  | ask request => exact ⟨past, xs, .cycling hs hp hd rfl, rfl⟩
  | pause delay request => exact ⟨past, xs, .cycling hs hp hd rfl, rfl⟩
  | started connected =>
    obtain ⟨o, hn, -⟩ := hd.cycleEnds rfl
    cases hn
  | finished o =>
    have hengine : (d.follow (.finished o)).1.engine = d.engine := by cases o <;> rfl
    have hactivity : (d.follow (.finished o)).1.activity = .waiting ∨
        (d.follow (.finished o)).1.activity = .ended := by
      cases o <;> simp [follow]
    exact ⟨past ++ [.cycle reason xs o], [],
      .between (hengine ▸ hs.cycle hd) (hp.snoc _ rfl) hactivity, by
        simp [told_snoc, Chapter.exchanges]⟩

theorem wake (hs : Story e₀ past d.engine) (hp : Paced 1 past) :
    Along e₀ (past ++ [.wake d.trigger.wake.2]) [] d.wake :=
  .cycling (hs.wake _) (hp.snoc _ rfl) (.still ..) rfl

theorem reply {request : Request} (h : Along e₀ past xs d) (ha : d.activity = .asking request)
    (reply : request.Reply) :
    ∃ past' xs', Along e₀ past' xs' (d.receive request reply).1 ∧
      told past' xs' = told past xs ++ [⟨request, reply⟩] := by
  have hengine : ({ d with engine := (d.engine.receive request reply).engine } : Daemon).engine =
    (d.engine.receive request reply).engine := rfl
  cases h with
  | starting hd hn =>
    obtain rfl := Next.eq_ask (ha ▸ hn)
    exact follow_starting (hengine ▸ hd.asked reply)
  | cycling hs hp hd hn =>
    obtain rfl := Next.eq_ask (ha ▸ hn)
    rw [← told_append]
    exact follow_cycling hs hp (hengine ▸ hd.asked reply)
  | neverStarted _ hn =>
    rw [ha] at hn
    cases hn
  | between _ _ hn =>
    rw [ha] at hn
    rcases hn with hn | hn <;> cases hn

theorem resume {delay : Duration} {request : Request} (h : Along e₀ past xs d)
    (ha : d.activity = .pausing delay request) :
    Along e₀ past xs { d with activity := .asking request } := by
  cases h with
  | starting hd hn =>
    obtain rfl := Next.eq_pause (ha ▸ hn)
    exact .starting hd.resumed rfl
  | cycling hs hp hd hn =>
    obtain rfl := Next.eq_pause (ha ▸ hn)
    exact .cycling hs hp hd.resumed rfl
  | neverStarted _ hn =>
    rw [ha] at hn
    cases hn
  | between _ _ hn =>
    rw [ha] at hn
    rcases hn with hn | hn <;> cases hn

theorem giveUp {delay : Duration} {request : Request} (h : Along e₀ past xs d)
    (ha : d.activity = .pausing delay request) :
    ∃ past' xs', Along e₀ past' xs' (d.follow (.cancelled request)).1 ∧
      told past' xs' = told past xs := by
  cases h with
  | starting hd hn =>
    obtain rfl := Next.eq_pause (ha ▸ hn)
    exact follow_starting hd.givenUp
  | cycling hs hp hd hn =>
    obtain rfl := Next.eq_pause (ha ▸ hn)
    exact follow_cycling hs hp hd.givenUp
  | neverStarted _ hn =>
    rw [ha] at hn
    cases hn
  | between _ _ hn =>
    rw [ha] at hn
    rcases hn with hn | hn <;> cases hn

theorem of_waiting (h : Along e₀ past xs d) (ha : d.activity = .waiting) :
    Story e₀ past d.engine ∧ Paced 1 past ∧ xs = [] := by
  cases h with
  | starting _ hn | cycling _ _ _ hn => exact absurd (ha ▸ hn) (Next.activity?_ne _).1
  | neverStarted _ hn =>
    rw [ha] at hn
    cases hn
  | between hs hp _ => exact ⟨hs, hp, rfl⟩

theorem waken (h : Along e₀ past xs d) (ha : d.activity = .waiting) :
    ∃ past' xs', Along e₀ past' xs' d.wake ∧ told past' xs' = told past xs := by
  obtain ⟨hs, hp, rfl⟩ := h.of_waiting ha
  exact ⟨_, _, wake hs hp, told_snoc ..⟩

theorem step {deed : Deed} (h : Along e₀ past xs d) (hs : Step d deed d') :
    ∃ past' xs', Along e₀ past' xs' d' ∧
      told past' xs' = told past xs ++ deed.exchange?.toList := by
  cases hs with
  | reply reply ha => exact h.reply ha reply
  | elapse =>
    rw [Deed.exchange?, Option.toList_none, List.append_nil]
    unfold elapse
    split
    · next ha => exact ⟨past, xs, h.resume ha, rfl⟩
    · next ha => exact h.waken ha
    · exact ⟨past, xs, h, rfl⟩
    · exact ⟨past, xs, h, rfl⟩
  | stir hs =>
    rw [Deed.exchange?, Option.toList_none, List.append_nil]
    unfold stir? at hs
    split at hs
    · next ha =>
      split at hs
      · obtain rfl := congrArg Prod.fst (Option.some.inj hs)
        exact h.giveUp ha
      · cases hs
    · next ha =>
      split at hs
      · obtain rfl := congrArg Prod.fst (Option.some.inj hs)
        obtain ⟨hstory, hp, rfl⟩ := h.of_waiting ha
        exact ⟨past, [], .between hstory hp (.inr rfl), rfl⟩
      · split at hs
        · obtain rfl := congrArg Prod.fst (Option.some.inj hs)
          exact h.waken ha
        · cases hs
    · cases hs
    · cases hs
  | notify | cancel => exact ⟨past, xs, h.congr rfl rfl, by simp [Deed.exchange?]⟩

end Along

/-- Whatever a daemon has done can be told. -/
theorem Reaches.along {e₀ : Engine} {deeds : List Deed} {d : Daemon}
    (hr : Reaches (.start e₀) deeds d) :
    ∃ past xs, Along e₀ past xs d ∧ told past xs = deeds.filterMap Deed.exchange? := by
  induction hr with
  | start => exact ⟨[], [], .starting (.still ..) rfl, rfl⟩
  | @step deeds _ _ deed _ hs ih =>
    obtain ⟨past, xs, h, htold⟩ := ih
    obtain ⟨past', xs', h', htold'⟩ := h.step hs
    refine ⟨past', xs', h', ?_⟩
    rw [htold', htold, List.filterMap_append]
    cases deed <;> rfl

/-- A daemon that has ended has never started, or it has gone through one cycle more than waits. -/
theorem Reaches.story {e₀ : Engine} {deeds : List Deed} {d : Daemon}
    (hr : Reaches (.start e₀) deeds d) (he : d.hasEnded) : ∃ past, Story e₀ past d.engine ∧
      Chapter.talk past = deeds.filterMap Deed.exchange? ∧
      ((∃ xs, past = [.start xs false]) ∨ Paced 1 past) := by
  obtain ⟨past, xs, h, htold⟩ := hr.along
  have ha : d.activity = .ended := by
    unfold hasEnded at he
    split at he
    · assumption
    · cases he
  cases h with
  | starting _ hn | cycling _ _ _ hn => exact absurd (ha ▸ hn) (Next.activity?_ne _).2
  | @neverStarted _ xs hd _ =>
    refine ⟨_, .start .new hd, ?_, .inl ⟨xs, rfl⟩⟩
    rwa [told, List.append_nil] at htold
  | between hs hp _ =>
    refine ⟨_, hs, ?_, .inr hp⟩
    rwa [told, List.append_nil] at htold

end Daemon
end BlocklistSync
