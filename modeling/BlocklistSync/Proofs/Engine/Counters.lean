import BlocklistSync.Proofs.Engine.Story

/-! What the counters say of an engine's life. Each reply adds to them what it is worth, and so do
the beginning of a cycle and a wake; so a counter shows how often that happened which it counts. -/
namespace BlocklistSync

/-- The counters that tell of cycles and wakes, store calls and hand-overs. -/
inductive Counter
  | cycles
  | timerWakes
  | notifiedWakes
  | unchanged
  | applies
  | storeRetries
  | compileFailures
  | commandFailures
  deriving DecidableEq

def Stats.get (s : Stats) : Counter → UInt64
  | .cycles => s.cycles
  | .timerWakes => s.timerWakes
  | .notifiedWakes => s.notifiedWakes
  | .unchanged => s.unchanged
  | .applies => s.applies
  | .storeRetries => s.storeRetries
  | .compileFailures => s.compileFailures
  | .commandFailures => s.commandFailures

def Exchange.adds (x : Exchange) : Counter → ℕ
  | .storeRetries => x.refusal?.toList.length
  | .commandFailures => (x.report?.map (·.failures)).getD 0
  | .cycles | .timerWakes | .notifiedWakes | .unchanged | .applies | .compileFailures => 0

def Outcome.adds : Outcome → Counter → ℕ
  | .unchanged, .unchanged | .applied _, .applies | .aborted _, .compileFailures => 1
  | _, _ => 0

def WakeReason.adds : WakeReason → Counter → ℕ
  | .notified, .notifiedWakes | .timer, .timerWakes | .startup, .timerWakes => 1
  | _, _ => 0

def Next.adds : Next → Counter → ℕ
  | .finished o, c => o.adds c
  | .ask _, _ | .pause _ _, _ | .started _, _ => 0

namespace Chapter

def adds : Chapter → Counter → ℕ
  | start xs _, c => (xs.map (·.adds c)).sum
  | wake reason, c => reason.adds c
  | cycle _ xs o, c => (if c = .cycles then 1 else 0) + (xs.map (·.adds c)).sum + o.adds c

/-- What a counter has to count in these chapters. -/
def total (past : List Chapter) (c : Counter) : ℕ := (past.map (·.adds c)).sum

theorem total_snoc (past : List Chapter) (chapter : Chapter) (c : Counter) :
    total (past ++ [chapter]) c = total past c + chapter.adds c := by
  simp [total]

end Chapter

namespace Engine
open Chapter

variable {e e' e₀ : Engine} {past : List Chapter} {xs : List Exchange} {next next' : Next}

theorem get_refused (e : Engine) (what : String) (request : Request) (f : Fault) (c : Counter) :
    (e.refused what request f).engine.stats.get c =
      e.stats.get c + (if c = .storeRetries then 1 else 0 : ℕ).toUInt64 := by
  cases c <;> simp [refused, Stats.get, Stats.addStoreRetry]

theorem get_handedOver (e : Engine) (report : ApplyReport) (c : Counter) :
    (e.handedOver report).stats.get c =
      e.stats.get c + (if c = .commandFailures then report.failures else 0 : ℕ).toUInt64 := by
  cases c <;> simp [handedOver, Stats.get, Stats.addCommandFailures]

theorem get_compareFingerprint (e : Engine) (reason : WakeReason) (found : Fingerprint)
    (c : Counter) :
    (e.compareFingerprint reason found).engine.stats.get c =
      e.stats.get c + ((e.compareFingerprint reason found).next.adds c).toUInt64 := by
  unfold compareFingerprint
  split
  · split
    · simp [Next.adds]
    · cases c <;> simp [Next.adds, Outcome.adds, Stats.get, Stats.addUnchanged]
  · simp [Next.adds]

theorem get_prepare (e : Engine) (found : Fingerprint) (entries : List Entry) (c : Counter) :
    (e.prepare found entries).engine.stats.get c = e.stats.get c := by
  unfold prepare
  dsimp only
  split
  · cases c <;> rfl
  · rfl

theorem get_abort (e : Engine) (f : Fault) (c : Counter) :
    (e.abort f).engine.stats.get c = e.stats.get c + (Outcome.adds (.aborted f) c).toUInt64 := by
  cases c <;> simp [abort, Outcome.adds, Stats.get, Stats.addCompileFailure]

theorem get_conclude (e : Engine) (found : Fingerprint) (total : ℕ) (written : WriteReport)
    (report : ApplyReport) (c : Counter) :
    (e.conclude found total written report).engine.stats.get c =
      (e.handedOver report).stats.get c +
        (Outcome.adds (.applied ⟨found, total, written, report.failures⟩) c).toUInt64 := by
  cases c <;> simp [conclude, Outcome.adds, Stats.get, Stats.addApply]

/-- Each reply adds what it is worth, and what the outcome is worth if it brings the cycle to its
end. -/
theorem get_receive (e : Engine) (request : Request) (reply : request.Reply) (c : Counter) :
    (e.receive request reply).engine.stats.get c =
      e.stats.get c + (Exchange.adds ⟨request, reply⟩ c +
        (e.receive request reply).next.adds c).toUInt64 := by
  cases request with
  | connect =>
    cases reply with
    | error f =>
      rw [receive, get_refused]
      cases c <;> rfl
    | ok => cases c <;> simp [receive, served, Exchange.adds, Exchange.refusal?, Exchange.report?,
        Next.adds]
  | probe =>
    cases c <;> simp [receive, Exchange.adds, Exchange.refusal?, Exchange.report?, Next.adds]
  | fingerprint reason =>
    cases reply with
    | error f =>
      rw [receive, get_refused]
      cases c <;> rfl
    | ok found =>
      have hadds : Exchange.adds ⟨.fingerprint reason, .ok found⟩ c = 0 := by cases c <;> rfl
      rw [hadds, Nat.zero_add]
      exact e.served.get_compareFingerprint reason found c
  | entries found =>
    cases reply with
    | error f =>
      rw [receive, get_refused]
      cases c <;> rfl
    | ok entries =>
      have hadds : Exchange.adds ⟨.entries found, .ok entries⟩ c = 0 := by cases c <;> rfl
      have hnext : (e.receive (.entries found) (.ok entries)).next.adds c = 0 := by
        simp only [receive, prepare_next]
        rfl
      rw [hadds, hnext]
      exact (e.served.get_prepare found entries c).trans (UInt64.add_zero _).symm
  | write found entries =>
    have hadds : Exchange.adds ⟨.write found entries, reply⟩ c = 0 := by
      cases c <;> cases reply <;> rfl
    rw [hadds, Nat.zero_add]
    cases reply with
    | error f => exact e.get_abort f c
    | ok => simp [receive, Next.adds]
  | apply found total written =>
    have hadds : Exchange.adds ⟨.apply found total written, reply⟩ c =
        if c = .commandFailures then reply.failures else 0 := by cases c <;> rfl
    rw [receive, get_conclude, get_handedOver, hadds]
    simp [conclude, Next.adds, UInt64.add_assoc]
  | reapply =>
    have hadds : Exchange.adds ⟨.reapply, reply⟩ c = if c = .commandFailures then reply.failures
        else 0 := by
      cases c <;> rfl
    rw [receive, get_handedOver, hadds]
    cases c <;> rfl

theorem adds_cancelled (request : Request) (c : Counter) : (Next.cancelled request).adds c = 0 := by
  cases request <;> cases c <;> rfl

theorem Dialogue.get (hd : Dialogue e next xs e' next') (c : Counter) :
    e'.stats.get c + (next.adds c).toUInt64 =
      e.stats.get c + ((xs.map (·.adds c)).sum + next'.adds c).toUInt64 := by
  induction hd with
  | still => simp
  | @ask e _ request reply xs _ _ ih =>
    rw [get_receive] at ih
    have hask : (Next.ask request).adds c = 0 := rfl
    rw [hask, List.map_cons, List.sum_cons]
    simp only [Nat.toUInt64_eq, UInt64.ofNat_add] at ih ⊢
    grind
  | resume _ ih => exact ih
  | @giveUp _ _ _ request _ _ _ ih => rwa [adds_cancelled] at ih

/-- A counter shows what the chapters add up to. -/
theorem Story.get (hs : Story e₀ past e) (c : Counter) :
    e.stats.get c = e₀.stats.get c + (total past c).toUInt64 := by
  induction hs with
  | new => simp [total]
  | @start past e e' xs connected _ hd ih =>
    have hget := hd.get c
    have hidle : (Next.ask .connect).adds c = 0 ∧ (Next.started connected).adds c = 0 := ⟨rfl, rfl⟩
    rw [ih, hidle.1, hidle.2] at hget
    rw [total_snoc, adds]
    simp only [Nat.toUInt64_eq, UInt64.ofNat_add] at hget ⊢
    grind
  | @wake past e _ reason ih =>
    have hwoken : (e.woken reason).stats.get c =
        e.stats.get c + ((Chapter.wake reason).adds c).toUInt64 := by
      cases reason <;> cases c <;> simp [woken, adds, WakeReason.adds, Stats.get,
        Stats.addNotifiedWake, Stats.addTimerWake]
    rw [hwoken, ih, total_snoc]
    simp only [Nat.toUInt64_eq, UInt64.ofNat_add, UInt64.add_assoc]
  | @cycle past e e' reason xs o _ hd ih =>
    have hget := hd.get c
    have hbegun : e.beginCycle.stats.get c =
        e.stats.get c + (if c = .cycles then 1 else 0 : ℕ).toUInt64 := by
      cases c <;> simp [beginCycle, Stats.get, Stats.addCycle]
    have hask : (Next.ask (.fingerprint reason)).adds c = 0 := rfl
    have hend : (Next.finished o).adds c = o.adds c := rfl
    rw [hbegun, ih, hask, hend] at hget
    rw [total_snoc, adds]
    simp only [Nat.toUInt64_eq, UInt64.ofNat_add] at hget ⊢
    grind

/-- No counter has to count further than it can. -/
def Fits (past : List Chapter) : Prop := ∀ c, total past c < 2 ^ 64

theorem Story.get_of_fresh (hs : Story e₀ past e) (h₀ : e₀.stats = {}) (c : Counter) :
    e.stats.get c = (total past c).toUInt64 := by
  have hzero : e₀.stats.get c = 0 := by
    rw [h₀]
    cases c <;> rfl
  rw [hs.get c, hzero, UInt64.zero_add]

theorem Story.toNat_get (hs : Story e₀ past e) (h₀ : e₀.stats = {}) (hf : Fits past) (c : Counter) :
    (e.stats.get c).toNat = total past c := by
  rw [hs.get_of_fresh h₀, Nat.toUInt64_eq, UInt64.toNat_ofNat_of_lt' (hf c)]

end Engine

namespace Exchange

theorem sum_adds_storeRetries (xs : List Exchange) :
    (xs.map (·.adds .storeRetries)).sum = (xs.filterMap refusal?).length := by
  induction xs with
  | nil => rfl
  | cons x xs ih =>
    rw [List.map_cons, List.sum_cons, ih, List.filterMap_cons, adds]
    cases x.refusal? <;> simp [Nat.add_comm]

theorem sum_adds_commandFailures (xs : List Exchange) :
    (xs.map (·.adds .commandFailures)).sum = ((xs.filterMap report?).map (·.failures)).sum := by
  induction xs with
  | nil => rfl
  | cons x xs ih =>
    rw [List.map_cons, List.sum_cons, ih, List.filterMap_cons, adds]
    cases x.report? <;> simp

theorem sum_adds_eq_zero (xs : List Exchange) {c : Counter} (hr : c ≠ .storeRetries)
    (hf : c ≠ .commandFailures) :
    (xs.map (·.adds c)).sum = 0 := by
  induction xs with
  | nil => rfl
  | cons x xs ih =>
    rw [List.map_cons, List.sum_cons, ih]
    cases c <;> simp_all [adds]

end Exchange

namespace Outcome

theorem sum_adds {c : Counter} {counted : Outcome → Bool}
    (h : ∀ o : Outcome, o.adds c = if counted o then 1 else 0) (os : List Outcome) :
    (os.map (·.adds c)).sum = os.countP counted := by
  induction os with
  | nil => rfl
  | cons o os ih => rw [List.map_cons, List.sum_cons, ih, List.countP_cons, h, Nat.add_comm]

theorem adds_le_one (o : Outcome) (c : Counter) : o.adds c ≤ 1 := by
  unfold adds
  split <;> simp

theorem sum_adds_le (os : List Outcome) (c : Counter) : (os.map (·.adds c)).sum ≤ os.length := by
  induction os with
  | nil => exact Nat.le_refl 0
  | cons o os ih =>
    have ho := o.adds_le_one c
    rw [List.map_cons, List.sum_cons, List.length_cons]
    omega

theorem length_eq (os : List Outcome) : os.length = os.countP (· matches .unchanged) +
    os.countP (· matches .applied _) + os.countP (· matches .aborted _) + os.countP
      (· matches .reapplied _) +
    os.countP (· matches .cancelled) := by
  induction os with
  | nil => rfl
  | cons o os ih =>
    simp only [List.length_cons, List.countP_cons, ih]
    cases o <;> simp <;> omega

end Outcome

theorem WakeReason.sum_adds_eq_zero (reasons : List WakeReason) {c : Counter} (ht : c ≠ .timerWakes)
    (hn : c ≠ .notifiedWakes) : (reasons.map (·.adds c)).sum = 0 := by
  induction reasons with
  | nil => rfl
  | cons reason reasons ih =>
    rw [List.map_cons, List.sum_cons, ih]
    cases reason <;> cases c <;> simp_all [adds]

namespace Chapter

variable (past : List Chapter)

theorem total_eq (c : Counter) :
    total past c = (if c = .cycles then (outcomes past).length else 0) +
    ((talk past).map (·.adds c)).sum + ((outcomes past).map (·.adds c)).sum +
      ((wakes past).map (·.adds c)).sum := by
  induction past with
  | nil => simp [total, outcomes, talk, wakes]
  | cons chapter rest ih =>
    have hcons : total (chapter :: rest) c = chapter.adds c + total rest c := by simp [total]
    have htalk : talk (chapter :: rest) = chapter.exchanges ++ talk rest := rfl
    have houtcomes : outcomes (chapter :: rest) = chapter.outcome?.toList ++ outcomes rest := by
      cases chapter <;> rfl
    have hwakes : wakes (chapter :: rest) = chapter.wake?.toList ++ wakes rest := by
      cases chapter <;> rfl
    rw [hcons, ih, htalk, houtcomes, hwakes]
    simp only [List.map_append, List.sum_append, List.length_append]
    cases chapter with
    | start xs connected =>
      simp only [Chapter.adds, exchanges, outcome?, wake?, Option.toList_none, List.length_nil,
        List.map_nil, List.sum_nil, Nat.zero_add]
      omega
    | wake reason =>
      simp only [Chapter.adds, exchanges, outcome?, wake?, Option.toList_none, Option.toList_some,
        List.length_nil, List.map_nil, List.map_cons, List.sum_cons, List.sum_nil, Nat.zero_add]
      omega
    | cycle reason xs o =>
      simp only [Chapter.adds, exchanges, outcome?, wake?, Option.toList_none, Option.toList_some,
        List.length_nil, List.length_cons, List.map_nil, List.map_cons, List.sum_cons, List.sum_nil]
      split <;> omega

theorem total_cycles : total past .cycles = (outcomes past).length := by
  have hzero : ∀ o : Outcome, o.adds .cycles = if false then 1 else 0 := by
    intro o
    cases o <;> rfl
  rw [total_eq, Exchange.sum_adds_eq_zero _ (by simp) (by simp),
    WakeReason.sum_adds_eq_zero _ (by simp) (by simp), Outcome.sum_adds hzero, List.countP_false]
  simp

theorem total_outcomes {c : Counter} (hc : c = .unchanged ∨ c = .applies ∨ c = .compileFailures) :
    total past c = ((outcomes past).map (·.adds c)).sum := by
  have hne : c ≠ .storeRetries ∧ c ≠ .commandFailures ∧ c ≠ .cycles ∧ c ≠ .timerWakes ∧
      c ≠ .notifiedWakes := by
    rcases hc with rfl | rfl | rfl <;> simp
  obtain ⟨hr, hf, hcycles, ht, hn⟩ := hne
  rw [total_eq, Exchange.sum_adds_eq_zero _ hr hf, WakeReason.sum_adds_eq_zero _ ht hn,
    if_neg hcycles, Nat.zero_add, Nat.add_zero]

theorem total_calls {c : Counter} (hc : c = .storeRetries ∨ c = .commandFailures) :
    total past c = ((talk past).map (·.adds c)).sum := by
  have hne : c ≠ .cycles ∧ c ≠ .timerWakes ∧ c ≠ .notifiedWakes := by
    rcases hc with rfl | rfl <;> simp
  have hzero : ∀ o : Outcome, o.adds c = if false then 1 else 0 := by
    intro o
    rcases hc with rfl | rfl <;> cases o <;> rfl
  obtain ⟨hcycles, ht, hn⟩ := hne
  rw [total_eq, WakeReason.sum_adds_eq_zero _ ht hn, Outcome.sum_adds hzero, if_neg hcycles,
    List.countP_false]
  simp

theorem total_wakes : total past .timerWakes + total past .notifiedWakes = (wakes past).length := by
  have hzero : ∀ c, c = .timerWakes ∨ c = .notifiedWakes → ∀ o : Outcome, o.adds c = if false then 1
      else 0 := by
    rintro c (rfl | rfl) o <;> cases o <;> rfl
  rw [total_eq, total_eq, Exchange.sum_adds_eq_zero _ (by simp) (by simp),
    Exchange.sum_adds_eq_zero _ (by simp) (by simp), Outcome.sum_adds (hzero _ (.inl rfl)),
    Outcome.sum_adds (hzero _ (.inr rfl)), List.countP_false]
  induction wakes past with
  | nil => rfl
  | cons reason reasons ih =>
    simp only [List.map_cons, List.sum_cons, List.length_cons] at ih ⊢
    cases reason <;> simp [WakeReason.adds] at ih ⊢ <;> omega

end Chapter

namespace Engine
open Chapter

variable {e e₀ : Engine} {past : List Chapter}

theorem Story.startEnds (hs : Story e₀ past e) {xs : List Exchange} {connected : Bool}
    (hm : .start xs connected ∈ past) : ∃ e₁ e₂ : Engine, e₁.StartEnds xs e₂ connected := by
  induction hs with
  | new => cases hm
  | @start _ e e' _ _ _ hd ih =>
    rcases List.mem_append.mp hm with hm | hm
    · exact ih hm
    · obtain ⟨rfl, rfl⟩ := Chapter.start.inj (List.mem_singleton.mp hm)
      obtain ⟨_, hn, hends⟩ := hd.startEnds rfl
      obtain rfl := Next.started.inj hn
      exact ⟨e, e', hends⟩
  | wake _ _ ih | cycle _ _ ih =>
    rcases List.mem_append.mp hm with hm | hm
    · exact ih hm
    · cases List.mem_singleton.mp hm

/-- A start is in vain just if the store was never reached. -/
theorem StartEnds.connected_iff {e' : Engine} {xs : List Exchange} {connected : Bool}
    (h : e.StartEnds xs e' connected) : ⟨.connect, .ok ()⟩ ∈ xs ↔ connected = true := by
  cases h with
  | neverConnected => simp [inVain]
  | connected => simp

/-- No counter counts more than the cycles, the wakes, the refused calls or the failed commands. -/
theorem fits_of_lt (ho : (outcomes past).length < 2 ^ 64) (hw : (wakes past).length < 2 ^ 64)
    (hr : total past .storeRetries < 2 ^ 64) (hf : total past .commandFailures < 2 ^ 64) :
    Fits past := by
  intro c
  have hwakes := total_wakes past
  have hsum : ∀ c, c = .unchanged ∨ c = .applies ∨ c = .compileFailures →
      total past c ≤ (outcomes past).length := by
    intro c hc
    rw [total_outcomes past hc]
    exact Outcome.sum_adds_le _ c
  cases c with
  | cycles => rwa [total_cycles]
  | timerWakes | notifiedWakes => omega
  | unchanged => exact (hsum _ (.inl rfl)).trans_lt ho
  | applies => exact (hsum _ (.inr (.inl rfl))).trans_lt ho
  | compileFailures => exact (hsum _ (.inr (.inr rfl))).trans_lt ho
  | storeRetries => exact hr
  | commandFailures => exact hf

/-- The counters of an engine account for all that it has gone through, and those of a daemon that
has ended for its waits. -/
theorem counters_account (h₀ : e₀.stats = {}) :
    (∀ past e, Story e₀ past e → Fits past →
      e.stats.cycles.toNat = (outcomes past).length ∧
      e.stats.cycles.toNat = e.stats.unchanged.toNat + e.stats.applies.toNat +
        e.stats.compileFailures.toNat +
        (outcomes past).countP (· matches .reapplied _) + (outcomes past).countP
          (· matches .cancelled) ∧
      e.stats.unchanged.toNat = (outcomes past).countP (· matches .unchanged) ∧
      e.stats.applies.toNat = (outcomes past).countP (· matches .applied _) ∧
      e.stats.compileFailures.toNat = (outcomes past).countP (· matches .aborted _) ∧
      e.stats.commandFailures.toNat =
        (((talk past).filterMap Exchange.report?).map (·.failures)).sum ∧
      e.stats.storeRetries.toNat = ((talk past).filterMap Exchange.refusal?).length) ∧
    ∀ deeds d, Daemon.Reaches (.start e₀) deeds d → d.hasEnded → ∃ past, Story e₀ past d.engine ∧
      talk past = deeds.filterMap Daemon.Deed.exchange? ∧
      (⟨.connect, .ok ()⟩ ∈ talk past →
        d.engine.stats.cycles = d.engine.stats.timerWakes + d.engine.stats.notifiedWakes + 1 ∧
        (Fits past → d.engine.stats.cycles.toNat =
          d.engine.stats.timerWakes.toNat + d.engine.stats.notifiedWakes.toNat + 1)) ∧
      (⟨.connect, .ok ()⟩ ∉ talk past →
        d.engine.stats.cycles = 0 ∧ d.engine.stats.timerWakes = 0 ∧
          d.engine.stats.notifiedWakes = 0) := by
  constructor
  · intro past e hs hf
    have hget := hs.toNat_get h₀ hf
    have hcycles : e.stats.cycles.toNat = (outcomes past).length :=
      (hget .cycles).trans (total_cycles past)
    have hunchanged : e.stats.unchanged.toNat = (outcomes past).countP (· matches .unchanged) := by
      rw [← Outcome.sum_adds (c := .unchanged) fun o => by cases o <;> rfl,
        ← total_outcomes past (.inl rfl)]
      exact hget .unchanged
    have happlies : e.stats.applies.toNat = (outcomes past).countP (· matches .applied _) := by
      rw [← Outcome.sum_adds (c := .applies) fun o => by cases o <;> rfl,
        ← total_outcomes past (.inr (.inl rfl))]
      exact hget .applies
    have hfailures : e.stats.compileFailures.toNat =
        (outcomes past).countP (· matches .aborted _) := by
      rw [← Outcome.sum_adds (c := .compileFailures) fun o => by cases o <;> rfl,
        ← total_outcomes past (.inr (.inr rfl))]
      exact hget .compileFailures
    refine ⟨hcycles, ?_, hunchanged, happlies, hfailures, ?_, ?_⟩
    · rw [hcycles, hunchanged, happlies, hfailures]
      exact Outcome.length_eq _
    · rw [← Exchange.sum_adds_commandFailures, ← total_calls past (.inr rfl)]
      exact hget .commandFailures
    · rw [← Exchange.sum_adds_storeRetries, ← total_calls past (.inl rfl)]
      exact hget .storeRetries
  · intro deeds d hr he
    obtain ⟨past, hs, htalk, hshape⟩ := hr.story he
    have hget := hs.get_of_fresh h₀
    rcases hshape with ⟨xs, rfl⟩ | hp
    · obtain ⟨e₁, e₂, hends⟩ := hs.startEnds (List.mem_singleton_self _)
      have hnone : ⟨.connect, .ok ()⟩ ∉ talk [.start xs false] := by
        simpa [talk, exchanges] using mt hends.connected_iff.mp
      have hzero : ∀ c, c ≠ .storeRetries → c ≠ .commandFailures → d.engine.stats.get c = 0 := by
        intro c hc hc'
        have hsum : total [.start xs false] c = 0 := by
          simpa [total, adds] using Exchange.sum_adds_eq_zero xs hc hc'
        rw [hget, hsum]
        rfl
      refine ⟨_, hs, htalk, fun h => absurd h hnone, fun _ => ?_⟩
      exact ⟨hzero .cycles (by simp) (by simp), hzero .timerWakes (by simp) (by simp),
        hzero .notifiedWakes (by simp) (by simp)⟩
    · obtain ⟨xs, rest, rfl⟩ := hp.started
      obtain ⟨e₁, e₂, hends⟩ := hs.startEnds (List.mem_cons_self ..)
      have hsome : ⟨.connect, .ok ()⟩ ∈ talk (.start xs true :: rest) :=
        List.mem_append_left _ (hends.connected_iff.mpr rfl)
      have hbalance : total (.start xs true :: rest) .cycles =
          total (.start xs true :: rest) .timerWakes +
              total (.start xs true :: rest) .notifiedWakes + 1 := by
        rw [total_cycles, total_wakes]
        exact hp.balance
      refine ⟨_, hs, htalk, fun _ => ⟨?_, fun hf => ?_⟩, fun h => absurd hsome h⟩
      · refine (hget .cycles).trans ?_
        rw [hbalance, Nat.toUInt64_eq, UInt64.ofNat_add, UInt64.ofNat_add]
        exact congrArg₂ (· + · + 1) (hget .timerWakes).symm (hget .notifiedWakes).symm
      · have hfits := hs.toNat_get h₀ hf
        rw [← hfits, ← hfits, ← hfits] at hbalance
        exact hbalance

section Counted
open Daemon

def freshEngine : Engine :=
  .new (.inDir "maps") (.ofSeconds 60) (.new (.ofSeconds 1) (.ofSeconds 30))

def firstReport : WriteReport := MapWriter.report (.inDir "maps") (compile Course.literalRule)

/-- A start and a cycle of an engine whose store refuses the first call to connect and the first two
for the fingerprint. -/
def refusedTale : List Chapter :=
  [.start [⟨.connect, .error StandInStore.outage⟩, ⟨.connect, .ok ()⟩, ⟨.probe, true⟩] true,
    .cycle .startup
      [⟨.fingerprint .startup, .error StandInStore.outage⟩,
        ⟨.fingerprint .startup, .error StandInStore.outage⟩, ⟨.fingerprint .startup, .ok ⟨1, none⟩⟩,
        ⟨.entries ⟨1, none⟩, .ok Course.literalRule⟩, ⟨.write ⟨1, none⟩ Course.literalRule,
          .ok firstReport⟩, ⟨.apply ⟨1, none⟩ 1 firstReport, ⟨[], .done⟩⟩]
      (.applied ⟨⟨1, none⟩, 1, firstReport, 0⟩)]

theorem story_refusedTale : ∃ e, Story freshEngine refusedTale e :=
  ⟨_, (Story.new.start (.ask (.resume (.ask (.ask (.still ..)))))).cycle
    (.ask (.resume (.ask (.resume (.ask (.ask (.ask (.ask (.still ..)))))))))⟩

theorem fits_refusedTale : Fits refusedTale := by
  refine fits_of_lt ?_ ?_ ?_ ?_ <;> decide

/-- The daemon is stopped while its first fingerprint is refused. -/
theorem counters_account_of_refusedTale :
    (∃ e, Story freshEngine refusedTale e ∧ e.stats.storeRetries.toNat = 3 ∧
      e.stats.cycles.toNat = 1 ∧ e.stats.applies.toNat = 1) ∧
    ∃ deeds d, Reaches (.start freshEngine) deeds d ∧ d.hasEnded ∧
      d.engine.stats.cycles = d.engine.stats.timerWakes + d.engine.stats.notifiedWakes + 1 := by
  constructor
  · obtain ⟨e, hstory⟩ := story_refusedTale
    obtain ⟨hcycles, -, -, happlies, -, -, hretries⟩ :=
      (counters_account rfl).1 refusedTale e hstory fits_refusedTale
    have hrefusals : ((talk refusedTale).filterMap Exchange.refusal?).length = 3 := rfl
    exact ⟨e, hstory, hretries.trans hrefusals, hcycles, happlies⟩
  · let connected : Exchange := ⟨.connect, .ok ()⟩
    let probed : Exchange := ⟨.probe, true⟩
    let refused : Exchange := ⟨.fingerprint .startup, .error StandInStore.outage⟩
    have hconnected : Reaches (.start freshEngine) [.reply connected] _ :=
      .step .start (.reply connected.reply rfl)
    have hprobed : Reaches (.start freshEngine) [.reply connected, .reply probed] _ :=
      hconnected.step (.reply probed.reply rfl)
    have hrefused : Reaches (.start freshEngine) [.reply connected, .reply probed,
        .reply refused] _ :=
      hprobed.step (.reply refused.reply rfl)
    have hended := (hrefused.step .cancel).step (.stir rfl)
    obtain ⟨past, -, htalk, hstarted, -⟩ := (counters_account rfl).2 _ _ hended rfl
    have hm : connected ∈ talk past := by
      rw [htalk]
      exact List.mem_cons_self ..
    exact ⟨_, _, hended, rfl, (hstarted hm).1⟩

end Counted

end Engine
end BlocklistSync
