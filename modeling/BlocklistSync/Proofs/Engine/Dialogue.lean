import BlocklistSync.Proofs.Backoff.Delays
import BlocklistSync.Proofs.Engine.Provenance

/-! What the engine asks in one start or one cycle and what it hears, whatever that is. A cycle can
go in six ways only, and each of them fixes the requests that are made, what the cycle makes of the
engine, and its outcome. -/
namespace BlocklistSync

/-- A request of the engine and the reply to it. -/
structure Exchange where
  request : Request
  reply : request.Reply

namespace Exchange

def refusal? : Exchange → Option Fault
  | ⟨.connect, .error f⟩ | ⟨.fingerprint _, .error f⟩ | ⟨.entries _, .error f⟩ => some f
  | ⟨.connect, .ok _⟩ | ⟨.fingerprint _, .ok _⟩ | ⟨.entries _, .ok _⟩ => none
  | ⟨.probe, _⟩ | ⟨.write _ _, _⟩ | ⟨.apply _ _ _, _⟩ | ⟨.reapply, _⟩ => none

def found? : Exchange → Option Fingerprint
  | ⟨.fingerprint _, .ok found⟩ => some found
  | ⟨.fingerprint _, .error _⟩ | ⟨.connect, _⟩ | ⟨.probe, _⟩ | ⟨.entries _, _⟩ => none
  | ⟨.write _ _, _⟩ | ⟨.apply _ _ _, _⟩ | ⟨.reapply, _⟩ => none

def report? : Exchange → Option ApplyReport
  | ⟨.apply _ _ _, report⟩ | ⟨.reapply, report⟩ => some report
  | ⟨.connect, _⟩ | ⟨.probe, _⟩ | ⟨.fingerprint _, _⟩ | ⟨.entries _, _⟩ | ⟨.write _ _, _⟩ => none

def fetches (x : Exchange) : Bool := x.request matches .entries _

def attemptsWrite (x : Exchange) : Bool := x.request matches .write _ _

def writes : Exchange → Bool
  | ⟨.write _ _, .ok _⟩ => true
  | ⟨.write _ _, .error _⟩ | ⟨.connect, _⟩ | ⟨.probe, _⟩ | ⟨.fingerprint _, _⟩ | ⟨.entries _, _⟩ =>
    false
  | ⟨.apply _ _ _, _⟩ | ⟨.reapply, _⟩ => false

end Exchange

namespace Stats

def addStoreRetries (s : Stats) (n : ℕ) : Stats :=
  { s with storeRetries := s.storeRetries + n.toUInt64 }

@[simp] theorem addStoreRetries_zero (s : Stats) : s.addStoreRetries 0 = s := by
  simp [addStoreRetries]

theorem addStoreRetries_addStoreRetries (s : Stats) (m n : ℕ) :
    (s.addStoreRetries m).addStoreRetries n = s.addStoreRetries (m + n) := by
  simp [addStoreRetries, UInt64.add_assoc]

theorem addStoreRetry_addStoreRetries (s : Stats) (n : ℕ) :
    s.addStoreRetry.addStoreRetries n = s.addStoreRetries (n + 1) := by
  rw [Nat.add_comm, ← addStoreRetries_addStoreRetries]
  rfl

end Stats

def Outcome.applied? : Outcome → Option Fingerprint
  | .applied summary => some summary.fingerprint
  | .unchanged | .reapplied _ | .aborted _ | .cancelled => none

namespace Engine

@[simp] theorem prepare_applyPending (e : Engine) (found : Fingerprint) (entries : List Entry) :
    (e.prepare found entries).engine.applyPending = e.applyPending := by
  unfold prepare
  dsimp only
  split <;> rfl

theorem prepare_backoff (e : Engine) (found : Fingerprint) (entries : List Entry) :
    (e.prepare found entries).engine.backoff = e.backoff := by
  unfold prepare
  dsimp only
  split <;> rfl

/-- After store calls that were refused, one after another. -/
def afterRefusals (e : Engine) (n : ℕ) : Engine :=
  { e with backoff := Backoff.failed^[n] e.backoff, stats := e.stats.addStoreRetries n }

def retried (e : Engine) (n : ℕ) : Engine := { e with stats := e.stats.addStoreRetries n }

@[simp] theorem afterRefusals_zero (e : Engine) : e.afterRefusals 0 = e := by
  simp [afterRefusals]

theorem refused_afterRefusals (e : Engine) (what : String) (request : Request) (f : Fault) (n : ℕ) :
    (e.refused what request f).engine.afterRefusals n = e.afterRefusals (n + 1) := by
  simp [refused, afterRefusals, Stats.addStoreRetry_addStoreRetries]

/-- Once a call is served, only the counter tells of the refusals before it. -/
@[simp] theorem served_afterRefusals (e : Engine) (n : ℕ) :
    (e.afterRefusals n).served = e.served.retried n := by
  simp [afterRefusals, served, retried]

/-- The engine in one state, about to do one thing, gets by these exchanges to another. -/
inductive Dialogue : Engine → Next → List Exchange → Engine → Next → Prop
  | still (e : Engine) (next : Next) : Dialogue e next [] e next
  | ask {e e' : Engine} {request : Request} {reply : request.Reply} {xs : List Exchange}
    {next' : Next}
      (rest : Dialogue (e.receive request reply).engine (e.receive request reply).next xs e'
        next') :
      Dialogue e (.ask request) (⟨request, reply⟩ :: xs) e' next'
  | resume {e e' : Engine} {delay : Duration} {request : Request} {xs : List Exchange}
    {next' : Next}
      (rest : Dialogue e (.ask request) xs e' next') : Dialogue e (.pause delay request) xs e' next'
  | giveUp {e e' : Engine} {delay : Duration} {request : Request} {xs : List Exchange}
    {next' : Next}
      (rest : Dialogue e (.cancelled request) xs e' next') :
        Dialogue e (.pause delay request) xs e' next'

/-- A store call is made again and again, and always refused. -/
def inVain (request : Request) (refusal : Fault → request.Reply) (faults : List Fault) :
    List Exchange :=
  faults.map (⟨request, refusal ·⟩)

namespace Dialogue

variable {e e' : Engine} {next next' : Next} {xs : List Exchange}

theorem of_isIdle (hd : Dialogue e next xs e' next') (hn : next.isIdle) :
    xs = [] ∧ e' = e ∧ next' = next := by
  cases hd with
  | still => exact ⟨rfl, rfl, rfl⟩
  | ask | resume | giveUp => cases hn

theorem isIdle_cancelled (request : Request) : (Next.cancelled request).isIdle := by
  cases request <;> rfl

/-- A store call is refused a number of times; then it is given up, or it is served. -/
theorem tries (request : Request) (what : String) (refusal : Fault → request.Reply)
    (hr : ∀ (e : Engine) f, e.receive request (refusal f) = e.refused what request f)
    (hd : Dialogue e (.ask request) xs e' next') (hi : next'.isIdle) :
    ∃ faults : List Fault,
      (faults ≠ [] ∧ xs = inVain request refusal faults ∧ e' = e.afterRefusals faults.length ∧
        next' = .cancelled request) ∨
      ∃ reply rest, (∀ f, reply ≠ refusal f) ∧
        xs = inVain request refusal faults ++ ⟨request, reply⟩ :: rest ∧
        Dialogue ((e.afterRefusals faults.length).receive request reply).engine
          ((e.afterRefusals faults.length).receive request reply).next rest e' next' := by
  -- On the number of exchanges, as the pause between two tries leaves none behind.
  induction hl : xs.length generalizing e xs with
  | zero =>
    obtain rfl := List.length_eq_zero_iff.mp hl
    cases hd with
    | still => cases hi
  | succ n ih =>
    cases hd with
    | still => cases hi
    | @ask _ _ _ reply rest _ hrest =>
      by_cases hf : ∃ f, reply = refusal f
      · obtain ⟨f, rfl⟩ := hf
        rw [hr] at hrest
        cases hrest with
        | still => cases hi
        | resume hagain =>
          obtain ⟨faults, h⟩ := ih hagain (by simpa using hl)
          refine ⟨f :: faults, ?_⟩
          simp only [refused_afterRefusals] at h
          rcases h with ⟨-, rfl, he, hn⟩ | ⟨reply, rest, hreply, rfl, h⟩
          · exact .inl ⟨by simp, rfl, he, hn⟩
          · exact .inr ⟨reply, rest, hreply, rfl, h⟩
        | giveUp hend =>
          obtain ⟨rfl, rfl, rfl⟩ := hend.of_isIdle (isIdle_cancelled request)
          exact ⟨[f], .inl ⟨by simp, rfl, by simpa using refused_afterRefusals e what request f 0,
            rfl⟩⟩
      · exact ⟨[], .inr ⟨reply, rest, by simpa using hf, rfl, by simpa using hrest⟩⟩

end Dialogue

/-- In a cycle, once it has the fingerprint for which it had to ask again `n` times. -/
def compared (e : Engine) (n : ℕ) : Engine := e.beginCycle.served.retried n

/-- In a cycle, once it has made maps of the entries for which it had to ask again `n` times. -/
def prepared (e : Engine) (n : ℕ) (found : Fingerprint) (entries : List Entry) : Engine :=
  ((e.served.retried n).prepare found entries).engine

def comparing (reason : WakeReason) (faults : List Fault) (found : Fingerprint) : List Exchange :=
  inVain (.fingerprint reason) .error faults ++ [⟨.fingerprint reason, .ok found⟩]

def fetching (found : Fingerprint) (faults : List Fault) (entries : List Entry) : List Exchange :=
  inVain (.entries found) .error faults ++ [⟨.entries found, .ok entries⟩]

section Observed
open Exchange

variable (reason : WakeReason) (found : Fingerprint) (faults : List Fault) (entries : List Entry)

@[simp] theorem reports_inVain_fingerprint :
    (inVain (.fingerprint reason) .error faults).filterMap report? = [] := by
  simp [inVain, report?]

@[simp] theorem reports_inVain_entries :
    (inVain (.entries found) .error faults).filterMap report? = [] := by
  simp [inVain, report?]

@[simp] theorem reports_comparing : (comparing reason faults found).filterMap report? = [] := by
  simp [comparing, report?]

@[simp] theorem reports_fetching : (fetching found faults entries).filterMap report? = [] := by
  simp [fetching, report?]

@[simp] theorem obtained_comparing :
    (comparing reason faults found).filterMap found? = [found] := by
  simp [comparing, inVain, found?, Function.comp_def]

@[simp] theorem obtained_fetching : (fetching found faults entries).filterMap found? = [] := by
  simp [fetching, inVain, found?]

end Observed

/-- The ways that a cycle can go: what is exchanged, what becomes of the engine, and the outcome. -/
inductive CycleEnds (e : Engine) (reason : WakeReason) : List Exchange → Engine → Outcome → Prop
  | neverCompared {faults : List Fault} (hf : faults ≠ []) :
    CycleEnds e reason (inVain (.fingerprint reason) .error faults)
      (e.beginCycle.afterRefusals faults.length)
      .cancelled
  | unchanged {faults : List Fault} {found : Fingerprint} (hl : e.lastApplied = some found)
    (hp : e.applyPending → reason ≠ .notified) :
    CycleEnds e reason (comparing reason faults found)
      { e.compared faults.length with stats := (e.compared faults.length).stats.addUnchanged }
        .unchanged
  | reapplied {faults : List Fault} {found : Fingerprint} (hl : e.lastApplied = some found)
    (hp : e.applyPending) (hr : reason = .notified) (report : ApplyReport) :
    CycleEnds e reason (comparing reason faults found ++ [⟨.reapply, report⟩])
      ((e.compared faults.length).handedOver report) (.reapplied report.failures)
  | neverFetched {faults faults' : List Fault} {found : Fingerprint}
    (hl : e.lastApplied ≠ some found) (hf : faults' ≠ []) :
    CycleEnds e reason (comparing reason faults found ++ inVain (.entries found) .error faults')
      ((e.compared faults.length).afterRefusals faults'.length) .cancelled
  | aborted {faults faults' : List Fault} {found : Fingerprint} {entries : List Entry}
    (hl : e.lastApplied ≠ some found) (f : Fault) :
    CycleEnds e reason
      (comparing reason faults found ++ fetching found faults' entries ++
        [⟨.write found entries, .error f⟩])
      (((e.compared faults.length).prepared faults'.length found entries).abort f).engine
        (.aborted f)
  | applied {faults faults' : List Fault} {found : Fingerprint} {entries : List Entry}
    (hl : e.lastApplied ≠ some found) (written : WriteReport) (report : ApplyReport) :
    CycleEnds e reason
      (comparing reason faults found ++ fetching found faults' entries ++
        [⟨.write found entries, .ok written⟩, ⟨.apply found entries.length written, report⟩])
      (((e.compared faults.length).prepared faults'.length found entries).conclude found
        entries.length written
        report).engine
      (.applied ⟨found, entries.length, written, report.failures⟩)

namespace Dialogue

variable {e e' : Engine} {reason : WakeReason} {found : Fingerprint} {xs : List Exchange}
  {next' : Next}

theorem eq_of_finished {o : Outcome} (hd : Dialogue e (.finished o) xs e' next') :
    xs = [] ∧ e' = e ∧ next' = .finished o := hd.of_isIdle rfl

/-- Once the entries are obtained, the maps are written, and handed over if that worked. -/
theorem afterFetch {entries : List Entry}
    (hd : Dialogue e (.ask (.write found entries)) xs e' next') (hi : next'.isIdle) :
    (∃ f, xs = [⟨.write found entries, .error f⟩] ∧ e' = (e.abort f).engine ∧
      next' = .finished (.aborted f)) ∨
    ∃ written report, xs = [⟨.write found entries, .ok written⟩,
      ⟨.apply found entries.length written, report⟩] ∧
      e' = (e.conclude found entries.length written report).engine ∧
      next' = .finished (.applied ⟨found, entries.length, written, report.failures⟩) := by
  cases hd with
  | still => cases hi
  | @ask _ _ _ reply rest _ hwritten =>
    cases reply with
    | error f =>
      obtain ⟨rfl, rfl, rfl⟩ := hwritten.eq_of_finished
      exact .inl ⟨f, rfl, rfl, rfl⟩
    | ok written =>
      cases hwritten with
      | still => cases hi
      | @ask _ _ _ report rest _ happlied =>
        obtain ⟨rfl, rfl, rfl⟩ := happlied.eq_of_finished
        exact .inr ⟨written, report, rfl, rfl, rfl⟩

theorem cycleEnds (hd : Dialogue e.beginCycle (.ask (.fingerprint reason)) xs e' next')
    (hi : next'.isIdle) :
    ∃ o, next' = .finished o ∧ e.CycleEnds reason xs e' o := by
  obtain ⟨faults, ⟨hf, rfl, rfl, rfl⟩ | ⟨_ | found, rest, hreply, rfl, hserved⟩⟩ :=
    hd.tries (.fingerprint reason) fingerprintName .error (fun _ _ => rfl) hi
  · exact ⟨_, rfl, .neverCompared hf⟩
  · exact absurd rfl (hreply _)
  have hcompare : Dialogue ((e.compared faults.length).compareFingerprint reason found).engine
      ((e.compared faults.length).compareFingerprint reason found).next rest e' next' := by
    simpa only [receive, served_afterRefusals, compared] using hserved
  -- With the fingerprint known, the cycle is over unless the maps are to be handed over again.
  by_cases hl : e.lastApplied = some found
  · by_cases hp : e.applyPending ∧ reason = .notified
    · have hstep : (e.compared faults.length).compareFingerprint reason found =
          ⟨e.compared faults.length, .ask .reapply, [reapplyLine]⟩ := by
        simp [compareFingerprint, compared, retried, served, beginCycle, hl, hp]
      rw [hstep] at hcompare
      cases hcompare with
      | still => cases hi
      | @ask _ _ _ report rest _ hagain =>
        obtain ⟨rfl, rfl, rfl⟩ := hagain.eq_of_finished
        exact ⟨_, rfl, by simpa [comparing, receive] using CycleEnds.reapplied hl hp.1 hp.2 report⟩
    · have hstep : (e.compared faults.length).compareFingerprint reason found =
          ⟨{ e.compared faults.length with stats := (e.compared faults.length).stats.addUnchanged },
            .finished .unchanged, []⟩ := by
        simp [compareFingerprint, compared, retried, served, beginCycle, hl, hp]
      rw [hstep] at hcompare
      obtain ⟨rfl, rfl, rfl⟩ := hcompare.eq_of_finished
      exact ⟨_, rfl, .unchanged hl fun hpending hreason => hp ⟨hpending, hreason⟩⟩
  have hstep : (e.compared faults.length).compareFingerprint reason found =
      ⟨e.compared faults.length, .ask (.entries found), []⟩ := by
    simp [compareFingerprint, compared, retried, served, beginCycle, hl]
  rw [hstep] at hcompare
  obtain ⟨faults', ⟨hf, rfl, rfl, rfl⟩ | ⟨_ | entries, rest, hreply, rfl, hfetched⟩⟩ :=
    hcompare.tries (.entries found) entriesName .error (fun _ _ => rfl) hi
  · exact ⟨_, rfl, by simpa [comparing] using CycleEnds.neverFetched hl hf⟩
  · exact absurd rfl (hreply _)
  have hprepare : Dialogue ((e.compared faults.length).prepared faults'.length found entries)
      (.ask (.write found entries)) rest e' next' := by
    simpa only [receive, served_afterRefusals, prepare_next, prepared] using hfetched
  rcases hprepare.afterFetch hi with ⟨f, rfl, rfl, rfl⟩ | ⟨written, report, rfl, rfl, rfl⟩
  · exact ⟨_, rfl, by simpa [comparing, fetching] using CycleEnds.aborted hl f⟩
  · exact ⟨_, rfl, by simpa [comparing, fetching] using CycleEnds.applied hl written report⟩

end Dialogue

namespace CycleEnds
open Exchange

variable {e e' : Engine} {reason : WakeReason} {found : Fingerprint} {xs : List Exchange}
  {o : Outcome}

/-- The fingerprint that counts as applied is that of the cycle if it applied its maps, else the one
before. -/
theorem lastApplied (hc : e.CycleEnds reason xs e' o) :
    e'.lastApplied = o.applied?.or e.lastApplied := by
  cases hc with
  | aborted => exact (prepare_engine ..).2
  | neverCompared | unchanged | reapplied | neverFetched | applied => rfl

theorem applyPending (hc : e.CycleEnds reason xs e' o) :
    e'.applyPending = ((xs.filterMap report?).getLast?.map fun r => decide (0 < r.failures)).getD
      e.applyPending := by
  cases hc with
  | aborted =>
    simp [List.filterMap_cons, report?, abort, prepared, compared, retried, served, beginCycle]
  | neverCompared | unchanged | neverFetched =>
    simp [afterRefusals, compared, retried, served, beginCycle]
  | reapplied => simp [report?, handedOver]
  | applied => simp [List.filterMap_cons, report?, conclude, handedOver]

theorem refused_of_cancelled (hc : e.CycleEnds reason xs e' .cancelled) :
    xs.filterMap refusal? ≠ [] := by
  cases hc with
  | neverCompared hf => simpa [inVain, refusal?, Function.comp_def] using hf
  | @neverFetched _ _ found _ hf =>
    obtain ⟨fault, hfault⟩ := List.exists_mem_of_ne_nil _ hf
    exact List.ne_nil_of_mem
      (List.mem_filterMap.mpr ⟨⟨.entries found, .error fault⟩, by simp [inVain, hfault], rfl⟩)

theorem backoff (hc : e.CycleEnds reason xs e' o) (ho : o ≠ .cancelled) :
    e'.backoff = e.backoff.reset := by
  cases hc with
  | neverCompared | neverFetched => exact absurd rfl ho
  | unchanged | reapplied => rfl
  | aborted => exact prepare_backoff ..
  | applied => exact prepare_backoff ..

theorem length_reports_le (hc : e.CycleEnds reason xs e' o) :
    (xs.filterMap report?).length ≤ 1 := by
  cases hc <;> simp [List.filterMap_cons, report?]

theorem fetches_iff (hc : e.CycleEnds reason xs e' o) (hf : found ∈ xs.filterMap found?) :
    xs.any fetches ↔ e.lastApplied ≠ some found := by
  cases hc with
  | neverFetched hl hfaults =>
    obtain rfl := by simpa [comparing, inVain, found?] using hf
    simp [comparing, inVain, fetches, hl, List.exists_mem_of_ne_nil _ hfaults]
  | neverCompared | unchanged | reapplied | aborted | applied =>
    simp_all [comparing, fetching, inVain, found?, fetches]

theorem attemptsWrite_iff (hc : e.CycleEnds reason xs e' o) (hf : found ∈ xs.filterMap found?) :
    xs.any attemptsWrite ↔ e.lastApplied ≠ some found ∧ o ≠ .cancelled := by
  cases hc <;> simp_all [comparing, fetching, inVain, found?, attemptsWrite]

/-- The mail server is called after a write, and once more on request if maps are pending. -/
theorem reports_ne_nil_iff (hc : e.CycleEnds reason xs e' o) (hf : found ∈ xs.filterMap found?) :
    xs.filterMap report? ≠ [] ↔ (e.lastApplied ≠ some found ∧ xs.any writes) ∨
      (e.lastApplied = some found ∧ reason = .notified ∧ e.applyPending) := by
  cases hc with
  | neverCompared => simp [inVain, found?] at hf
  | unchanged hl hp =>
    have hquiet : ¬ (reason = .notified ∧ e.applyPending) := fun h => hp h.2 h.1
    obtain rfl := by simpa [comparing, inVain, found?] using hf
    simp [hl, hquiet]
  | reapplied hl hp hr =>
    obtain rfl := by simpa [comparing, inVain, found?] using hf
    simp [report?, hl, hp, hr]
  | neverFetched hl =>
    obtain rfl := by simpa [comparing, inVain, found?] using hf
    simp [hl, comparing, inVain, report?, writes]
  | aborted hl =>
    obtain rfl := by simpa [comparing, fetching, inVain, found?] using hf
    simp [List.filterMap_cons, report?, hl, comparing, fetching, inVain, writes]
  | applied hl =>
    obtain rfl := by simpa [comparing, fetching, inVain, found?] using hf
    simp [List.filterMap_cons, report?, hl, comparing, fetching, inVain, writes]

theorem obtained_ne_nil (hc : e.CycleEnds reason xs e' o) (hr : xs.filterMap report? ≠ []) :
    xs.filterMap found? ≠ [] := by
  cases hc with
  | neverCompared => simp at hr
  | unchanged | reapplied | neverFetched | aborted | applied => simp

/-- Only cycles that tell of it have called the mail server. -/
theorem outcome_of_reports (hc : e.CycleEnds reason xs e' o) (hr : xs.filterMap report? ≠ []) :
    (∃ summary, o = .applied summary) ∨ ∃ failures, o = .reapplied failures := by
  cases hc with
  | reapplied => exact .inr ⟨_, rfl⟩
  | applied => exact .inl ⟨_, rfl⟩
  | neverCompared | unchanged | neverFetched => simp at hr
  | aborted => simp [List.filterMap_cons, report?] at hr

/-- A cycle can be idle only over maps that the engine has applied. -/
theorem isSome_lastApplied (hc : e.CycleEnds reason xs e' o)
    (ho : o = .unchanged ∨ ∃ failures, o = .reapplied failures) : e.lastApplied.isSome := by
  cases hc with
  | unchanged hl | reapplied hl => simp [hl]
  | neverCompared | neverFetched | aborted | applied => simp at ho

theorem eq_unchanged (hc : e.CycleEnds reason xs e' o) (hf : found ∈ xs.filterMap found?)
    (hl : e.lastApplied = some found) (hp : e.applyPending = false) : o = .unchanged := by
  cases hc <;> simp_all [comparing, fetching, inVain, found?]

/-- Maps are applied under the fingerprint that the cycle was told, and handed over once. -/
theorem of_applied (hc : e.CycleEnds reason xs e' o) (ho : o.applied? = some found) :
    xs.filterMap found? = [found] ∧ ∃ report, xs.filterMap report? = [report] := by
  cases hc with
  | applied =>
    obtain rfl := Option.some.inj ho
    simp [List.filterMap_cons, found?, report?]
  | neverCompared | unchanged | reapplied | neverFetched | aborted => cases ho

/-- A forced refresh with maps pending gets to the mail server if the cycle is not given up and no
write fails. -/
theorem reports_ne_nil_of_notified (hc : e.CycleEnds .notified xs e' o) (hp : e.applyPending)
    (ho : o ≠ .cancelled) (hw : ∀ f, o ≠ .aborted f) : xs.filterMap report? ≠ [] := by
  cases hc with
  | neverCompared | neverFetched => exact absurd rfl ho
  | aborted _ f => exact absurd rfl (hw f)
  | unchanged _ hquiet => exact absurd rfl (hquiet hp)
  | reapplied => simp [report?]
  | applied => simp [List.filterMap_cons, report?]

end CycleEnds
end Engine
end BlocklistSync
