import BlocklistSync.Proofs.Engine.Cycles

/-! When maps are rewritten: as often as the store shows another fingerprint than that of the maps
applied last, and never otherwise. What is on disk before the first cycle plays no part. -/
namespace BlocklistSync.Course

variable {h : History} {c c' : Course}

namespace Life

/-- Once maps are applied without a failure, cycles that find the same fingerprint do nothing. -/
theorem all_unchanged {more : List (Cycle h)} {found : Fingerprint} (hm : Life h c more c')
    (hs : c.next.isIdle) (hl : c.engine.lastApplied = some found)
    (hp : c.engine.applyPending = false) (hf : ∀ k ∈ more, found ∈ k.obtained) :
    c'.engine.lastApplied = some found ∧ c'.engine.applyPending = false ∧
      ∀ k ∈ more, k.outcome = .unchanged ∧ k.reports = [] ∧ k.LeavesMaps := by
  induction hm with
  | new => exact ⟨hl, hp, by simp⟩
  | meanwhile hpast he ht _ ih =>
    obtain ⟨hl₁, hp₁, hall⟩ := ih hf
    obtain ⟨hl₂, hp₂⟩ := between_of_trace? ht he (Next.isBetween_of_isIdle (hpast.isIdle hs))
    exact ⟨hl₂.trans hl₁, hp₂.trans hp₁, hall⟩
  | @cycle cycles k _ ih =>
    obtain ⟨hl₁, hp₁, hall⟩ := ih fun k hk => hf k (by simp [hk])
    have hobtained : found ∈ k.obtained := hf k (by simp)
    have ho : k.outcome = .unchanged := k.cycleEnds.eq_unchanged hobtained hl₁ hp₁
    have hr : k.reports = [] := by
      by_contra hr
      rcases (k.cycleEnds.reports_ne_nil_iff hobtained).mp hr with ⟨hne, -⟩ | ⟨-, -, hpending⟩
      · exact hne hl₁
      · simp [hp₁] at hpending
    refine ⟨?_, ?_, List.forall_mem_append.mpr ⟨hall,
      by simpa using ⟨ho, hr, k.leavesMaps hobtained hl₁⟩⟩⟩
    · rw [k.cycleEnds.lastApplied, ho]
      exact hl₁
    · have hpending := k.cycleEnds.applyPending
      rw [show k.exchanges.filterMap Exchange.report? = [] from hr] at hpending
      exact hpending.trans hp₁

end Life

/-- A cycle goes to the maps just if the fingerprint is another one than that of the last cycle that
applied its maps, or there is no such cycle yet. A write is left out only if the cycle is given up
while the entries are fetched. -/
theorem rewrites_iff {paths : MapPaths} {interval : Duration} {backoff : Backoff} {t : FileTree}
    {past : List (Cycle h)} (hl : Life h (.new paths interval backoff t) past c) :
    c.engine.lastApplied = lastFingerprint? past ∧
    (∀ k ∈ past, ∀ found, k.outcome.applied? = some found → k.obtained = [found]) ∧
    (∀ k : Cycle h, k.before = c → ∀ found ∈ k.obtained,
      (k.fetches ↔ lastFingerprint? past ≠ some found) ∧
      (k.attemptsWrite ↔ lastFingerprint? past ≠ some found ∧ k.outcome ≠ .cancelled) ∧
      (lastFingerprint? past = some found → k.LeavesMaps)) ∧
    (∀ k : Cycle h, k.before = c → lastFingerprint? past = none →
      k.outcome ≠ .unchanged ∧ ∀ failures, k.outcome ≠ .reapplied failures) ∧
    (∀ last ∈ past.getLast?, ∀ found, last.outcome.applied? = some found →
      (∀ report ∈ last.reports, report.isSuccess) →
      ∀ more c', Life h c more c' → (∀ k ∈ more, found ∈ k.obtained) →
        ∀ k ∈ more, k.outcome = .unchanged ∧ k.reports = [] ∧ k.LeavesMaps) := by
  have hlast : c.engine.lastApplied = lastFingerprint? past := by
    simpa [new, Engine.new] using hl.lastApplied rfl
  refine ⟨hlast, fun k _ found ho => (k.cycleEnds.of_applied ho).1, ?_, ?_, ?_⟩
  · rintro k rfl found hf
    rw [← hlast]
    exact ⟨k.cycleEnds.fetches_iff hf, k.cycleEnds.attemptsWrite_iff hf, k.leavesMaps hf⟩
  · rintro k rfl hnone
    have hnever : ¬ k.before.engine.lastApplied.isSome := by simp [hlast, hnone]
    exact ⟨fun ho => hnever (k.cycleEnds.isSome_lastApplied (.inl ho)),
      fun failures ho => hnever (k.cycleEnds.isSome_lastApplied (.inr ⟨failures, ho⟩))⟩
  · intro last hmem found ho hsuccess more c' hm hf
    obtain ⟨-, report, hreport⟩ := last.cycleEnds.of_applied ho
    have happlied : c.engine.lastApplied = some found :=
      hlast.trans (lastFingerprint?_of_mem_getLast? hmem ho)
    have hnone : report.failures = 0 := by
      simpa [ApplyReport.isSuccess] using hsuccess report (by simp [Cycle.reports, hreport])
    have hpending : c.engine.applyPending = false := by
      rw [hl.applyPending rfl, lastReport?_of_mem_getLast? hmem hreport]
      simp [hnone]
    exact (hm.all_unchanged (hl.isIdle rfl) happlied hpending hf).2.2

section Resumed

def abortedThenApplied : List (WakeReason × List Event) :=
  [(.startup, [.serve, .serve, .write secondRenameFails]),
    (.timer, [.serve, .refuse (.storeUnavailable "outage"), .resume, .serve,
      .write MapWriter.noFaults, .apply ⟨[], .done⟩])]

theorem rewrites_iff_of_abortedThenApplied :
    ∃ (past more : List (Cycle fun _ => .ofEntries literalRule))
    (c c' : Course), Life _ firstCourse past c ∧ Life _ c more c' ∧ more.length = 2 ∧
    c.engine.lastApplied = lastFingerprint? past ∧
    ∀ k ∈ more, k.outcome = .unchanged ∧ k.reports = [] ∧ k.LeavesMaps := by
  let h : History := fun _ => .ofEntries literalRule
  let found := (Snapshot.ofEntries literalRule).fingerprint
  have hrun : (live? h abortedThenApplied firstCourse).any (fun p =>
      p.1.getLast?.any (fun last => last.outcome.applied? = some found ∧ ∀ report ∈ last.reports,
        report.isSuccess) ∧
      (live? h [(.notified, [.serve]), (.timer, [.serve])] p.2).any fun q =>
        q.1.length = 2 ∧ ∀ k ∈ q.1, found ∈ k.obtained) = true := by
    decide +kernel
  obtain ⟨⟨past, c⟩, hpast, hrun⟩ := (Option.any_eq_true ..).mp hrun
  obtain ⟨hlast, hmore⟩ := of_decide_eq_true hrun
  obtain ⟨last, hmem, hlast⟩ := (Option.any_eq_true ..).mp hlast
  obtain ⟨happlied, hsuccess⟩ := of_decide_eq_true hlast
  obtain ⟨⟨more, c'⟩, hmore, hrun⟩ := (Option.any_eq_true ..).mp hmore
  obtain ⟨hlength, hf⟩ := of_decide_eq_true hrun
  have hl := life_of_live? hpast
  have hm := life_of_live? hmore
  obtain ⟨hlast, -, -, -, hquiet⟩ := rewrites_iff hl
  exact ⟨past, more, c, c', hl, hm, hlength, hlast,
    hquiet last hmem found happlied hsuccess more c' hm hf⟩

/-- An engine that has applied nothing yet writes nothing either, if it is given up when the store
has shown its fingerprint and refuses the entries. -/
theorem exists_unwritten_at_cancelled : ∃ k : Cycle fun _ => .ofEntries literalRule,
    Life (fun _ => .ofEntries literalRule) firstCourse [] k.before ∧ k.outcome = .cancelled ∧
      ∃ found ∈ k.obtained,
      k.before.engine.lastApplied ≠ some found ∧ k.fetches ∧ ¬ k.attemptsWrite := by
  let found := (Snapshot.ofEntries literalRule).fingerprint
  have hrun : (cycle? (fun _ => .ofEntries literalRule) firstCourse .startup
      [.serve, .refuse (.storeUnavailable "outage"), .giveUp]).any (fun k =>
        k.outcome = .cancelled ∧ found ∈ k.obtained ∧ k.fetches ∧ ¬ k.attemptsWrite) = true := by
    decide +kernel
  obtain ⟨k, hk, hrun⟩ := (Option.any_eq_true ..).mp hrun
  obtain ⟨hcancelled, hf, hfetches, hwrite⟩ := of_decide_eq_true hrun
  have hbefore := (of_cycle? hk).1
  have hnone : k.before.engine.lastApplied ≠ some found := by
    rw [hbefore]
    exact (Option.some_ne_none found).symm
  exact ⟨k, hbefore ▸ .new, hcancelled, found, hf, hnone, hfetches, hwrite⟩

end Resumed

end BlocklistSync.Course
