import BlocklistSync.Proofs.Engine.Rewriting

/-! When failed commands of the mail server are repeated: with the next change, or on request. The
engine keeps one bit of what the mail server said last. -/
namespace BlocklistSync

/-- All that handing over the maps consists of. -/
def ApplyReport.steps (r : ApplyReport) : List StepOutcome := r.indexing.map (·.2) ++ [r.reload]

theorem ApplyReport.failures_eq_countP (r : ApplyReport) :
    r.failures = r.steps.countP (·.isFailed) := by
  simp only [failures, steps, List.countP_append, List.countP_map, List.countP_singleton]
  cases r.reload.isFailed <;> rfl

namespace Course

variable {h : History} {c : Course}

/-- The mail server is called after a write that went through, and once more on request if a step
failed the last time that it was called. Then the maps stay as they are. -/
theorem calls_iff {paths : MapPaths} {interval : Duration} {backoff : Backoff} {t : FileTree}
    {past : List (Cycle h)} (hl : Life h (.new paths interval backoff t) past c) :
    (c.engine.applyPending ↔ ∃ report, lastReport? past = some report ∧ ∃ step ∈ report.steps,
      step.isFailed) ∧
    ∀ k : Cycle h, k.before = c →
      k.reports.length ≤ 1 ∧
      (k.reports ≠ [] ↔ ∃ found ∈ k.obtained, (c.engine.lastApplied ≠ some found ∧ k.writes) ∨
        (c.engine.lastApplied = some found ∧ k.reason = .notified ∧ c.engine.applyPending)) ∧
      (k.reports ≠ [] → (∃ summary, k.outcome = .applied summary) ∨
        ∃ failures, k.outcome = .reapplied failures) ∧
      (∀ found ∈ k.obtained, c.engine.lastApplied = some found →
        k.LeavesMaps ∧ k.after.engine.lastApplied = c.engine.lastApplied ∧
          (k.reason = .timer → k.reports = [])) ∧
      (k.reason = .notified → c.engine.applyPending →
        k.reports ≠ [] ∨ k.outcome = .cancelled ∨ ∃ f, k.outcome = .aborted f) := by
  refine ⟨?_, ?_⟩
  · rw [hl.applyPending rfl]
    cases lastReport? past with
    | none => simp [new, Engine.new]
    | some report => simp [ApplyReport.failures_eq_countP, List.countP_pos_iff]
  rintro k rfl
  have hcalls : k.reports ≠ [] ↔ ∃ found ∈ k.obtained,
      (k.before.engine.lastApplied ≠ some found ∧ k.writes) ∨
        (k.before.engine.lastApplied = some found ∧ k.reason = .notified ∧
            k.before.engine.applyPending) := by
    constructor
    · intro hr
      obtain ⟨found, hf⟩ := List.exists_mem_of_ne_nil _ (k.cycleEnds.obtained_ne_nil hr)
      exact ⟨found, hf, (k.cycleEnds.reports_ne_nil_iff hf).mp hr⟩
    · rintro ⟨found, hf, hcase⟩
      exact (k.cycleEnds.reports_ne_nil_iff hf).mpr hcase
  refine ⟨k.cycleEnds.length_reports_le, hcalls, k.cycleEnds.outcome_of_reports, ?_, ?_⟩
  · intro found hf hsame
    have hleaves := k.leavesMaps hf hsame
    refine ⟨hleaves, ?_, fun htimer => ?_⟩
    · rw [k.cycleEnds.lastApplied]
      cases ho : k.outcome.applied? with
      | none => rfl
      | some found' =>
        obtain rfl : found = found' := by
          simpa [Cycle.obtained, (k.cycleEnds.of_applied ho).1] using hf
        exact hsame.symm
    · by_contra hr
      rcases (k.cycleEnds.reports_ne_nil_iff hf).mp hr with ⟨hne, -⟩ | ⟨-, hnotified, -⟩
      · exact hne hsame
      · rw [htimer] at hnotified
        cases hnotified
  · intro hreason hpending
    by_cases hcancelled : k.outcome = .cancelled
    · exact .inr (.inl hcancelled)
    by_cases haborted : ∃ f, k.outcome = .aborted f
    · exact .inr (.inr haborted)
    have hends := k.cycleEnds
    rw [hreason] at hends
    exact .inl (hends.reports_ne_nil_of_notified hpending hcancelled fun f hf => haborted ⟨f, hf⟩)

section Repeated

/-- The reload fails, the write after a change is aborted, the change is taken back, and the reload
fails once more. -/
def reloadFailsTwice : List (WakeReason × List Event) :=
  [(.startup, [.serve, .serve, .write MapWriter.noFaults, .apply reloadFailed]),
    (.timer, [.storeChanges, .serve, .serve, .write secondRenameFails]),
    (.timer, [.storeChanges, .serve]), (.notified, [.serve, .apply reloadFailed])]

theorem calls_iff_of_reloadFailsTwice : ∃ (past : List (Cycle ruleChangedAndBack)) (c : Course)
    (k : Cycle ruleChangedAndBack), Life _ firstCourse past c ∧ k.before = c ∧
      c.engine.applyPending ∧
    k.reports ≠ [] ∧ k.LeavesMaps := by
  let found := (ruleChangedAndBack 0).fingerprint
  have hrun : (live? ruleChangedAndBack reloadFailsTwice firstCourse).any (fun p =>
      lastReport? p.1 = some reloadFailed ∧ p.2.engine.lastApplied = some found ∧
      (cycle? ruleChangedAndBack p.2 .notified [.serve, .apply ⟨[], .done⟩]).any fun k =>
        found ∈ k.obtained) =
        true := by
    decide +kernel
  obtain ⟨⟨past, c⟩, hpast, hrun⟩ := (Option.any_eq_true ..).mp hrun
  obtain ⟨hreport, happlied, hrun⟩ := of_decide_eq_true hrun
  obtain ⟨k, hk, hf⟩ := (Option.any_eq_true ..).mp hrun
  have hf := of_decide_eq_true hf
  obtain ⟨hbefore, hreason⟩ := of_cycle? hk
  have hl := life_of_live? hpast
  obtain ⟨hpending, hcalls⟩ := calls_iff hl
  have hpending : c.engine.applyPending := hpending.mpr ⟨_, hreport, by decide⟩
  obtain ⟨-, hcall, -, hsame, -⟩ := hcalls k hbefore
  exact ⟨past, c, k, hl, hbefore, hpending,
    hcall.mpr ⟨found, hf, .inr ⟨happlied, hreason, hpending⟩⟩, (hsame found hf happlied).1⟩

end Repeated

end Course
end BlocklistSync
