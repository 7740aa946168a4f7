import BlocklistSync.Proofs.Engine.HandOver

/-! How fresh the maps are when a cycle ends. The fingerprint that the engine remembers was read
before the entries, and later writes may have been aborted half-way, so what an unchanged
fingerprint says about the disk depends on what fingerprints say about the entries. -/
namespace BlocklistSync
open MapWriter

/-- The store shows a fingerprint at two moments only if its entries did not change in between. -/
def History.Steady (h : History) : Prop :=
  ∀ i j k, i ≤ k → k ≤ j → (h i).fingerprint = (h j).fingerprint → (h k).entries = (h i).entries

def History.Identifying (h : History) : Prop :=
  ∀ i j, (h i).fingerprint = (h j).fingerprint → (h i).entries = (h j).entries

namespace Course

variable {h : History} {dir : String} {d : Place} {c : Course}

/-- Each map on disk is of a moment between the two at which the fingerprint was the same. -/
theorem Traced.holdsMaps_of_recalls (hc : Traced h dir d c) (hs : h.Steady) (hr : c.Recalls h) :
    HoldsMaps c.tree d (compile (h c.origin.compared).entries) := by
  obtain ⟨o, ho, hfingerprint, hle⟩ := hr
  intro kind
  obtain ⟨m, hm, hom⟩ := hc.applied_source o ho kind
  have hmc := hle kind m hm
  -- The map is of a moment between two at which the fingerprint was the same.
  have hentries : (h m).entries = (h c.origin.compared).entries :=
    (hs _ _ m hom hmc hfingerprint).trans
      (hs _ _ c.origin.compared (hom.trans hmc) (Nat.le_refl _) hfingerprint).symm
  rw [hc.files kind m hm, hentries]

/-- Whatever fails and however the store changes, the maps are those of the entries at the cycle's
fingerprint when it ends without a change, and those of the entries that it fetched when it has
applied them. -/
theorem maps_at_end {interval : Duration} {backoff : Backoff} {t : FileTree} (hs : h.Steady)
    (hl : LeadsTo t dir d)
    (hc : Reachable h (Undisturbed dir d) (.new (.inDir dir) interval backoff t) c) :
    (c.next = .finished .unchanged ∨ (∃ failures, c.next = .finished (.reapplied failures)) →
      HoldsMaps c.tree d (compile (h c.origin.compared).entries)) ∧
    (∀ summary, c.next = .finished (.applied summary) →
      HoldsMaps c.tree d (compile (h c.origin.fetched).entries)) := by
  have htraced : Traced h dir d c := .of_reachable (traced_new hl) hc
  have hstanding := htraced.standing
  refine ⟨?_, fun summary hn => ?_⟩
  · rintro (hn | ⟨failures, hn⟩)
    · rw [hn] at hstanding
      exact htraced.holdsMaps_of_recalls hs hstanding
    · rw [hn] at hstanding
      exact htraced.holdsMaps_of_recalls hs hstanding
  · rw [hn] at hstanding
    exact htraced.holdsMaps hstanding.2

section Late

/-- The rule comes after the first look at the fingerprint, and stays. -/
def ruleComesLate : History := fun m => .ofEntries (if m = 0 then [] else literalRule)

theorem fingerprint_literalRule_ne :
    (Snapshot.ofEntries literalRule).fingerprint ≠ (Snapshot.ofEntries []).fingerprint := by
  decide +kernel

theorem ruleComesLate_steady : ruleComesLate.Steady := by
  intro i j k hik hkj he
  unfold ruleComesLate at he ⊢
  by_cases hi : i = 0 <;> by_cases hj : j = 0
  · rw [if_pos hi, if_pos (by omega : k = 0)]
  · rw [if_pos hi, if_neg hj] at he
    exact absurd he.symm fingerprint_literalRule_ne
  · rw [if_neg hi, if_pos hj] at he
    exact absurd he fingerprint_literalRule_ne
  · rw [if_neg hi, if_neg (by omega : ¬ k = 0)]

/-- The rule is fetched under the fingerprint of the empty list, then under its own in a write that
is aborted, and then again, before a forced refresh repeats the reload. -/
theorem maps_at_end_of_ruleComesLate : ∃ c : Course, c.next = .finished (.reapplied 0) ∧
    HoldsMaps c.tree ["maps"] (compile literalRule) := by
  have hrun : (run? ruleComesLate isAlone
      ([.cycle .startup, .serve, .storeChanges, .serve, .write noFaults, .apply ⟨[], .done⟩,
        .cycle .timer, .serve, .serve, .write secondRenameFails] ++ appliedWithFailure ++
        [.cycle .notified, .serve, .apply ⟨[], .done⟩]) firstCourse).any
        (fun c => c.next = .finished (.reapplied 0) ∧ c.origin.compared = 1) = true := by
    decide +kernel
  obtain ⟨c, hc, hn, hm⟩ := exists_reachable_of_run? (fun _ _ _ => undisturbed_of_isAlone) hrun
  have hmaps := (maps_at_end ruleComesLate_steady emptyDirectory_leadsTo hc).1 (.inr ⟨0, hn⟩)
  rw [hm] at hmaps
  exact ⟨c, hn, hmaps⟩

end Late

def WritesSucceed (_ : Course) (_ : Event) (c' : Course) : Prop :=
  ∀ f, c'.next ≠ .finished (.aborted f)

/-- When fingerprints identify the entries, a cycle ends without a change over the maps of the
entries fetched by the cycle applied last. These are the present ones just if what that cycle
fetched compiles to the same as what the store held when that cycle read the fingerprint. -/
theorem maps_at_unchanged {interval : Duration} {backoff : Backoff} {t : FileTree}
    (hi : h.Identifying) (hl : LeadsTo t dir d)
    (hc : Reachable h (fun c e c' => Undisturbed dir d c e c' ∧ WritesSucceed c e c')
      (.new (.inDir dir) interval backoff t) c)
    (hn : c.next = .finished .unchanged) :
    ∃ o, c.applied = some o ∧ HoldsMaps c.tree d (compile (h o.fetched).entries) ∧
      (HoldsMaps c.tree d (compile (h c.origin.compared).entries) ↔
        (compile (h o.fetched).entries).texts = (compile (h o.compared).entries).texts) := by
  have htraced : Traced h dir d c := .of_reachable (traced_new hl) (hc.mono fun _ _ _ hp => hp.1)
  have hsettled : c.Settled := settled_of_reachable (traced_new hl) settled_new
    (hc.mono fun _ _ _ hp => ⟨hp.1, fun f hf => absurd hf (hp.2 f)⟩)
  have hstanding := htraced.standing
  rw [hn] at hstanding
  obtain ⟨o, ho, hfingerprint, -⟩ := hstanding
  have hsource : ∀ kind, c.source kind = some o.fetched := by
    rcases hsettled with ⟨_, _, _, hask⟩ | hs
    · simp [hn] at hask
    · exact hs o ho
  have hmaps := htraced.holdsMaps hsource
  refine ⟨o, ho, hmaps, ?_⟩
  rw [← hi _ _ hfingerprint]
  exact hmaps.iff_texts

section Masked

/-- The rule comes after the first look at the fingerprint, and goes again. -/
def ruleComesAndGoes : History := fun m => .ofEntries (if m = 1 then literalRule else [])

theorem ruleComesAndGoes_identifying : ruleComesAndGoes.Identifying := by
  intro i j he
  unfold ruleComesAndGoes at he ⊢
  by_cases hi : i = 1 <;> by_cases hj : j = 1
  · rw [if_pos hi, if_pos hj]
  · rw [if_pos hi, if_neg hj] at he
    exact absurd he fingerprint_literalRule_ne
  · rw [if_neg hi, if_pos hj] at he
    exact absurd he.symm fingerprint_literalRule_ne
  · rw [if_neg hi, if_neg hj]

theorem smooth_of_isSmooth {c c' : Course} {e : Event} (h : isSmooth c e c') :
    Undisturbed dir d c e c' ∧ WritesSucceed c e c' :=
  ⟨undisturbed_of_isAlone (Bool.and_eq_true_iff.mp h).1, not_aborted_of_isSmooth h⟩

/-- The maps keep a rule that is gone: it was fetched under the fingerprint of the empty list, in a
second try, and the store shows that fingerprint again. -/
theorem exists_stale_at_unchanged : ruleComesAndGoes.Identifying ∧ ∃ c,
    Reachable ruleComesAndGoes (fun c e c' => Undisturbed "maps" ["maps"] c e c' ∧
      WritesSucceed c e c')
      firstCourse c ∧ c.next = .finished .unchanged ∧
    ¬ HoldsMaps c.tree ["maps"] (compile (ruleComesAndGoes c.origin.compared).entries) := by
  have hrun : (run? ruleComesAndGoes isSmooth
      [.cycle .startup, .serve, .refuse (.storeUnavailable "outage"), .storeChanges, .resume,
        .serve, .write noFaults, .apply ⟨[], .done⟩, .storeChanges, .cycle .timer,
        .serve] firstCourse).any
        (fun c => c.next = .finished .unchanged ∧ c.origin.compared = 2 ∧
          c.tree.sight? (mapPlace ["maps"] .enforceLiteral) ≠
            some (mapFile (compile []) .enforceLiteral)) = true := by
    decide +kernel
  obtain ⟨c, hc, hn, hm, hstale⟩ := exists_reachable_of_run? (fun _ _ _ => smooth_of_isSmooth) hrun
  refine ⟨ruleComesAndGoes_identifying, c, hc, hn, fun hmaps => ?_⟩
  rw [hm] at hmaps
  exact hstale (hmaps .enforceLiteral)

theorem maps_at_unchanged_of_literalRule : ∃ c : Course, c.next = .finished .unchanged ∧
    HoldsMaps c.tree ["maps"] (compile literalRule) := by
  have hrun : (run? (fun _ => .ofEntries literalRule) isSmooth
      (appliedWithFailure ++ [.cycle .timer, .serve]) firstCourse).any
        (fun c => c.next = .finished .unchanged) = true := by
    decide +kernel
  obtain ⟨c, hc, hn⟩ := exists_reachable_of_run? (fun _ _ _ => smooth_of_isSmooth) hrun
  obtain ⟨o, -, hmaps, -⟩ := maps_at_unchanged (fun _ _ _ => rfl) emptyDirectory_leadsTo hc hn
  exact ⟨c, hn, hmaps⟩

end Masked

end Course
end BlocklistSync
