import BlocklistSync.Proofs.Engine.Provenance

/-! Which maps the mail server is pointed at. Right after a write they are those of the entries just
fetched. When maps are handed over once more, they are those of the cycle applied last unless an
aborted write got through to some of them in between. -/
namespace BlocklistSync.Course
open MapWriter

/-- A write that is aborted has replaced no map. -/
def AllOrNothing (c : Course) (_ : Event) (c' : Course) : Prop :=
  ∀ f, c'.next = .finished (.aborted f) → c'.source = c.source

/-- Between cycles the maps on disk are those of the cycle applied last. -/
def Settled (c : Course) : Prop :=
  (∃ found total written, c.next = .ask (.apply found total written)) ∨
    ∀ o, c.applied = some o → ∀ kind, c.source kind = some o.fetched

variable {h : History} {dir : String} {d : Place} {c c' : Course} {e : Event}

theorem write_next (faults : Faults) (found : Fingerprint) (entries : List Entry) :
    (∃ f, (c.write faults found entries).next = .finished (.aborted f)) ∨
      ∃ total written, (c.write faults found entries).next = .ask (.apply found total written) := by
  rw [next_write]
  rcases hr : (writeWith faults c.tree c.engine.paths (compile entries)).result with f | written
  · exact .inl ⟨f, rfl⟩
  · exact .inr ⟨_, _, rfl⟩

/-- Only a write can unsettle, and then the hand-over is next or the write was aborted. -/
theorem Settled.step (hs : c.Settled) (hc : Traced h dir d c) (hstep : Transition h c e c')
    (hp : AllOrNothing c e c') : c'.Settled := by
  cases hstep with
  | storeChanges | filesChange => exact hs
  | start hidle | cycle _ hidle =>
    exact .inr (hs.resolve_left fun ⟨_, _, _, hask⟩ => by simp [hask, Next.isIdle] at hidle)
  | resume hn | giveUp hn | refuseConnect _ hn | refuseFingerprint _ hn | refuseEntries _ hn
  | serveConnect hn
  | serveFingerprint hn | serveEntries hn | probe _ hn | reapply _ hn =>
    exact .inr (hs.resolve_left fun ⟨_, _, _, hask⟩ => by simp [hn] at hask)
  | @write faults found entries hn =>
    rcases c.write_next faults found entries with ⟨f, hx⟩ | ⟨total, written, hx⟩
    · have hkept := hs.resolve_left fun ⟨_, _, _, hask⟩ => by simp [hn] at hask
      exact .inr (by rw [hp f hx]; exact hkept)
    · exact .inl ⟨found, total, written, hx⟩
  | apply report hn => exact .inr fun o ho kind => Option.some.inj ho ▸ (hc.pending hn).2.2 kind

theorem settled_of_reachable {start : Course} (ht : Traced h dir d start) (hs : start.Settled)
    (hc : Reachable h (fun c e c' => Undisturbed dir d c e c' ∧ AllOrNothing c e c') start c) :
    c.Settled := by
  induction hc with
  | start => exact hs
  | step hr hact hp ih =>
    have htraced : Traced h dir d _ := .of_reachable ht (hr.mono fun _ _ _ hp => hp.1)
    exact ih.step htraced (transition_of_act? hact) hp.2

theorem settled_new {paths : MapPaths} {interval : Duration} {backoff : Backoff} {t : FileTree} :
    (new paths interval backoff t).Settled := .inr (by simp [new])

namespace Traced

theorem holdsMaps (hc : Traced h dir d c) {m : ℕ} (hs : ∀ kind, c.source kind = some m) :
    HoldsMaps c.tree d (compile (h m).entries) := fun kind => hc.files kind m (hs kind)

/-- Maps of several moments on disk are those of one list of entries just if it has the same
texts. -/
theorem holdsMaps_iff (hc : Traced h dir d c) (hs : ∀ kind, ∃ m, c.source kind = some m)
    (maps : CompiledMaps) :
    HoldsMaps c.tree d maps ↔
      ∀ kind, ∃ m, c.source kind = some m ∧ (compile (h m).entries).get kind = maps.get kind := by
  refine forall_congr' fun kind => ?_
  obtain ⟨m, hm⟩ := hs kind
  rw [hc.files kind m hm, Option.some_inj, mapFile_inj]
  simp [hm]

end Traced

/-- Maps are handed over whole after a write; handed over once more, they are those of the cycle
applied last just if each is, by its text, and so they are if no aborted write has replaced a
map. -/
theorem maps_at_handOver {interval : Duration} {backoff : Backoff} {t : FileTree}
    (hl : LeadsTo t dir d)
    (hc : Reachable h (Undisturbed dir d) (.new (.inDir dir) interval backoff t) c) :
    (∀ found total written, c.next = .ask (.apply found total written) →
      HoldsMaps c.tree d (compile (h c.origin.fetched).entries)) ∧
    (c.next = .ask .reapply → ∃ o, c.applied = some o ∧
      (HoldsMaps c.tree d (compile (h o.fetched).entries) ↔ ∀ kind, ∃ m, c.source kind = some m ∧
        (compile (h m).entries).get kind = (compile (h o.fetched).entries).get kind) ∧
      (Reachable h (fun c e c' => Undisturbed dir d c e c' ∧ AllOrNothing c e c')
          (.new (.inDir dir) interval backoff t) c →
        HoldsMaps c.tree d (compile (h o.fetched).entries))) := by
  have htraced : Traced h dir d c := Traced.of_reachable (traced_new hl) hc
  refine ⟨fun found total written hn => htraced.holdsMaps (htraced.pending hn).2.2, fun hn => ?_⟩
  obtain ⟨o, ho, -, -⟩ := htraced.pending hn
  have hsource : ∀ kind, ∃ m, c.source kind = some m := fun kind =>
    (htraced.applied_source o ho kind).imp fun _ hm => hm.1
  refine ⟨o, ho, htraced.holdsMaps_iff hsource _, fun hall => ?_⟩
  rcases settled_of_reachable (traced_new hl) settled_new hall with ⟨_, _, _, hask⟩ | hs
  · simp [hn] at hask
  · exact htraced.holdsMaps (hs o ho)

section Torn

/-- The only rule is changed from a literal one to a pattern, and back again. -/
def literalRule : List Entry := [⟨1, "old@x.com", false, false, some (.ofSeconds 1 0)⟩]
def patternRule : List Entry := [⟨1, "spam.*", true, false, some (.ofSeconds 2 0)⟩]
def ruleChangedAndBack : History := fun m => .ofEntries (if m = 1 then patternRule else literalRule)

def reloadFailed : ApplyReport :=
  ⟨[], .failed (.command "postfix reload" "exit status: 1" "locked")⟩

def appliedWithFailure : List Event :=
  [.cycle .startup, .serve, .serve, .write noFaults, .apply reloadFailed]

theorem maps_at_reapply_of_literalRule : ∃ c : Course, c.next = .ask .reapply ∧
    HoldsMaps c.tree ["maps"] (compile literalRule) := by
  have hrun : (run? (fun _ => .ofEntries literalRule) isSmooth
    (appliedWithFailure ++ [.cycle .notified, .serve])
      firstCourse).any (fun c => c.next = .ask .reapply) = true := by
    decide +kernel
  have hsmooth : ∀ c e c', isSmooth c e c' →
      Undisturbed "maps" ["maps"] c e c' ∧ AllOrNothing c e c' := fun c e c' hs =>
    ⟨undisturbed_of_isAlone (Bool.and_eq_true_iff.mp hs).1,
      fun f hn => absurd hn (not_aborted_of_isSmooth hs f)⟩
  obtain ⟨c, hc, hn⟩ := exists_reachable_of_run? hsmooth hrun
  obtain ⟨o, -, -, hmaps⟩ :=
    (maps_at_handOver emptyDirectory_leadsTo (hc.mono fun _ _ _ hp => hp.1)).2 hn
  exact ⟨c, hn, hmaps hc⟩

def secondRenameFails : Faults := fun a =>
  if a = ⟨.rename, .enforcePattern⟩ then some (.system 5) else none

/-- A forced refresh hands over a mixture of maps, none of them with a rule: they are of no list of
entries that the store ever held. -/
theorem exists_torn_at_reapply :
    ∃ c, Reachable ruleChangedAndBack (Undisturbed "maps" ["maps"]) firstCourse c ∧
    c.next = .ask .reapply ∧ ∀ m, ¬ HoldsMaps c.tree ["maps"]
      (compile (ruleChangedAndBack m).entries) := by
  have hrun : (run? ruleChangedAndBack isAlone
      (appliedWithFailure ++ [.storeChanges, .cycle .timer, .serve, .serve,
        .write secondRenameFails, .storeChanges, .cycle .notified,
        .serve]) firstCourse).any (fun c => c.next = .ask .reapply ∧
          c.tree.sight? (mapPlace ["maps"] .enforceLiteral) ≠
            some (mapFile (compile literalRule) .enforceLiteral) ∧
          c.tree.sight? (mapPlace ["maps"] .enforcePattern) ≠
            some (mapFile (compile patternRule) .enforcePattern)) = true := by
    decide +kernel
  obtain ⟨c, hc, hn, hliteral, hpattern⟩ :=
    exists_reachable_of_run? (fun _ _ _ => undisturbed_of_isAlone) hrun
  refine ⟨c, hc, hn, fun m hm => ?_⟩
  by_cases h1 : m = 1
  · exact hpattern (by simpa [ruleChangedAndBack, Snapshot.ofEntries, h1] using hm .enforcePattern)
  · exact hliteral (by simpa [ruleChangedAndBack, Snapshot.ofEntries, h1] using hm .enforceLiteral)

end Torn

end BlocklistSync.Course
