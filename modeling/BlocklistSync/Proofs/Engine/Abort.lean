import BlocklistSync.Proofs.Engine.HandOver

/-! What an aborted cycle leaves behind. The mail server is not called and the engine remembers what
it had applied, but the maps whose renames came before the failure stay replaced. -/
namespace BlocklistSync

def Event.begins : Event → Bool
  | .start | .cycle _ => true
  | _ => false

/-- A cycle is under way and has not come to the mail server. -/
def Next.isEarly : Next → Bool
  | .ask request | .pause _ request =>
    match request with
    | .fingerprint _ | .entries _ | .write _ _ => true
    | _ => false
  | _ => false

namespace Course
open MapWriter

variable {h : History} {c c' : Course} {e : Event}

theorem result_of_aborted {faults : Faults} {found : Fingerprint} {entries : List Entry} {f : Fault}
    (h : (c.write faults found entries).next = .finished (.aborted f)) :
    (writeWith faults c.tree c.engine.paths (compile entries)).result = .error f := by
  rw [next_write] at h
  rcases hr : (writeWith faults c.tree c.engine.paths (compile entries)).result with f' | written
  · rw [hr] at h
    obtain rfl : f' = f := by simpa [Engine.receive, Engine.abort] using h
    rfl
  · rw [hr] at h
    cases h

/-- A cycle does not come back from the mail server. -/
theorem isEarly_of_step (hs : Transition h c e c') (hb : e.begins = false) (hn : c'.next.isEarly) :
    c.next.isEarly ∧ (∀ report, e ≠ .apply report) ∧
      c'.engine.lastApplied = c.engine.lastApplied := by
  cases hs with
  | storeChanges | filesChange => exact ⟨hn, by simp, rfl⟩
  | start | cycle => cases hb
  | resume hpause => exact ⟨hpause ▸ hn, by simp, rfl⟩
  | @giveUp _ request _ => cases request <;> cases hn
  | refuseFingerprint _ hask | refuseEntries _ hask => exact ⟨by rw [hask]; rfl, by simp, rfl⟩
  | @serveFingerprint reason hask =>
    exact ⟨by rw [hask]; rfl, by simp,
      Engine.receive_lastApplied _ (.fingerprint reason) _ (by simp)⟩
  | @serveEntries found hask =>
    exact ⟨by rw [hask]; rfl, by simp, Engine.receive_lastApplied _ (.entries found) _ (by simp)⟩
  | @write faults found entries _ =>
    rcases c.write_next faults found entries with ⟨f, hx⟩ | ⟨total, written, hx⟩ <;>
      rw [hx] at hn <;> cases hn
  | refuseConnect | serveConnect | probe | apply | reapply => cases hn

theorem isEarly_of_run? {events : List Event}
    (hr : run? h (fun _ e _ => !e.begins) events c = some c') (hn : c'.next.isEarly) :
    c.next.isEarly ∧ (∀ report, .apply report ∉ events) ∧
      c'.engine.lastApplied = c.engine.lastApplied := by
  induction events generalizing c with
  | nil =>
    obtain rfl := Option.some.inj hr
    exact ⟨hn, by simp, rfl⟩
  | cons e events ih =>
    rw [run?] at hr
    split at hr
    · next c₁ hact =>
      split at hr
      · next hb =>
        obtain ⟨hearly, hrest, hlast⟩ := ih hr
        obtain ⟨hearly', he, hlast'⟩ :=
          isEarly_of_step (transition_of_act? hact) (by simpa using hb) hearly
        refine ⟨hearly', fun report hm => ?_, hlast.trans hlast'⟩
        rcases List.mem_cons.mp hm with heq | hm
        · exact he report heq.symm
        · exact hrest report hm
      · cases hr
    · cases hr

/-- Whatever action of the write failed: the mail server was not called, nothing new counts as
applied, and exactly the maps whose renames came before that action are replaced. So the maps are as
before just if each of those had its new text already, and every path leads where it did if there
are none. -/
theorem aborted_cycle {c₀ c₁ : Course} {reason : WakeReason} {events : List Event} {faults : Faults}
    {f : Fault}
    (hcycle : c₀.act? h (.cycle reason) = some c₁)
    (hrun : run? h (fun _ e _ => !e.begins) events c₁ = some c)
    (hw : c.act? h (.write faults) = some c') (hf : c'.next = .finished (.aborted f)) :
    (∀ report, .apply report ∉ events) ∧ c'.engine.lastApplied = c₀.engine.lastApplied ∧
    ∃ found entries a cause, c.next = .ask (.write found entries) ∧
      (progress faults c.tree c.engine.paths (compile entries)).failure = some (a, cause) ∧
      f = .mapWrite (c.engine.paths.get a.kind) cause ∧
      (∀ p, c'.tree.sight? p = overwritten c.tree c.engine.paths (compile entries)
      (replacedBefore a) p) ∧
      ((∀ kind p, c.tree.place? (c.engine.paths.get kind) = some p →
        c'.tree.sight? p = c.tree.sight? p) ↔
        ∀ kind p, occupant? c.tree c.engine.paths (replacedBefore a) p = some kind →
          c.tree.sight? p = some (mapFile (compile entries) kind)) ∧
      (replacedBefore a = [] → ∀ follow path,
        c'.tree.resolve follow path = c.tree.resolve follow path) := by
  have hbegun : c₁.engine.lastApplied = c₀.engine.lastApplied := by
    cases transition_of_act? hcycle with
    | cycle => rfl
  obtain ⟨found, entries, hn, rfl⟩ : ∃ found entries, c.next = .ask (.write found entries) ∧
      c' = c.write faults found entries := by
    cases transition_of_act? hw with
    | write _ hn => exact ⟨_, _, hn, rfl⟩
  obtain ⟨-, hnone, hlast⟩ := isEarly_of_run? hrun (by rw [hn]; rfl)
  have hwritten : (c.write faults found entries).engine.lastApplied = c.engine.lastApplied :=
    Engine.receive_lastApplied _ (.write found entries) _ (by simp)
  obtain ⟨a, cause, hfailure, hfault⟩ := failure_of_error (result_of_aborted hf)
  have hreplaced : replacedBy faults c.tree c.engine.paths (compile entries) =
      replacedBefore a := by
    rw [replacedBy, hfailure, replaced]
  refine ⟨hnone, hwritten.trans (hlast.trans hbegun), found, entries, a, cause, hn, hfailure,
    hfault, ?_, ?_, ?_⟩
  · rw [← hreplaced]
    exact sight?_writeWith faults c.tree c.engine.paths (compile entries)
  · rw [← hreplaced]
    exact kept_iff faults c.tree c.engine.paths (compile entries)
  · rw [← hreplaced]
    exact resolve_writeWith_of_nil faults c.tree c.engine.paths (compile entries)

section Obstructed

def firstRenameFails : Faults :=
  fun a => if a = ⟨.rename, .enforceLiteral⟩ then some (.system 5) else none

theorem aborted_cycle_of_firstRenameFails : ∃ c c' : Course,
    c'.next = .finished (.aborted (.mapWrite "maps/blocked_recipients" (.system 5))) ∧
    c'.engine.lastApplied = none ∧ ∀ follow path,
      c'.tree.resolve follow path = c.tree.resolve follow path := by
  let h : History := fun _ => .ofEntries literalRule
  have hrun : (firstCourse.act? h (.cycle .startup)).any (fun c₁ =>
      (run? h (fun _ e _ => !e.begins) [.serve, .serve] c₁).any fun c =>
        c.engine.paths = .inDir "maps" ∧ (c.act? h (.write firstRenameFails)).any fun c' =>
          c'.next =
            .finished (.aborted (.mapWrite "maps/blocked_recipients" (.system 5)))) = true := by
    decide +kernel
  obtain ⟨c₁, hcycle, hrun⟩ := (Option.any_eq_true ..).mp hrun
  obtain ⟨c, hrun, hw⟩ := (Option.any_eq_true ..).mp hrun
  obtain ⟨hpaths, hw⟩ := of_decide_eq_true hw
  obtain ⟨c', hw, hf⟩ := (Option.any_eq_true ..).mp hw
  have hf := of_decide_eq_true hf
  obtain ⟨-, hlast, found, entries, ⟨operation, kind⟩, cause, -, -, hfault, -, -, hkept⟩ :=
    aborted_cycle hcycle hrun hw hf
  have hkind : kind = .enforceLiteral := by
    have hpath : "maps/blocked_recipients" = (MapPaths.inDir "maps").get kind := by
      rw [← hpaths]
      exact (Fault.mapWrite.inj hfault).1
    cases kind <;> first | rfl | exact absurd hpath (by decide)
  exact ⟨c, c', hf, hlast, hkept (by cases operation <;> simp [replacedBefore, hkind, MapKind.all])⟩

def obstructedDirectory : FileTree where
  nodes := [(["maps"], .directory), (["maps", "blocked_recipients"], .file 0),
    (["maps", "blocked_recipients_test"], .directory)]
  bodies := [(0, ⟨.ofText "old@x.com REJECT\n", mapMode⟩)]
  home := []

/-- An aborted write has replaced the first map. -/
theorem exists_replaced_by_aborted_write : ∃ (t : FileTree) (entries : List Entry) (p : Place),
    (MapWriter.write t (.inDir "maps") (compile entries)).result =
      .error (.mapWrite "maps/blocked_recipients_test" (.system SystemError.isDirectory)) ∧
    t.place? ((MapPaths.inDir "maps").get .enforceLiteral) = some p ∧
    (MapWriter.write t (.inDir "maps") (compile entries)).tree.sight? p ≠ t.sight? p := by
  refine ⟨obstructedDirectory, patternRule, ["maps", "blocked_recipients"], ?_⟩
  decide +kernel

end Obstructed

end Course
end BlocklistSync
