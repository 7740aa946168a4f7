import BlocklistSync.Proofs.Engine.Abort
import BlocklistSync.Proofs.Engine.Dialogue

/-! The life of an engine as the list of the cycles that it has gone through, each with what was
exchanged in it, while the store, the files and the mail server do as they like. For the engine, the
events of a course are a dialogue. -/
namespace BlocklistSync

def Event.isCycle : Event → Bool
  | .cycle _ => true
  | _ => false

def Event.changesFiles : Event → Bool
  | .filesChange _ => true
  | _ => false

def Next.isBetween : Next → Bool
  | .started _ | .finished _ | .ask .connect | .ask .probe | .pause _ .connect => true
  | _ => false

theorem Next.isBetween_of_isIdle {next : Next} (h : next.isIdle) : next.isBetween := by
  cases next <;> first | rfl | cases h

namespace Course
open Engine

variable {h : History} {c c' : Course} {e : Event} {events : List Event} {xs : List Exchange}

def reply? (h : History) (c : Course) : Event → (request : Request) → Option request.Reply
  | .refuse f, .connect | .refuse f, .fingerprint _ | .refuse f, .entries _ => some (.error f)
  | .serve, .connect => some (.ok ())
  | .serve, .fingerprint _ => some (.ok (h c.moment).fingerprint)
  | .serve, .entries _ => some (.ok (h c.moment).entries)
  | .probe supported, .probe => some supported
  | .write faults, .write _ entries =>
    some (MapWriter.writeWith faults c.tree c.engine.paths (compile entries)).result
  | .apply report, .apply _ _ _ | .apply report, .reapply => some report
  | _, _ => none

def exchanged (h : History) (c : Course) (e : Event) : List Exchange :=
  match c.next with
  | .ask request => ((reply? h c e request).map (Exchange.mk request)).toList
  | _ => []

/-- What is exchanged in a list of events, if each of them can happen, and what comes of it. -/
def trace? (h : History) : List Event → Course → Option (List Exchange × Course)
  | [], c => some ([], c)
  | e :: events, c =>
    match c.act? h e with
    | some c₁ => (trace? h events c₁).map fun p => (c.exchanged h e ++ p.1, p.2)
    | none => none

theorem trace?_cons (ht : trace? h (e :: events) c = some (xs, c')) :
    ∃ c₁ rest, c.act? h e = some c₁ ∧ trace? h events c₁ =
      some (rest, c') ∧ xs = c.exchanged h e ++ rest := by
  rw [trace?] at ht
  split at ht
  · next c₁ hact =>
    obtain ⟨⟨rest, c₂⟩, hrest, heq⟩ := Option.map_eq_some_iff.mp ht
    obtain ⟨rfl, rfl⟩ := Prod.mk.inj heq
    exact ⟨c₁, rest, hact, hrest, rfl⟩
  · cases ht

theorem trace?_append {events' : List Event} {xs' : List Exchange} {c₁ : Course}
    (ht : trace? h events c = some (xs, c₁)) (ht' : trace? h events' c₁ = some (xs', c')) :
    trace? h (events ++ events') c = some (xs ++ xs', c') := by
  induction events generalizing c xs with
  | nil =>
    obtain ⟨rfl, rfl⟩ := Prod.mk.inj (Option.some.inj ht)
    exact ht'
  | cons e events ih =>
    obtain ⟨c₂, rest, hact, hrest, rfl⟩ := trace?_cons ht
    simp [trace?, hact, ih hrest]

theorem trace?_singleton (ha : c.act? h e = some c') :
    trace? h [e] c = some (c.exchanged h e, c') := by
  simp [trace?, ha]

theorem exchanged_eq_nil (he : ∀ request, reply? h c e request = none) : c.exchanged h e = [] := by
  unfold exchanged
  split
  · rw [he]; rfl
  · rfl

theorem exchanged_storeChanges : c.exchanged h .storeChanges = [] :=
  exchanged_eq_nil fun request => by cases request <;> rfl

theorem exchanged_filesChange (t : FileTree) : c.exchanged h (.filesChange t) = [] :=
  exchanged_eq_nil fun request => by cases request <;> rfl

theorem exchanged_cycle (reason : WakeReason) : c.exchanged h (.cycle reason) = [] :=
  exchanged_eq_nil fun request => by cases request <;> rfl

/-- Seen from the engine, an event is a part of a dialogue. -/
theorem dialogue_of_transition {e' : Engine} {next' : Next} (hs : Transition h c e c')
    (hb : e.begins = false) (hd : Dialogue c'.engine c'.next xs e' next') :
    Dialogue c.engine c.next (c.exchanged h e ++ xs) e' next' := by
  cases hs with
  | storeChanges => simpa only [exchanged_storeChanges, List.nil_append] using hd
  | filesChange t => simpa only [exchanged_filesChange, List.nil_append] using hd
  | start | cycle => cases hb
  | resume hn =>
    simp only [exchanged, hn]
    exact .resume hd
  | giveUp hn =>
    simp only [exchanged, hn]
    exact .giveUp hd
  | refuseConnect _ hn | refuseFingerprint _ hn | refuseEntries _ hn | serveConnect hn
  | serveFingerprint hn
  | serveEntries hn | probe _ hn | write _ hn | apply _ hn | reapply _ hn =>
    simp only [exchanged, hn, reply?]
    exact .ask hd

theorem dialogue_of_trace? (ht : trace? h events c = some (xs, c'))
    (hb : ∀ e ∈ events, e.begins = false) :
    Dialogue c.engine c.next xs c'.engine c'.next := by
  induction events generalizing c xs with
  | nil =>
    obtain ⟨rfl, rfl⟩ := Prod.mk.inj (Option.some.inj ht)
    exact .still ..
  | cons e events ih =>
    obtain ⟨c₁, rest, hact, hrest, rfl⟩ := trace?_cons ht
    exact dialogue_of_transition (transition_of_act? hact) (hb e (by simp))
      (ih hrest fun e he => hb e (by simp [he]))

/-- Files change only in a write and by others. -/
theorem tree_of_transition (hs : Transition h c e c') (ho : e.changesFiles = false)
    (hw : (c.exchanged h e).any Exchange.attemptsWrite = false) : c'.tree = c.tree := by
  cases hs with
  | filesChange => cases ho
  | write _ hn => simp [exchanged, hn, reply?, Exchange.attemptsWrite] at hw
  | _ => rfl

theorem tree_of_trace? (ht : trace? h events c = some (xs, c'))
    (ho : ∀ e ∈ events, e.changesFiles = false) (hw : xs.any Exchange.attemptsWrite = false) :
    c'.tree = c.tree := by
  induction events generalizing c xs with
  | nil =>
    obtain ⟨-, rfl⟩ := Prod.mk.inj (Option.some.inj ht)
    rfl
  | cons e events ih =>
    obtain ⟨c₁, rest, hact, hrest, rfl⟩ := trace?_cons ht
    rw [List.any_append, Bool.or_eq_false_iff] at hw
    exact (ih hrest (fun e he => ho e (by simp [he])) hw.2).trans
      (tree_of_transition (transition_of_act? hact) (ho e (by simp)) hw.1)

/-- Between cycles the engine may be started, which leaves alone what it remembers of its cycles. -/
theorem between_of_transition (hs : Transition h c e c') (he : e.isCycle = false)
    (hn : c.next.isBetween) :
    c'.next.isBetween ∧ c'.engine.lastApplied = c.engine.lastApplied ∧
      c'.engine.applyPending = c.engine.applyPending := by
  cases hs with
  | storeChanges | filesChange | start => exact ⟨by first | exact hn | rfl, rfl, rfl⟩
  | cycle => cases he
  | @resume _ request hpause | @giveUp _ request hpause =>
    rw [hpause] at hn
    cases request <;> first | exact ⟨rfl, rfl, rfl⟩ | cases hn
  | refuseConnect | serveConnect | probe => exact ⟨rfl, rfl, rfl⟩
  | refuseFingerprint _ hask | refuseEntries _ hask | serveFingerprint hask | serveEntries hask
  | write _ hask
  | apply _ hask | reapply _ hask =>
    rw [hask] at hn
    cases hn

theorem between_of_trace? (ht : trace? h events c = some (xs, c'))
    (he : ∀ e ∈ events, e.isCycle = false) (hn : c.next.isBetween) :
    c'.engine.lastApplied = c.engine.lastApplied ∧
      c'.engine.applyPending = c.engine.applyPending := by
  induction events generalizing c xs with
  | nil =>
    obtain ⟨-, rfl⟩ := Prod.mk.inj (Option.some.inj ht)
    exact ⟨rfl, rfl⟩
  | cons e events ih =>
    obtain ⟨c₁, rest, hact, hrest, rfl⟩ := trace?_cons ht
    obtain ⟨hn₁, hl, hp⟩ := between_of_transition (transition_of_act? hact) (he e (by simp)) hn
    obtain ⟨hl', hp'⟩ := ih hrest (fun e hm => he e (by simp [hm])) hn₁
    exact ⟨hl'.trans hl, hp'.trans hp⟩

theorem begun_of_trace? {reason : WakeReason}
    (ht : trace? h (.cycle reason :: events) c = some (xs, c')) :
    ∃ c₁, c₁.engine = c.engine.beginCycle ∧ c₁.next = .ask (.fingerprint reason) ∧
      trace? h events c₁ = some (xs, c') := by
  obtain ⟨c₁, rest, hact, hrest, rfl⟩ := trace?_cons ht
  rw [exchanged_cycle, List.nil_append]
  cases transition_of_act? hact with
  | cycle => exact ⟨_, rfl, rfl, hrest⟩

theorem cycleEnds_of_trace? {reason : WakeReason}
    (ht : trace? h (.cycle reason :: events) c = some (xs, c'))
    (hb : ∀ e ∈ events, e.begins = false) (hi : c'.next.isIdle) :
    ∃ o, c'.next = .finished o ∧ c.engine.CycleEnds reason xs c'.engine o := by
  obtain ⟨c₁, he, hn, hrest⟩ := begun_of_trace? ht
  have hd := dialogue_of_trace? hrest hb
  rw [he, hn] at hd
  exact hd.cycleEnds hi

/-- A whole cycle: it is begun, others may do something meanwhile, and it comes to its outcome. -/
structure Cycle (h : History) where
  before : Course
  reason : WakeReason
  events : List Event
  exchanges : List Exchange
  after : Course
  outcome : Outcome
  within : ∀ e ∈ events, e.begins = false
  passes : trace? h (.cycle reason :: events) before = some (exchanges, after)
  ends : after.next = .finished outcome

namespace Cycle

/-- The fingerprint that the store told the cycle, if it came to that. -/
def obtained (k : Cycle h) : List Fingerprint := k.exchanges.filterMap Exchange.found?

def fetches (k : Cycle h) : Bool := k.exchanges.any Exchange.fetches

def attemptsWrite (k : Cycle h) : Bool := k.exchanges.any Exchange.attemptsWrite

def writes (k : Cycle h) : Bool := k.exchanges.any Exchange.writes

def reports (k : Cycle h) : List ApplyReport := k.exchanges.filterMap Exchange.report?

/-- Nobody else changed files during the cycle. -/
def IsAlone (k : Cycle h) : Prop := ∀ e ∈ k.events, e.changesFiles = false

/-- The cycle has no use for the maps on disk: it neither fetches entries nor writes, and no file
changes. -/
def LeavesMaps (k : Cycle h) : Prop :=
  k.fetches = false ∧ k.attemptsWrite = false ∧ (k.IsAlone → k.after.tree = k.before.tree)

theorem cycleEnds (k : Cycle h) :
    k.before.engine.CycleEnds k.reason k.exchanges k.after.engine k.outcome := by
  obtain ⟨o, ho, hends⟩ := cycleEnds_of_trace? k.passes k.within (by rw [k.ends]; rfl)
  obtain rfl : k.outcome = o := Next.finished.inj (k.ends.symm.trans ho)
  exact hends

theorem tree_after (k : Cycle h) (ha : k.IsAlone) (hw : k.attemptsWrite = false) :
    k.after.tree = k.before.tree :=
  tree_of_trace? k.passes (List.forall_mem_cons.mpr ⟨rfl, ha⟩) hw

/-- The fingerprint that counts as applied is all that decides whether a cycle goes to the maps. -/
theorem leavesMaps (k : Cycle h) {found : Fingerprint} (hf : found ∈ k.obtained)
    (hl : k.before.engine.lastApplied = some found) : k.LeavesMaps := by
  have hfetch : k.fetches = false :=
    Bool.eq_false_iff.mpr fun h => (k.cycleEnds.fetches_iff hf).mp h hl
  have hwrite : k.attemptsWrite = false :=
    Bool.eq_false_iff.mpr fun h => ((k.cycleEnds.attemptsWrite_iff hf).mp h).1 hl
  exact ⟨hfetch, hwrite, fun ha => k.tree_after ha hwrite⟩

end Cycle

/-- All that can come of a course, with the cycles on the way, in order. -/
inductive Life (h : History) (start : Course) : List (Cycle h) → Course → Prop
  | new : Life h start [] start
  /-- Others do something between two cycles, or the engine is started. -/
  | meanwhile {cycles : List (Cycle h)} {c c' : Course} {events : List Event} {xs : List Exchange} :
    Life h start cycles c → (∀ e ∈ events, e.isCycle = false) → trace? h events c = some (xs, c') →
    c'.next.isIdle → Life h start cycles c'
  | cycle {cycles : List (Cycle h)} (k : Cycle h) :
    Life h start cycles k.before → Life h start (cycles ++ [k]) k.after

def lastFingerprint? (cycles : List (Cycle h)) : Option Fingerprint :=
  (cycles.filterMap (·.outcome.applied?)).getLast?

def lastReport? (cycles : List (Cycle h)) : Option ApplyReport :=
  (cycles.flatMap Cycle.reports).getLast?

theorem lastFingerprint?_of_mem_getLast? {cycles : List (Cycle h)} {last : Cycle h}
    (hm : last ∈ cycles.getLast?) {found : Fingerprint} (ho : last.outcome.applied? = some found) :
    lastFingerprint? cycles = some found := by
  obtain ⟨before, rfl⟩ := List.getLast?_eq_some_iff.mp hm
  simp [lastFingerprint?, ho]

theorem lastReport?_of_mem_getLast? {cycles : List (Cycle h)} {last : Cycle h}
    (hm : last ∈ cycles.getLast?) {report : ApplyReport} (hr : last.reports = [report]) :
    lastReport? cycles = some report := by
  obtain ⟨before, rfl⟩ := List.getLast?_eq_some_iff.mp hm
  simp [lastReport?, hr]

namespace Life

variable {start : Course} {cycles : List (Cycle h)}

theorem isIdle (hl : Life h start cycles c) (hs : start.next.isIdle) : c.next.isIdle := by
  induction hl with
  | new => exact hs
  | meanwhile _ _ _ hidle => exact hidle
  | cycle k => rw [k.ends]; rfl

/-- What an engine remembers as applied is what the last of its cycles that applied its maps had
found. -/
theorem lastApplied (hl : Life h start cycles c) (hs : start.next.isIdle) :
    c.engine.lastApplied = (lastFingerprint? cycles).or start.engine.lastApplied := by
  induction hl with
  | new => rfl
  | meanwhile hpast he ht _ ih =>
    rw [(between_of_trace? ht he (Next.isBetween_of_isIdle (hpast.isIdle hs))).1, ih]
  | cycle k _ ih =>
    rw [k.cycleEnds.lastApplied, ih]
    cases ho : k.outcome.applied? <;> simp [lastFingerprint?, ho]

/-- An engine remembers of the mail server only whether its last answer told of a failure. -/
theorem applyPending (hl : Life h start cycles c) (hs : start.next.isIdle) :
    c.engine.applyPending =
      ((lastReport? cycles).map fun r => decide (0 < r.failures)).getD
        start.engine.applyPending := by
  induction hl with
  | new => rfl
  | meanwhile hpast he ht _ ih =>
    rw [(between_of_trace? ht he (Next.isBetween_of_isIdle (hpast.isIdle hs))).2, ih]
  | cycle k _ ih =>
    rw [k.cycleEnds.applyPending, ih]
    change ((k.reports.getLast?).map _).getD _ = _
    cases hr : k.reports.getLast? <;> simp [lastReport?, hr]

/-- On the way to the end of a cycle, or of what happens between two. -/
inductive Open (h : History) (start c : Course) : Prop
  | between {cycles : List (Cycle h)} {c₀ : Course} {events : List Event} {xs : List Exchange} :
    Life h start cycles c₀ → (∀ e ∈ events, e.isCycle = false) → trace? h events c₀ =
      some (xs, c) → Open h start c
  | within {cycles : List (Cycle h)} {c₀ : Course} {reason : WakeReason} {events : List Event}
    {xs : List Exchange} :
    Life h start cycles c₀ → (∀ e ∈ events, e.begins = false) →
    trace? h (.cycle reason :: events) c₀ = some (xs, c) → Open h start c

theorem Open.close (ho : Open h start c) (hi : c.next.isIdle) :
    ∃ cycles, Life h start cycles c := by
  cases ho with
  | between hpast he ht => exact ⟨_, .meanwhile hpast he ht hi⟩
  | @within _ c₀ reason events xs hpast hb ht =>
    obtain ⟨o, ho, -⟩ := cycleEnds_of_trace? ht hb hi
    exact ⟨_, .cycle ⟨c₀, reason, events, xs, c, o, hb, ht, ho⟩ hpast⟩

theorem Open.step (ho : Open h start c) (ha : c.act? h e = some c') : Open h start c' := by
  have hstep := trace?_singleton ha
  have hbegins : e.begins → c.next.isIdle := fun hb => by
    cases transition_of_act? ha with
    | start hidle | cycle _ hidle => exact hidle
    | _ => cases hb
  by_cases hb : e.begins
  · obtain ⟨cycles, hpast⟩ := ho.close (hbegins hb)
    cases e with
    | start => exact .between hpast (by simp [Event.isCycle]) hstep
    | cycle reason => exact .within hpast (by simp) hstep
    | _ => cases hb
  · have hb' := Bool.eq_false_iff.mpr hb
    cases ho with
    | between hpast he ht =>
      have hcycle : e.isCycle = false := by cases e <;> first | rfl | cases hb'
      exact .between hpast (List.forall_mem_append.mpr ⟨he, by simpa using hcycle⟩)
        (trace?_append ht hstep)
    | within hpast hbs ht =>
      exact .within hpast (List.forall_mem_append.mpr ⟨hbs, by simpa using hb'⟩)
        (trace?_append ht hstep)

/-- Every course that has come to rest is a life. -/
theorem exists_of_reachable {promise : Promise} (hc : Reachable h promise start c)
    (hi : c.next.isIdle) :
    ∃ cycles, Life h start cycles c := by
  have hopen : Open h start c := by
    clear hi
    induction hc with
    | start => exact .between .new (List.forall_mem_nil _) rfl
    | step _ ha _ ih => exact ih.step ha
  exact hopen.close hi

theorem append {past more : List (Cycle h)} (hl : Life h start past c) (hm : Life h c more c') :
    Life h start (past ++ more) c' := by
  induction hm with
  | new => simpa using hl
  | meanwhile _ he ht hi ih => exact .meanwhile ih he ht hi
  | cycle k _ ih => simpa using ih.cycle k

end Life

/-- A cycle with the events in it, if all of them can happen and it comes to its outcome. -/
def cycle? (h : History) (c : Course) (reason : WakeReason) (events : List Event) :
    Option (Cycle h) :=
  if within : ∀ e ∈ events, e.begins = false then
    match passes : trace? h (.cycle reason :: events) c with
    | some (exchanges, after) =>
      match ends : after.next with
      | .finished outcome =>
        some ⟨c, reason, events, exchanges, after, outcome, within, passes, ends⟩
      | _ => none
    | none => none
  else none

theorem of_cycle? {reason : WakeReason} {k : Cycle h} (hk : cycle? h c reason events = some k) :
    k.before = c ∧ k.reason = reason := by
  unfold cycle? at hk
  split at hk
  · split at hk
    · split at hk
      · obtain rfl := Option.some.inj hk
        exact ⟨rfl, rfl⟩
      · cases hk
    · cases hk
  · cases hk

def live? (h : History) : List (WakeReason × List Event) → Course → Option (List (Cycle h) × Course)
  | [], c => some ([], c)
  | (reason, events) :: rest, c =>
    (cycle? h c reason events).bind fun k => (live? h rest k.after).map fun p => (k :: p.1, p.2)

theorem life_of_live? {plan : List (WakeReason × List Event)} {cycles : List (Cycle h)}
    (hr : live? h plan c = some (cycles, c')) : Life h c cycles c' := by
  induction plan generalizing c cycles with
  | nil =>
    obtain ⟨rfl, rfl⟩ := Prod.mk.inj (Option.some.inj hr)
    exact .new
  | cons step plan ih =>
    obtain ⟨k, hk, hlive⟩ := Option.bind_eq_some_iff.mp hr
    obtain ⟨⟨rest, c₂⟩, hrest, heq⟩ := Option.map_eq_some_iff.mp hlive
    obtain ⟨rfl, rfl⟩ := Prod.mk.inj heq
    obtain ⟨rfl, -⟩ := of_cycle? hk
    exact (Life.new.cycle k).append (ih hrest)

end Course
end BlocklistSync
