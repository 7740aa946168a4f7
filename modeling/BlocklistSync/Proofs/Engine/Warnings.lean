import BlocklistSync.Proofs.Engine.HandOver
import BlocklistSync.Proofs.Engine.Story
import BlocklistSync.Proofs.Maps.Readers

/-! When the engine warns that pattern rules will not be enforced. What it knows is told by the
replies that it has got: what the mail server said of pattern maps when it was last asked, and
whether the store has handed over pattern entries since it said no. -/
namespace BlocklistSync

def LogLine.isWarning (l : LogLine) : Bool := l.area = .engine && l.level = .warn

namespace Exchange

def probed? : Exchange → Option Bool
  | ⟨.probe, supported⟩ => some supported
  | ⟨.connect, _⟩ | ⟨.fingerprint _, _⟩ | ⟨.entries _, _⟩ => none
  | ⟨.write _ _, _⟩ | ⟨.apply _ _ _, _⟩ | ⟨.reapply, _⟩ => none

def fetched? : Exchange → Option (List Entry)
  | ⟨.entries _, .ok entries⟩ => some entries
  | ⟨.entries _, .error _⟩ | ⟨.connect, _⟩ | ⟨.probe, _⟩ | ⟨.fingerprint _, _⟩ => none
  | ⟨.write _ _, _⟩ | ⟨.apply _ _ _, _⟩ | ⟨.reapply, _⟩ => none

def compiled? : Exchange → Option (List Entry)
  | ⟨.write _ entries, _⟩ => some entries
  | ⟨.connect, _⟩ | ⟨.probe, _⟩ | ⟨.fingerprint _, _⟩ | ⟨.entries _, _⟩ | ⟨.apply _ _ _, _⟩
  | ⟨.reapply, _⟩ => none

end Exchange

namespace Engine
open Chapter Exchange

def warnings (log : Log) : Log := log.filter (·.isWarning)

@[simp] theorem warnings_nil : warnings [] = [] := rfl

@[simp] theorem warnings_append (log log' : Log) :
    warnings (log ++ log') = warnings log ++ warnings log' :=
  List.filter_append ..

def logs : Engine → List Exchange → Log
  | _, [] => []
  | e, x :: xs => (e.receive x.request x.reply).log ++ (e.receive x.request x.reply).engine.logs xs

def handed (xs : List Exchange) : List Entry := (xs.filterMap fetched?).flatten

/-- The mail server has said, when last asked, that it knows no pattern maps, and now the store
hands over pattern entries. -/
structure IsDue (past xs : List Exchange) : Prop where
  unsupported : (past.filterMap probed?).getLast? = some false
  patterns : 0 < (handed xs).countP (·.isRegex)

/-- At one of these replies a warning was due. -/
def HasBeenDue (past : List Exchange) : Prop :=
  ∃ before x later, past = before ++ x :: later ∧ IsDue before [x]

/-- The warning stands in the log if it is due for the first time, and else no warning does. -/
structure Warns (past xs : List Exchange) (log : Log) : Prop where
  due : IsDue past xs → ¬ HasBeenDue past → warnings log = [unenforcedLine (compile (handed xs))]
  undue : ¬ IsDue past xs ∨ HasBeenDue past → warnings log = []

variable {e e' : Engine} {past xs : List Exchange} {x : Exchange} {next next' : Next} {log : Log}

section Due

theorem handed_cons_of_none (hx : x.fetched? = none) : handed (x :: xs) = handed xs := by
  rw [handed, handed, List.filterMap_cons_none hx]

theorem handed_cons_of_some {entries : List Entry} (hx : x.fetched? = some entries) :
    handed (x :: xs) = entries ++ handed xs := by
  rw [handed, handed, List.filterMap_cons_some hx, List.flatten_cons]

theorem handed_singleton {entries : List Entry} (hx : x.fetched? = some entries) :
    handed [x] = entries := by
  rw [handed_cons_of_some hx]
  exact List.append_nil _

theorem handed_of_forall (hq : ∀ x ∈ xs, x.fetched? = none) : handed xs = [] := by
  rw [handed, List.filterMap_eq_nil_iff.mpr hq, List.flatten_nil]

theorem not_isDue (hq : ∀ x ∈ xs, x.fetched? = none) : ¬ IsDue past xs := by
  intro hd
  have hp := hd.patterns
  rw [handed_of_forall hq] at hp
  exact Nat.lt_irrefl 0 hp

theorem isDue_cons : IsDue past (x :: xs) ↔ IsDue past [x] ∨ IsDue past xs := by
  have hcount : (handed (x :: xs)).countP (·.isRegex) =
      (handed [x]).countP (·.isRegex) + (handed xs).countP (·.isRegex) := by
    rcases hx : x.fetched? with _ | entries
    · rw [handed_cons_of_none hx, handed_cons_of_none hx]
      exact (Nat.zero_add _).symm
    · rw [handed_cons_of_some hx, handed_cons_of_some hx, List.countP_append, List.countP_append]
      rfl
  constructor
  · rintro ⟨hu, hp⟩
    rw [hcount] at hp
    exact (Nat.add_pos_iff_pos_or_pos.mp hp).imp (⟨hu, ·⟩) (⟨hu, ·⟩)
  · rintro (⟨hu, hp⟩ | ⟨hu, hp⟩) <;> exact ⟨hu, by omega⟩

theorem isDue_congr {past' : List Exchange}
    (hp : past'.filterMap probed? = past.filterMap probed?) :
    IsDue past' xs ↔ IsDue past xs :=
  ⟨fun h => ⟨hp ▸ h.unsupported, h.patterns⟩, fun h => ⟨hp ▸ h.unsupported, h.patterns⟩⟩

theorem not_hasBeenDue (hq : ∀ x ∈ past, x.fetched? = none) : ¬ HasBeenDue past := by
  rintro ⟨before, x, later, rfl, hd⟩
  exact not_isDue (by simpa using hq x (by simp)) hd

theorem hasBeenDue_snoc : HasBeenDue (past ++ [x]) ↔ HasBeenDue past ∨ IsDue past [x] := by
  constructor
  · rintro ⟨before, y, later, h, hd⟩
    rcases List.eq_nil_or_concat later with rfl | ⟨later, z, rfl⟩
    · obtain ⟨rfl, hy⟩ := List.append_inj' h rfl
      obtain rfl := List.singleton_inj.mp hy
      exact .inr hd
    · rw [List.concat_eq_append, ← List.cons_append, ← List.append_assoc] at h
      obtain ⟨rfl, -⟩ := List.append_inj' h rfl
      exact .inl ⟨before, y, later, rfl, hd⟩
  · rintro (⟨before, y, later, rfl, hd⟩ | hd)
    · exact ⟨before, y, later ++ [x], by simp, hd⟩
    · exact ⟨past, x, [], rfl, hd⟩

/-- While the mail server is not asked again, a warning becomes due with the pattern entries. -/
theorem hasBeenDue_append (hp : xs.filterMap probed? = []) :
    HasBeenDue (past ++ xs) ↔ HasBeenDue past ∨ IsDue past xs := by
  induction xs generalizing past with
  | nil => simp [not_isDue]
  | cons x xs ih =>
    obtain ⟨hx, hxs⟩ := List.forall_mem_cons.mp (List.filterMap_eq_nil_iff.mp hp)
    have hsame : (past ++ [x]).filterMap probed? = past.filterMap probed? := by simp [hx]
    rw [List.append_cons, ih (List.filterMap_eq_nil_iff.mpr hxs), hasBeenDue_snoc,
      isDue_congr hsame, or_assoc, ← isDue_cons]

end Due

section Receive

theorem warnings_failureLog (what : String) (b : Backoff) (f : Fault) :
    warnings (Retry.failureLog what b f) = [] := by
  unfold Retry.failureLog
  split <;> rfl

theorem warnings_servedLog (e : Engine) (what : String) : warnings (e.servedLog what) = [] := by
  unfold servedLog Retry.successLog
  split <;> rfl

/-- What is the same of an engine as long as it gets no entries, and what is new of it if the mail
server was asked. -/
structure Learns (e : Engine) (supported? : Option Bool) (e' : Engine) : Prop where
  support : e'.patternSupport = supported?.or e.patternSupport
  warned : e'.warnedUnenforced = e.warnedUnenforced
  counted : e'.stats.unenforcedWarnings = e.stats.unenforcedWarnings

theorem compareFingerprint_quiet (e : Engine) (reason : WakeReason) (found : Fingerprint) :
    e.Learns none (e.compareFingerprint reason found).engine ∧
      warnings (e.compareFingerprint reason found).log = [] := by
  unfold compareFingerprint
  split
  · split <;> exact ⟨⟨rfl, rfl, rfl⟩, rfl⟩
  · exact ⟨⟨rfl, rfl, rfl⟩, rfl⟩

/-- No reply but entries is worth a warning. -/
theorem receive_quiet (e : Engine) (request : Request) (reply : request.Reply)
    (hx : fetched? ⟨request, reply⟩ = none) :
    e.Learns (probed? ⟨request, reply⟩) (e.receive request reply).engine ∧
      warnings (e.receive request reply).log = [] := by
  cases request with
  | connect =>
    cases reply with
    | error f => exact ⟨⟨rfl, rfl, rfl⟩, warnings_failureLog ..⟩
    | ok => exact ⟨⟨rfl, rfl, rfl⟩, warnings_servedLog ..⟩
  | probe => exact ⟨⟨rfl, rfl, rfl⟩, rfl⟩
  | fingerprint reason =>
    cases reply with
    | error f => exact ⟨⟨rfl, rfl, rfl⟩, warnings_failureLog ..⟩
    | ok found =>
      obtain ⟨hlearns, hlog⟩ := e.served.compareFingerprint_quiet reason found
      refine ⟨⟨hlearns.support, hlearns.warned, hlearns.counted⟩, ?_⟩
      rw [receive, warnings_append, warnings_servedLog, hlog, List.nil_append]
  | entries found =>
    cases reply with
    | error f => exact ⟨⟨rfl, rfl, rfl⟩, warnings_failureLog ..⟩
    | ok entries => cases hx
  | write => cases reply <;> exact ⟨⟨rfl, rfl, rfl⟩, rfl⟩
  | apply | reapply => exact ⟨⟨rfl, rfl, rfl⟩, rfl⟩

theorem receive_entries_of_warnsOf (found : Fingerprint) {entries : List Entry}
    (hw : e.warnsOf (compile entries)) :
    (e.receive (.entries found) (.ok entries)).engine.patternSupport = e.patternSupport ∧
      (e.receive (.entries found) (.ok entries)).engine.warnedUnenforced = true ∧
      (e.receive (.entries found) (.ok entries)).engine.stats.unenforcedWarnings =
        e.stats.unenforcedWarnings + 1 ∧
      warnings (e.receive (.entries found) (.ok entries)).log =
        [unenforcedLine (compile entries)] := by
  have hw' : e.served.warnsOf (compile entries) := hw
  simp only [receive, prepare, if_pos hw', warnings_append, warnings_servedLog]
  exact ⟨rfl, trivial, rfl, rfl⟩

theorem receive_entries_of_not_warnsOf (found : Fingerprint) {entries : List Entry}
    (hw : ¬ e.warnsOf (compile entries)) :
    e.Learns none (e.receive (.entries found) (.ok entries)).engine ∧
      warnings (e.receive (.entries found) (.ok entries)).log = [] := by
  have hw' : ¬ e.served.warnsOf (compile entries) := hw
  simp only [receive, prepare, if_neg hw', warnings_append, warnings_servedLog]
  exact ⟨⟨rfl, rfl, rfl⟩, rfl⟩

end Receive

section Aware

/-- What an engine knows that has got these replies. -/
structure Aware (past : List Exchange) (e : Engine) : Prop where
  support : e.patternSupport = (past.filterMap probed?).getLast?
  warned : e.warnedUnenforced ↔ HasBeenDue past
  counted : e.stats.unenforcedWarnings = if e.warnedUnenforced then 1 else 0

theorem Aware.learns (h : Aware past e) (hd : ¬ IsDue past [x] ∨ HasBeenDue past)
    (hl : e.Learns x.probed? e') :
    Aware (past ++ [x]) e' where
  support := by
    rw [hl.support, h.support, List.filterMap_append, List.getLast?_append]
    rcases hx : x.probed? with _ | supported
    · rw [List.filterMap_cons_none hx]
      rfl
    · rw [List.filterMap_cons_some hx]
      rfl
  warned := by
    rw [hl.warned, h.warned, hasBeenDue_snoc]
    tauto
  counted := by rw [hl.counted, h.counted, hl.warned]

theorem Aware.congr (h : Aware past e) (hl : e.Learns none e') : Aware past e' where
  support := hl.support.trans h.support
  warned := hl.warned ▸ h.warned
  counted := by rw [hl.counted, h.counted, hl.warned]

/-- The engine warns just if it knows that the warning is due and has not been before. -/
theorem Aware.warnsOf_iff (h : Aware past e) {entries : List Entry}
    (hx : x.fetched? = some entries) :
    e.warnsOf (compile entries) ↔ IsDue past [x] ∧ ¬ HasBeenDue past := by
  have hhanded := handed_singleton hx
  rw [warnsOf, h.support, ← h.warned, Bool.and_eq_true, Bool.and_eq_true, beq_iff_eq,
    decide_eq_true_iff]
  constructor
  · rintro ⟨⟨hu, hp⟩, hw⟩
    exact ⟨⟨hu, hhanded ▸ hp⟩, by simpa using hw⟩
  · rintro ⟨⟨hu, hp⟩, hw⟩
    exact ⟨⟨hu, hhanded ▸ hp⟩, by simpa using hw⟩

theorem eq_entries_of_fetched? {entries : List Entry} (hx : x.fetched? = some entries) :
    ∃ found, x = ⟨.entries found, .ok entries⟩ := by
  obtain ⟨request, reply⟩ := x
  cases request with
  | entries found =>
    cases reply with
    | error => cases hx
    | ok => exact ⟨found, by rw [Option.some.inj hx]⟩
  | connect | probe | fingerprint | write | apply | reapply => cases hx

/-- Each reply is noticed, and a warning is given if it is due for the first time. -/
theorem Aware.receive (h : Aware past e) (x : Exchange) :
    Aware (past ++ [x]) (e.receive x.request x.reply).engine ∧ Warns past [x]
      (e.receive x.request x.reply).log := by
  rcases hx : x.fetched? with _ | entries
  · obtain ⟨hlearns, hlog⟩ := e.receive_quiet x.request x.reply hx
    have hundue : ¬ IsDue past [x] := not_isDue (by simpa using hx)
    exact ⟨h.learns (.inl hundue) hlearns, fun hd => absurd hd hundue, fun _ => hlog⟩
  · have hiff := h.warnsOf_iff hx
    obtain ⟨found, rfl⟩ := eq_entries_of_fetched? hx
    by_cases hw : e.warnsOf (compile entries)
    · obtain ⟨hsupport, hwarned, hcounted, hlog⟩ := receive_entries_of_warnsOf found hw
      obtain ⟨hd, hn⟩ := hiff.mp hw
      have hsilent : ¬ e.warnedUnenforced := mt h.warned.mp hn
      refine ⟨⟨?_, ?_, ?_⟩, fun _ _ => ?_, fun hu => absurd hu (by tauto)⟩
      · rw [hsupport, h.support, List.filterMap_append]
        exact congrArg _ (List.append_nil _).symm
      · rw [hwarned, hasBeenDue_snoc]
        simp [hd]
      · rw [hcounted, hwarned, h.counted, if_neg hsilent, if_pos rfl]
        rfl
      · rw [hlog, handed_singleton hx]
    · obtain ⟨hlearns, hlog⟩ := receive_entries_of_not_warnsOf found hw
      have hundue := mt hiff.mpr hw
      have hor : ¬ IsDue past [⟨.entries found, .ok entries⟩] ∨ HasBeenDue past := by tauto
      exact ⟨h.learns hor hlearns, fun hd hn => absurd ⟨hd, hn⟩ hundue, fun _ => hlog⟩

theorem Aware.dialogue (h : Aware past e) (hd : Dialogue e next xs e' next') :
    Aware (past ++ xs) e' := by
  induction hd generalizing past with
  | still => simpa using h
  | @ask e _ request reply xs _ _ ih =>
    rw [List.append_cons]
    exact ih (h.receive ⟨request, reply⟩).1
  | resume _ ih | giveUp _ ih => exact ih h

theorem logs_quiet (hq : ∀ x ∈ xs, x.fetched? = none) : warnings (e.logs xs) = [] := by
  induction xs generalizing e with
  | nil => rfl
  | cons x xs ih =>
    obtain ⟨hx, hxs⟩ := List.forall_mem_cons.mp hq
    rw [logs, warnings_append, (e.receive_quiet x.request x.reply hx).2, ih hxs, List.nil_append]

theorem Warns.cons_of_none {log' : Log} (hp : x.probed? = none) (hx : x.fetched? = none)
    (hl : warnings log = []) (h : Warns (past ++ [x]) xs log') :
    Warns past (x :: xs) (log ++ log') := by
  have hundue : ¬ IsDue past [x] := not_isDue (by simpa using hx)
  have hsame : (past ++ [x]).filterMap probed? = past.filterMap probed? := by simp [hp]
  have hdue : IsDue past (x :: xs) ↔ IsDue (past ++ [x]) xs := by
    rw [isDue_cons, isDue_congr hsame, or_iff_right hundue]
  have hbefore : HasBeenDue past ↔ HasBeenDue (past ++ [x]) := by
    rw [hasBeenDue_snoc, or_iff_left hundue]
  constructor
  · intro hd hn
    rw [warnings_append, hl, h.due (hdue.mp hd) (mt hbefore.mpr hn), handed_cons_of_none hx,
      List.nil_append]
  · intro hd
    rw [hdue, hbefore] at hd
    rw [warnings_append, hl, h.undue hd, List.nil_append]

theorem Warns.cons_of_forall {log' : Log} (hq : ∀ y ∈ xs, y.fetched? = none)
    (hl : warnings log' = []) (h : Warns past [x] log) : Warns past (x :: xs) (log ++ log') := by
  have hdue : IsDue past (x :: xs) ↔ IsDue past [x] := by
    rw [isDue_cons, or_iff_left (not_isDue hq)]
  have hhanded : handed (x :: xs) = handed [x] := by
    rcases hx : x.fetched? with _ | entries
    · rw [handed_cons_of_none hx, handed_cons_of_none hx, handed_of_forall hq]
      rfl
    · rw [handed_cons_of_some hx, handed_singleton hx, handed_of_forall hq, List.append_nil]
  constructor
  · intro hd hn
    rw [warnings_append, hl, h.due (hdue.mp hd) hn, hhanded, List.append_nil]
  · intro hd
    rw [hdue] at hd
    rw [warnings_append, hl, h.undue hd, List.append_nil]

/-- Replies that hand entries over at most once, and without the mail server being asked again, make
the engine warn if that is due for the first time. -/
theorem Aware.warns (h : Aware past e) (hp : xs.filterMap probed? = [])
    (hf : (xs.filterMap fetched?).length ≤ 1) :
    Warns past xs (e.logs xs) := by
  induction xs generalizing past e with
  | nil => exact ⟨fun hd => absurd hd (not_isDue (by simp)), fun _ => rfl⟩
  | cons x xs ih =>
    obtain ⟨hnext, hwarns⟩ := h.receive x
    obtain ⟨hx, hxs⟩ := List.forall_mem_cons.mp (List.filterMap_eq_nil_iff.mp hp)
    rcases hfetched : x.fetched? with _ | entries
    · rw [List.filterMap_cons_none hfetched] at hf
      have hrest := ih hnext (List.filterMap_eq_nil_iff.mpr hxs) hf
      exact hrest.cons_of_none hx hfetched (e.receive_quiet x.request x.reply hfetched).2
    · rw [List.filterMap_cons_some hfetched, List.length_cons] at hf
      have hquiet : ∀ y ∈ xs, y.fetched? = none :=
        List.filterMap_eq_nil_iff.mp (List.length_eq_zero_iff.mp (by omega))
      exact hwarns.cons_of_forall hquiet (logs_quiet hquiet)

end Aware

end Engine

/-- What is left of an allowance for the requests to come. -/
def Next.allowance (a : Request → ℕ) : Next → ℕ
  | .ask request | .pause _ request => a request
  | .started _ | .finished _ => 0

namespace Engine
open Chapter Exchange

variable {e e' e₀ : Engine} {past xs : List Exchange} {next next' : Next}

section Allowance

/-- What each reply takes from an allowance, all of them together cannot exceed. -/
theorem Dialogue.length_filterMap_le {α : Type} {f : Exchange → Option α} {a : Request → ℕ}
    (hstep : ∀ (e : Engine) x, (f x).toList.length + (e.receive x.request x.reply).next.allowance
      a ≤ a x.request)
    (hd : Dialogue e next xs e' next') : (xs.filterMap f).length ≤ next.allowance a := by
  induction hd with
  | still => exact Nat.zero_le _
  | @ask e _ request reply xs _ _ ih =>
    have hx := hstep e ⟨request, reply⟩
    rw [List.filterMap_cons]
    rcases hf : f ⟨request, reply⟩ with _ | y
    · rw [hf] at hx
      simp only [Option.toList_none, List.length_nil, Nat.zero_add] at hx
      exact ih.trans hx
    · rw [hf] at hx
      simp only [Option.toList_some, List.length_singleton] at hx
      simp only [List.length_cons]
      exact (Nat.add_comm .. ▸ Nat.add_le_add_left ih 1).trans hx
  | resume _ ih => exact ih
  | @giveUp _ _ _ request _ _ _ ih =>
    have hnone : (Next.cancelled request).allowance a = 0 := by cases request <;> rfl
    exact (ih.trans hnone.le).trans (Nat.zero_le _)

/-- Entries are handed over at most once, and in cycles only. -/
theorem Dialogue.fetches_le (hd : Dialogue e next xs e' next') :
    (xs.filterMap fetched?).length ≤ next.allowance fun
      | .fingerprint _ | .entries _ => 1
      | _ => 0 := by
  refine hd.length_filterMap_le fun e x => ?_
  obtain ⟨request, reply⟩ := x
  cases request with
  | fingerprint reason =>
    cases reply with
    | error => exact Nat.le_refl 1
    | ok found =>
      rcases e.served.compareFingerprint_next reason found with ⟨-, hn | hn⟩ | hn <;>
        simp [receive, hn, Next.allowance, fetched?]
  | entries found =>
    cases reply with
    | error => exact Nat.le_refl 1
    | ok entries => simp [receive, prepare_next, Next.allowance, fetched?]
  | connect | write => cases reply <;> exact Nat.le_refl 0
  | probe | apply | reapply => exact Nat.le_refl 0

theorem Dialogue.probes_le (hd : Dialogue e next xs e' next') :
    (xs.filterMap probed?).length ≤ next.allowance fun
      | .connect | .probe => 1
      | _ => 0 := by
  refine hd.length_filterMap_le fun e x => ?_
  obtain ⟨request, reply⟩ := x
  cases request with
  | fingerprint reason =>
    cases reply with
    | error => exact Nat.le_refl 0
    | ok found =>
      rcases e.served.compareFingerprint_next reason found with ⟨-, hn | hn⟩ | hn <;>
        simp [receive, hn, Next.allowance, probed?]
  | entries found =>
    cases reply with
    | error => exact Nat.le_refl 0
    | ok entries => simp [receive, prepare_next, Next.allowance, probed?]
  | connect => cases reply <;> exact Nat.le_refl 1
  | write => cases reply <;> exact Nat.le_refl 0
  | probe => exact Nat.le_refl 1
  | apply | reapply => exact Nat.le_refl 0

end Allowance

/-- The maps that are written are those of the entries handed over. -/
theorem CycleEnds.compiled {reason : WakeReason} {o : Outcome} (hc : e.CycleEnds reason xs e' o) :
    xs.filterMap compiled? = xs.filterMap fetched? := by
  cases hc <;> simp [comparing, fetching, inVain, List.filterMap_cons, compiled?, fetched?,
    Function.comp_def]

theorem receive_unenforcedWarnings (e : Engine) (x : Exchange) :
    (e.receive x.request x.reply).engine.stats.unenforcedWarnings =
      e.stats.unenforcedWarnings + (warnings
        (e.receive x.request x.reply).log).length.toUInt64 := by
  rcases hx : x.fetched? with _ | entries
  · obtain ⟨hlearns, hlog⟩ := e.receive_quiet x.request x.reply hx
    rw [hlearns.counted, hlog]
    exact (UInt64.add_zero _).symm
  · obtain ⟨found, rfl⟩ := eq_entries_of_fetched? hx
    by_cases hw : e.warnsOf (compile entries)
    · obtain ⟨-, -, hcounted, hlog⟩ := receive_entries_of_warnsOf found hw
      rw [hcounted, hlog]
      rfl
    · obtain ⟨hlearns, hlog⟩ := receive_entries_of_not_warnsOf found hw
      rw [hlearns.counted, hlog]
      exact (UInt64.add_zero _).symm

theorem Dialogue.unenforcedWarnings (hd : Dialogue e next xs e' next') :
    e'.stats.unenforcedWarnings = e.stats.unenforcedWarnings +
      (warnings (e.logs xs)).length.toUInt64 := by
  induction hd with
  | still => exact (UInt64.add_zero _).symm
  | @ask e _ request reply xs _ _ ih =>
    rw [ih, e.receive_unenforcedWarnings ⟨request, reply⟩, logs, warnings_append,
      List.length_append, Nat.toUInt64_eq, Nat.toUInt64_eq, Nat.toUInt64_eq, UInt64.ofNat_add,
      UInt64.add_assoc]
  | resume _ ih | giveUp _ ih => exact ih

section Lives

variable {chapters : List Chapter}

theorem aware_new (paths : MapPaths) (interval : Duration) (backoff : Backoff) :
    Aware [] (.new paths interval backoff) where
  support := rfl
  warned := by simp [new, not_hasBeenDue]
  counted := rfl

theorem Aware.beginCycle (h : Aware past e) : Aware past e.beginCycle := h.congr ⟨rfl, rfl, rfl⟩

theorem Story.aware (hs : Story e₀ chapters e) (h₀ : Aware [] e₀) : Aware (talk chapters) e := by
  induction hs with
  | new => exact h₀
  | start _ hd ih => simpa [talk, exchanges] using ih.dialogue hd
  | wake _ reason ih =>
    have hsame : Aware (talk _) (woken _ reason) :=
      ih.congr (by cases reason <;> exact ⟨rfl, rfl, rfl⟩)
    simpa [talk, exchanges] using hsame
  | cycle _ hd ih => simpa [talk, exchanges] using ih.beginCycle.dialogue hd

end Lives

end Engine

namespace Daemon
open Engine

variable {e₀ : Engine} {d d' : Daemon} {log : Log}

theorem Along.aware {past : List Chapter} {xs : List Exchange} (h : Along e₀ past xs d)
    (h₀ : Aware [] e₀) :
    Aware (told past xs) d.engine := by
  cases h with
  | starting hd => exact h₀.dialogue hd
  | neverStarted hd => simpa [told, Chapter.talk, Chapter.exchanges] using h₀.dialogue hd
  | cycling hs _ hd => exact (hs.aware h₀).beginCycle.dialogue hd
  | between hs =>
    rw [told, List.append_nil]
    exact hs.aware h₀

theorem warnings_follow (d : Daemon) (next : Next) : warnings (d.follow next).2 = [] := by
  cases next with
  | ask | pause => rfl
  | started connected => cases connected <;> rfl
  | finished o => cases o <;> rfl

theorem warnings_stir (hs : d.stir? = some (d', log)) : warnings log = [] := by
  unfold stir? at hs
  split at hs
  · split at hs
    · obtain rfl := congrArg Prod.snd (Option.some.inj hs)
      exact warnings_follow ..
    · cases hs
  · split at hs
    · obtain rfl := congrArg Prod.snd (Option.some.inj hs)
      exact warnings_follow ..
    · split at hs
      · obtain rfl := congrArg Prod.snd (Option.some.inj hs)
        rfl
      · cases hs
  · cases hs
  · cases hs

theorem Reaches.warns {deeds : List Deed} (hr : Reaches (.start e₀) deeds d) (h₀ : Aware [] e₀)
    (x : Exchange) :
    Warns (deeds.filterMap Deed.exchange?) [x] (d.receive x.request x.reply).2 := by
  obtain ⟨past, xs, halong, htold⟩ := hr.along
  obtain ⟨-, hdue, hundue⟩ := (halong.aware h₀).receive x
  have hlog : warnings (d.receive x.request x.reply).2 =
      warnings (d.engine.receive x.request x.reply).log := by
    rw [Daemon.receive, warnings_append, warnings_follow, List.append_nil]
  rw [← htold]
  exact ⟨fun hd hn => hlog.trans (hdue hd hn), fun hd => hlog.trans (hundue hd)⟩

end Daemon

/-- The line of a rule stands in the map that it belongs to. -/
theorem render_in_compile {entries : List Entry} {entry : Entry} (he : entry ∈ entries) :
    ∃ before later, (compile entries).get (.ofEntry entry) =
      before ++ (MapKind.ofEntry entry).render entry.pattern ++ later := by
  have hm : entry ∈ (sortedEntries entries).filter (MapKind.ofEntry · = MapKind.ofEntry entry) := by
    simp [(sortedEntries_perm entries).mem_iff, he]
  obtain ⟨front, back, hsplit⟩ := List.append_of_mem hm
  rw [get_compile, mapText, hsplit, List.map_append, List.map_cons, String.join_append,
    String.join_cons, ← String.append_assoc]
  exact ⟨_, _, rfl⟩

theorem render_pattern {entry : Entry} (hr : entry.isRegex) :
    (MapKind.ofEntry entry).render entry.pattern = s!"/{entry.pattern}/ REJECT\n" := by
  rw [MapKind.render, MapKind.isPattern_ofEntry, if_pos hr]

namespace Controller

variable {σ : Type} (run : Runner σ) (c : CommandSettings) (state : σ)

theorem area_index (phase : Phase) (path : String) :
    ∀ l ∈ (index run c state phase path).log, l.area = .controller := by
  unfold index
  dsimp only
  split <;> simp [indexFailureLine, LogLine.warn]

theorem area_reload (phase : Phase) :
    ∀ l ∈ (reload run c state phase).log, l.area = .controller := by
  unfold reload
  dsimp only
  split
  · simp
  · split <;> simp [reloadingLine, reloadFailureLine, LogLine.info, LogLine.warn]

/-- What is logged of handing maps over is marked as coming from the controller. -/
theorem area_apply (paths : MapPaths) :
    ∀ l ∈ (apply run c state paths).log, l.area = .controller := by
  intro l hl
  simp only [apply, List.mem_append] at hl
  rcases hl with ((hl | hl) | hl) | hl
  · exact area_index _ _ _ _ _ l hl
  · exact area_index _ _ _ _ _ l hl
  · exact area_reload _ _ _ _ l hl
  · unfold summary at hl
    split at hl
    · cases hl
    · rw [List.mem_singleton.mp hl]
      rfl

theorem area_probe : ∀ l ∈ (probe run c state).log, l.area = .controller := by
  unfold probe probeIn
  dsimp only
  split <;> simp [probeFailureLine, LogLine.error]

end Controller

namespace Session
open Engine

variable {cancelAt : Option ℕ} {s s' : Session} {next next' : Next} {xs : List Exchange} {log : Log}

theorem warnings_of_area (h : ∀ l ∈ log, l.area ≠ .engine) : warnings log = [] := by
  refine List.filter_eq_nil_iff.mpr fun l hl => ?_
  simp [LogLine.isWarning, h l hl]

theorem warnings_perform (w : World) (paths : MapPaths) (request : Request) :
    warnings (w.perform paths request).log = [] := by
  cases request with
  | connect =>
    unfold World.perform World.connect
    split
    · rfl
    · rfl
    · dsimp only
      cases (w.database.store.connect w.tree).2 <;> rfl
  | probe =>
    unfold World.perform World.probe
    split
    · exact warnings_of_area fun l hl => by simp [Controller.area_probe _ _ _ l hl]
    · rfl
  | fingerprint | entries => rfl
  | write found entries =>
    refine warnings_of_area fun l hl => ?_
    simp only [World.perform, MapWriter.log] at hl
    split at hl
    · obtain ⟨m, -, rfl⟩ := List.mem_map.mp hl
      simp [MapWriter.logLine, LogLine.info]
    · cases hl
  | apply | reapply =>
    simp only [World.perform, World.apply]
    split
    · exact warnings_of_area fun l hl => by simp [Controller.area_apply _ _ _ _ l hl]
    · rfl

theorem Runs.warnings_log [Timer] (hr : Runs cancelAt s next xs s' next') :
    warnings s'.log = warnings s.log ++ warnings (s.engine.logs xs) := by
  induction hr with
  | still => simp [logs]
  | @ask s _ request xs _ _ ih =>
    have hlog : (s.ask request).1.log = s.log ++ (s.world.perform s.engine.paths request).log ++
      (s.engine.receive request (s.exchange request).reply).log := rfl
    rw [ih, hlog, warnings_append, warnings_append, warnings_perform, List.append_nil, logs,
      warnings_append, List.append_assoc]
    rfl
  | @pause s _ delay request _ _ _ ih =>
    unfold Session.pause at ih
    dsimp only at ih
    split at ih <;> exact ih

end Session

namespace Engine
open Chapter Exchange

/-- The counter shows whether the warning has been due. -/
structure Counted (past : List Exchange) (e : Engine) : Prop where
  given : HasBeenDue past → e.stats.unenforcedWarnings = 1
  silent : ¬ HasBeenDue past → e.stats.unenforcedWarnings = 0

theorem Aware.toCounted {past : List Exchange} {e : Engine} (h : Aware past e) :
    e.Counted past where
  given hd := by rw [h.counted, if_pos (h.warned.mpr hd)]
  silent hd := by rw [h.counted, if_neg (mt h.warned.mp hd)]

/-- The engine warns in the first cycle that gets pattern entries after the mail server has said
that it knows no pattern maps, whatever becomes of the cycle then, and at no other time; and so does
a daemon. Pattern entries are written in any case: a cycle that gets entries has their maps written,
and each pattern stands in the map that it belongs to, which is where its path leads after a write
that went through. -/
theorem warns_once_when_due [Timer] (paths : MapPaths) (interval : Duration) (backoff : Backoff) :
    (∀ past e, Story (.new paths interval backoff) past e →
      e.Counted (talk past) ∧
      (∀ xs e' next', Dialogue e (.ask .connect) xs e' next' →
        warnings (e.logs xs) = [] ∧ e'.stats.unenforcedWarnings = e.stats.unenforcedWarnings) ∧
      ∀ reason xs e' next', Dialogue e.beginCycle (.ask (.fingerprint reason)) xs e' next' →
        Warns (talk past) xs (e.beginCycle.logs xs) ∧
        (HasBeenDue (talk past ++ xs) ↔ HasBeenDue (talk past) ∨ IsDue (talk past) xs) ∧
        e'.stats.unenforcedWarnings =
          e.stats.unenforcedWarnings + (warnings (e.beginCycle.logs xs)).length.toUInt64 ∧
        (next'.isIdle → xs.filterMap compiled? = xs.filterMap fetched?)) ∧
    (∀ deeds d, Daemon.Reaches (.start (.new paths interval backoff)) deeds d →
      d.engine.Counted (deeds.filterMap Daemon.Deed.exchange?) ∧
      (∀ x : Exchange, d.activity = .asking x.request →
        Warns (deeds.filterMap Daemon.Deed.exchange?) [x] (d.receive x.request x.reply).2) ∧
      ∀ d' log, d.stir? = some (d', log) → warnings log = []) ∧
    ∀ entries entry, entry ∈ entries → entry.isRegex →
      (MapKind.ofEntry entry).isPattern ∧
      (∃ before later, (compile entries).get (.ofEntry entry) =
        before ++ s!"/{entry.pattern}/ REJECT\n" ++ later) ∧
      ∀ faults t written, MapWriter.DistinctEntries t paths →
        (MapWriter.writeWith faults t paths (compile entries)).result = .ok written →
        ∃ p, t.place? (paths.get (.ofEntry entry)) = some p ∧
          (MapWriter.writeWith faults t paths (compile entries)).tree.sight? p =
            some (.file 0o644 (Text.Utf8.encode ((compile entries).get (.ofEntry entry)))) := by
  have hnew := aware_new paths interval backoff
  refine ⟨fun past e hs => ⟨(hs.aware hnew).toCounted, ?_, ?_⟩, fun deeds d hr => ?_, ?_⟩
  · intro xs e' next' hd
    have hquiet : warnings (e.logs xs) = [] :=
      logs_quiet (List.filterMap_eq_nil_iff.mp
        (List.length_eq_zero_iff.mp (Nat.le_zero.mp hd.fetches_le)))
    refine ⟨hquiet, ?_⟩
    rw [hd.unenforcedWarnings, hquiet]
    exact UInt64.add_zero _
  · intro reason xs e' next' hd
    have hunasked := List.length_eq_zero_iff.mp (Nat.le_zero.mp hd.probes_le)
    refine ⟨(hs.aware hnew).beginCycle.warns hunasked hd.fetches_le, hasBeenDue_append hunasked,
      hd.unenforcedWarnings, fun hi => ?_⟩
    obtain ⟨o, -, hends⟩ := hd.cycleEnds hi
    exact hends.compiled
  · obtain ⟨past, xs, halong, htold⟩ := hr.along
    exact ⟨htold ▸ (halong.aware hnew).toCounted, fun x _ => hr.warns hnew x,
      fun _ _ => Daemon.warnings_stir⟩
  · intro entries entry he hp
    refine ⟨by rw [MapKind.isPattern_ofEntry, hp], render_pattern hp ▸ render_in_compile he, ?_⟩
    intro faults t written hdistinct hw
    have hplaced : MapKind.ofEntry entry ∈
        MapWriter.replacedBy faults t paths (compile entries) := by
      rw [MapWriter.replacedBy_of_ok hw]
      exact MapKind.mem_all _
    obtain ⟨p, hplace⟩ := MapWriter.place?_of_replaced faults t paths (compile entries) hplaced
    refine ⟨p, hplace, ?_⟩
    rw [MapWriter.sight?_writeWith, MapWriter.overwritten_of_distinct hdistinct hplace,
      if_pos hplaced]
    rfl

section Unsupported
open Session

/-- A session at its beginning, with one pattern rule, a mail server that knows no pattern maps, and
no directory for maps. -/
def unsupportedSession : Session where
  world :=
    { tree := ⟨[], [], []⟩
      backend := .standIn
      memory := .empty
      standInStore := ⟨⟨1, none⟩, Course.patternRule, 0, 0, 0, StandInStore.outage, 0⟩
      database := .new "blocker.db"
      commands := none
      standInServer := .new false }
  engine := .new (.inDir "maps") (.ofSeconds 60) (.new (.ofSeconds 1) (.ofSeconds 30))
  now := 0
  log := []

/-- The first cycle warns of the one pattern rule, although it is aborted. -/
theorem warns_once_when_due_of_unsupportedSession :
    let s := (unsupportedSession.start none).1
    warnings (s.cycle .startup none).1.log =
      [.warn .engine ("1 pattern rule(s) will be written but not enforced: " ++
      "mail server has no pattern map support")] ∧
    (s.cycle .startup none).1.engine.stats.unenforcedWarnings = 1 ∧
    (s.cycle .startup none).2 =
      .finished
          (.aborted (.mapWrite "maps/blocked_recipients" (.system SystemError.notFound))) := by
  intro s
  have hstarted : (unsupportedSession.start none).2 = .started true := by decide +kernel
  have hstart := runs_pursue none (unsupportedSession.fuel none) unsupportedSession (.ask .connect)
  have hstory : Story unsupportedSession.engine [.start (unsupportedSession.startJournal none) true]
      s.engine :=
    Story.new.start (hstarted ▸ hstart.dialogue)
  obtain ⟨hlives, -, -⟩ := warns_once_when_due (.inDir "maps") (.ofSeconds 60)
    (.new (.ofSeconds 1) (.ofSeconds 30))
  obtain ⟨hcounted, -, hcycles⟩ := hlives _ _ hstory
  have hruns := s.runs_cycle .startup none
  obtain ⟨hwarns, -, hcount, -⟩ := hcycles .startup _ _ _ hruns.dialogue
  have hbefore : ¬ HasBeenDue (talk [.start (unsupportedSession.startJournal none) true]) :=
    not_hasBeenDue (by decide +kernel)
  have hdue : IsDue (talk [.start (unsupportedSession.startJournal none) true])
      (s.cycleJournal .startup none) :=
    ⟨by decide +kernel, by decide +kernel⟩
  have hhanded : handed (s.cycleJournal .startup none) = Course.patternRule := by decide +kernel
  have hwarned := hwarns.due hdue hbefore
  refine ⟨?_, ?_, ?_⟩
  · have hsilent : warnings s.log = [] := by decide +kernel
    rw [hruns.warnings_log, hsilent]
    refine hwarned.trans ?_
    rw [hhanded]
    rfl
  · rw [hcount, hwarned, hcounted.silent hbefore]
    rfl
  · decide +kernel

end Unsupported

end Engine
end BlocklistSync
