import BlocklistSync.Proofs.Engine.Dialogue
import BlocklistSync.Retry
import Mathlib.Data.Nat.Log

/-! A store call and its repetitions from the first try to the last. As many failures as there are
cost as many waits, which are the next delays of the backoff, and leave it as new; those with the
number of a power of two are warned of, so that an outage of any length takes up few lines. Only in
a wait can the call be given up. -/
namespace BlocklistSync

section Powers

theorem Backoff.isLoud_iff (n : UInt64) : isLoud n ↔ n.toNat.isPowerOfTwo := by
  have hzero : n ≠ 0 ↔ n.toNat ≠ 0 := UInt64.toNat_inj.not.symm
  rw [← Nat.ne_zero_and_sub_one_eq_zero_iff_isPowerOfTwo, isLoud, Bool.and_eq_true, bne_iff_ne,
    beq_iff_eq, hzero, ← UInt64.toNat_inj, UInt64.toNat_and]
  refine and_congr_right fun hn => ?_
  have hone : (1 : UInt64) ≤ n := UInt64.le_iff_toNat_le.mpr (Nat.one_le_iff_ne_zero.mpr hn)
  rw [UInt64.toNat_sub_of_le _ _ hone]
  rfl

theorem log2_succ {n : ℕ} (hn : n ≠ 0) :
    (n + 1).log2 = if (n + 1).isPowerOfTwo then n.log2 + 1 else n.log2 := by
  have hlog := (Nat.log2_eq_iff hn).mp rfl
  rw [Nat.log2_eq_iff n.succ_ne_zero]
  split
  · next h =>
    obtain ⟨j, hj⟩ := h
    have hlt : n.log2 < j := (Nat.pow_lt_pow_iff_right Nat.one_lt_two).mp (by omega)
    have hle : 2 ^ (n.log2 + 1) ≤ 2 ^ j := Nat.pow_le_pow_right Nat.two_pos hlt
    have hpow : 2 ^ (n.log2 + 1 + 1) = 2 ^ (n.log2 + 1) * 2 := Nat.pow_succ ..
    omega
  · next h =>
    have hne : n + 1 ≠ 2 ^ (n.log2 + 1) := fun he => h ⟨_, he⟩
    omega

/-- The powers of two from 1 to `n`. -/
theorem countP_isPowerOfTwo {n : ℕ} (hn : n ≠ 0) :
    (List.range' 1 n).countP (fun i => i.isPowerOfTwo) = n.log2 + 1 := by
  induction n with
  | zero => exact absurd rfl hn
  | succ n ih =>
    rw [List.range'_1_concat, List.countP_append, List.countP_singleton, Nat.add_comm 1 n]
    rcases Nat.eq_zero_or_pos n with rfl | hpos
    · decide
    · have hn' := Nat.ne_of_gt hpos
      rw [ih hn', log2_succ hn']
      by_cases h : (n + 1).isPowerOfTwo <;> simp [h]

end Powers

namespace Retry

section Moments
variable [Timer] (b : Backoff) (now n : ℕ)

/-- When the call is made that follows `n` failures, if all waits run their length. -/
def moment : ℕ := now + ((b.delays n).map Clock.millis).sum

@[simp] theorem moment_zero : moment b now 0 = now := by simp [moment]

theorem moment_succ : moment b now (n + 1) = moment b.failed (now + Clock.millis b.current) n := by
  simp [moment, Backoff.delays_succ, Nat.add_assoc]

theorem moment_le_succ : moment b now n ≤ moment b now (n + 1) := by
  simp [moment, Backoff.delays_succ_last]

theorem monotone_moment : Monotone (moment b now) := monotone_nat_of_le_succ (moment_le_succ b now)

end Moments

/-- A number as a counter of 64 bits shows it. -/
def shown (n : ℕ) : ℕ := n % UInt64.size

theorem shown_of_lt {n : ℕ} (h : n < UInt64.size) : shown n = n := Nat.mod_eq_of_lt h

theorem shown_toNat (n : UInt64) : shown n.toNat = n.toNat := shown_of_lt n.toNat_lt

theorem toNat_attempts_failed {b : Backoff} {a : ℕ} (h : b.attempts.toNat = shown a) :
    b.failed.attempts.toNat = shown (a + 1) := by
  rw [Backoff.attempts_failed, UInt64.toNat_add, h]
  exact (Nat.add_mod a 1 UInt64.size).symm

def failuresLog (what : String) : Backoff → List Fault → Log
  | _, [] => []
  | b, f :: faults => failureLog what b f ++ failuresLog what b.failed faults

def attemptLine (what : String) (number : ℕ) (f : Fault) (delay : Duration) : LogLine :=
  .warn .retry <| s!"{what} failed (attempt {number}): {f.message}; " ++
    s!"retrying in {delay.toText}"

/-- The warnings about failures that are numbered from `first` on, each with the delay after it. -/
def warnings (what : String) (first : ℕ) (failures : List (Fault × Duration)) : Log :=
  ((failures.zipIdx first).filter fun x => (shown x.2).isPowerOfTwo).map fun x =>
    attemptLine what (shown x.2) x.1.1 x.1.2

def recoveryLine (what : String) (failures : ℕ) : LogLine :=
  .info .retry s!"{what} succeeded after {failures} failed attempt(s)"

/-- A call that never failed is not worth a line. -/
def recovery (what : String) (failures : ℕ) : Log :=
  if shown failures = 0 then [] else [recoveryLine what (shown failures)]

section Log
variable {what : String} {b : Backoff} {a : ℕ}

theorem failureLog_eq (ha : b.attempts.toNat = shown a) (f : Fault) :
    failureLog what b f =
      if (shown (a + 1)).isPowerOfTwo then [attemptLine what (shown (a + 1)) f b.current]
      else [] := by
  have hnumber := toNat_attempts_failed ha
  have hline : failureLine what b f = attemptLine what (shown (a + 1)) f b.current := by
    rw [← hnumber]
    rfl
  rw [failureLog, hline, ← hnumber]
  exact if_congr (Backoff.isLoud_iff _) rfl rfl

theorem failuresLog_eq (what : String) (ha : b.attempts.toNat = shown a) (faults : List Fault) :
    failuresLog what b faults = warnings what (a + 1) (faults.zip (b.delays faults.length)) := by
  induction faults generalizing a b with
  | nil => rfl
  | cons f faults ih =>
    rw [failuresLog, failureLog_eq ha, ih (toNat_attempts_failed ha), List.length_cons,
      Backoff.delays_succ, List.zip_cons_cons, warnings, warnings, List.zipIdx_cons,
      List.filter_cons]
    by_cases hpow : (shown (a + 1)).isPowerOfTwo <;> simp [hpow]

theorem successLog_eq (ha : b.attempts.toNat = shown a) : successLog what b = recovery what a := by
  have hzero : b.attempts = 0 ↔ shown a = 0 := by rw [← ha, ← UInt64.toNat_inj]; rfl
  have hline : successLine what b = recoveryLine what (shown a) := by
    rw [← ha]
    rfl
  rw [successLog, hline]
  exact if_congr hzero rfl rfl

theorem countP_warnings (what : String) (first : ℕ) (failures : List (Fault × Duration)) :
    (warnings what first failures).countP (·.level = .warn) =
      (List.range' first failures.length).countP fun i => (shown i).isPowerOfTwo := by
  rw [← List.zipIdx_map_snd first failures, List.countP_map, warnings, List.countP_map,
    List.countP_filter]
  exact List.countP_congr fun x _ => by simp [attemptLine, LogLine.warn]

theorem countP_recovery (what : String) (failures : ℕ) :
    (recovery what failures).countP (·.level = .warn) = 0 := by
  rw [recovery]
  split <;> rfl

theorem countP_first_warnings {failures : List (Fault × Duration)} (hpos : 0 < failures.length)
    (hlt : failures.length < UInt64.size) :
    (warnings what 1 failures).countP (·.level = .warn) = failures.length.log2 + 1 := by
  rw [countP_warnings, ← countP_isPowerOfTwo (Nat.ne_of_gt hpos)]
  refine List.countP_congr fun i hi => ?_
  rw [shown_of_lt]
  have := List.mem_range'_1.mp hi
  omega

end Log

/-- A wait from `start` to `stop` is cut short if the call is given up before its end. -/
def cutShort (cancelAt : Option ℕ) (start stop : ℕ) : Bool :=
  cancelAt.any fun c => c ≤ start || c < stop

theorem cutShort_eq_false {cancelAt : Option ℕ} {start stop : ℕ} :
    cutShort cancelAt start stop = false ↔ ∀ c ∈ cancelAt, start < c ∧ stop ≤ c := by
  cases cancelAt <;> simp [cutShort]

section Run
variable [Timer] {α : Type} {what : String} {value : α} {cancelAt : Option ℕ} {faults : List Fault}
  {b : Backoff}
  {stats : Stats} {now : ℕ}

theorem untilReady_uncut
    (h : ∀ n < faults.length, cutShort cancelAt (moment b now n) (moment b now (n + 1)) = false) :
    untilReady what value cancelAt faults b stats now =
      ⟨some value, b.reset, stats.addStoreRetries faults.length, faults.length + 1,
        b.delays faults.length, moment b now faults.length,
        failuresLog what b faults ++ successLog what (Backoff.failed^[faults.length] b)⟩ := by
  induction faults generalizing b stats now with
  | nil => simp [untilReady, failuresLog]
  | cons f faults ih =>
    have hfirst := h 0 (Nat.zero_lt_succ _)
    rw [moment_zero, moment_succ, moment_zero, cutShort] at hfirst
    have hrest := @ih b.failed stats.addStoreRetry (now + Clock.millis b.current) fun n hn => by
      have hlater := h (n + 1) (Nat.succ_lt_succ hn)
      rwa [moment_succ, moment_succ] at hlater
    rw [untilReady, if_neg (by simp [hfirst]), hrest, List.length_cons, Backoff.delays_succ,
      moment_succ, failuresLog, Stats.addStoreRetry_addStoreRetries, Function.iterate_succ_apply,
      List.append_assoc, Backoff.reset_failed]

theorem untilReady_cut {n c : ℕ} (hn : n < faults.length) (hc : cancelAt = some c)
    (hcut : cutShort cancelAt (moment b now n) (moment b now (n + 1)))
    (h : ∀ m < n, cutShort cancelAt (moment b now m) (moment b now (m + 1)) = false) :
    untilReady what value cancelAt faults b stats now =
      ⟨none, Backoff.failed^[n + 1] b, stats.addStoreRetries (n + 1), n + 1, b.delays (n + 1),
        max (moment b now n) c, failuresLog what b (faults.take (n + 1))⟩ := by
  induction n generalizing faults b stats now with
  | zero =>
    cases faults with
    | nil => cases hn
    | cons f faults =>
      rw [moment_zero, moment_succ, moment_zero, cutShort] at hcut
      rw [untilReady, if_pos (by simpa using hcut), hc]
      simp [Backoff.delays_succ, failuresLog, Stats.addStoreRetries, Stats.addStoreRetry]
  | succ n ih =>
    cases faults with
    | nil => cases hn
    | cons f faults =>
      have hfirst := h 0 (Nat.zero_lt_succ _)
      rw [moment_zero, moment_succ, moment_zero, cutShort] at hfirst
      have hrest := @ih faults b.failed stats.addStoreRetry (now + Clock.millis b.current)
        (Nat.lt_of_succ_lt_succ hn)
        (by rwa [← moment_succ, ← moment_succ]) fun m hm => by
          have hlater := h (m + 1) (Nat.succ_lt_succ hm)
          rwa [moment_succ, moment_succ] at hlater
      rw [untilReady, if_neg (by simp [hfirst]), hrest, Backoff.delays_succ b, moment_succ b,
        List.take_succ_cons, failuresLog, Stats.addStoreRetry_addStoreRetries,
        Function.iterate_succ_apply _ _ b]

/-- Every fault is met, and then the value given. -/
structure Run.IsServed (r : Run α) (what : String) (value : α) (faults : List Fault) (b : Backoff)
    (stats : Stats) (now : ℕ) : Prop where
  value : r.value = some value
  calls : r.calls = faults.length + 1
  waits : r.waits = b.delays faults.length
  time : r.time = moment b now faults.length
  stats : r.stats = stats.addStoreRetries faults.length
  backoff : r.backoff = b.reset
  backoff_of_reached : ∀ initial ceiling, Backoff.Reached initial ceiling b →
    r.backoff = .new initial ceiling
  log : r.log = warnings what (b.attempts.toNat + 1) (faults.zip r.waits) ++
    recovery what (b.attempts.toNat + faults.length)
  warned : b.attempts = 0 → 0 < faults.length → faults.length < UInt64.size →
    r.log.countP (·.level = .warn) = faults.length.log2 + 1

/-- The call is given up in the wait after failure `n + 1`, since it is cancelled at `c`. -/
structure Run.IsGivenUp (r : Run α) (what : String) (faults : List Fault) (b : Backoff)
    (stats : Stats) (now c n : ℕ) : Prop where
  value : r.value = none
  failed : n < faults.length
  calls : r.calls = n + 1
  waits : r.waits = b.delays (n + 1)
  time : r.time = max (moment b now n) c
  waiting : moment b now n ≤ r.time ∧ r.time ≤ moment b now (n + 1)
  uncut : ∀ m < n, moment b now (m + 1) ≤ c
  stats : r.stats = stats.addStoreRetries (n + 1)
  backoff : r.backoff = Backoff.failed^[n + 1] b
  log : r.log = warnings what (b.attempts.toNat + 1) ((faults.take (n + 1)).zip r.waits)

theorem isServed_of_uncut
    (h : ∀ n < faults.length, cutShort cancelAt (moment b now n) (moment b now (n + 1)) = false) :
    (untilReady what value cancelAt faults b stats now).IsServed what value faults b stats now := by
  have hattempts : (Backoff.failed^[faults.length] b).attempts.toNat =
      shown (b.attempts.toNat + faults.length) := by
    rw [Backoff.attempts_iterate_failed, UInt64.toNat_add, UInt64.toNat_ofNat', shown]
    exact Nat.add_mod_mod ..
  rw [untilReady_uncut h, failuresLog_eq what (shown_toNat _).symm, successLog_eq hattempts]
  refine ⟨rfl, rfl, rfl, rfl, rfl, rfl, fun _ _ hb => hb.reset_eq, rfl, fun hnew hpos hlt => ?_⟩
  have hlength : (faults.zip (b.delays faults.length)).length = faults.length := by simp
  rw [List.countP_append, countP_recovery, hnew]
  exact (countP_first_warnings (hlength.symm ▸ hpos) (hlength.symm ▸ hlt)).trans (by rw [hlength])

theorem isGivenUp_of_cut {n c : ℕ} (hn : n < faults.length) (hc : cancelAt = some c)
    (hcut : cutShort cancelAt (moment b now n) (moment b now (n + 1)))
    (h : ∀ m < n, cutShort cancelAt (moment b now m) (moment b now (m + 1)) = false) :
    (untilReady what value cancelAt faults b stats now).IsGivenUp what faults b stats now c n := by
  have htake : (faults.take (n + 1)).length = n + 1 := List.length_take_of_le hn
  have hlog := failuresLog_eq what (shown_toNat b.attempts).symm (faults.take (n + 1))
  rw [htake] at hlog
  have huncut : ∀ m < n, moment b now (m + 1) ≤ c :=
    fun m hm => (cutShort_eq_false.mp (h m hm) c hc).2
  have hearly : c ≤ moment b now n ∨ c < moment b now (n + 1) := by simpa [cutShort, hc] using hcut
  have hmoment := moment_le_succ b now n
  have hwaiting : max (moment b now n) c ≤ moment b now (n + 1) := by omega
  rw [untilReady_cut hn hc hcut h, hlog]
  exact ⟨rfl, hn, rfl, rfl, rfl, ⟨le_max_left .., hwaiting⟩, huncut, rfl, rfl, rfl⟩

/-- A call whose cancellation does not come before its last wait is over is served; otherwise it may
be given up, and only in the wait after a failure. -/
theorem served_or_given_up (what : String) (value : α) (cancelAt : Option ℕ) (faults : List Fault)
    (b : Backoff) (stats : Stats) (now : ℕ) :
    let r := untilReady what value cancelAt faults b stats now
    ((∀ c ∈ cancelAt, moment b now faults.length < c) → r.IsServed what value faults b stats now) ∧
    (r.IsServed what value faults b stats now ∨ ∃ c ∈ cancelAt, ∃ n,
        r.IsGivenUp what faults b stats now c n) := by
  intro r
  constructor
  · intro hlate
    refine isServed_of_uncut fun n hn => ?_
    have hend : moment b now (n + 1) ≤ moment b now faults.length := monotone_moment b now hn
    have hstart := moment_le_succ b now n
    refine cutShort_eq_false.mpr fun c hc => ?_
    have hlate := hlate c hc
    omega
  · by_cases hcut : ∃ n < faults.length, cutShort cancelAt (moment b now n) (moment b now (n + 1))
    · obtain ⟨hn, hfirst⟩ := Nat.find_spec hcut
      obtain ⟨c, hc, -⟩ := (Option.any_eq_true ..).mp hfirst
      refine .inr ⟨c, hc, Nat.find hcut, isGivenUp_of_cut hn hc hfirst fun m hm => ?_⟩
      have hnot := Nat.find_min hcut hm
      simpa [lt_trans hm hn] using hnot
    · exact .inl (isServed_of_uncut fun n hn => by simpa [hn] using not_exists.mp hcut n)

end Run

section Examples

def fiveFaults : List Fault := .replicate 5 (.storeUnavailable "locked")

def tenthOfSecond : Backoff := .new (.ofMillis 100) (.ofMillis 1000)

def fiveFaultsRun (cancelAt : Option ℕ) : Run ℕ :=
  untilReady "Fetch" 7 cancelAt fiveFaults tenthOfSecond {} 0

/-- Of the five failures 1, 2 and 4 are warned of. Cancelled after a quarter of a second, the call
is given up in its second wait. -/
theorem served_or_given_up_of_fiveFaults :
    (fiveFaultsRun none).value = some 7 ∧ (fiveFaultsRun none).calls = 6 ∧
    (fiveFaultsRun none).stats.storeRetries = 5 ∧ (fiveFaultsRun none).backoff = tenthOfSecond ∧
    (fiveFaultsRun none).log.countP (·.level = .warn) = 3 ∧
    (fiveFaultsRun (some 250)).IsGivenUp "Fetch" fiveFaults tenthOfSecond {} 0 250 1 := by
  have hserved := (served_or_given_up "Fetch" 7 none fiveFaults tenthOfSecond {} 0).1 (by simp)
  refine ⟨hserved.value, hserved.calls, hserved.stats ▸ rfl, hserved.backoff,
    hserved.warned rfl (by decide) (by decide), ?_⟩
  have hnone : (fiveFaultsRun (some 250)).value = none := by decide
  have htwo : (fiveFaultsRun (some 250)).calls = 2 := by decide
  rcases (served_or_given_up "Fetch" 7 (some 250) fiveFaults tenthOfSecond {} 0).2 with
    h | ⟨c, hc, n, h⟩
  · exact absurd (hnone.symm.trans h.value) (by simp)
  · obtain rfl : 250 = c := by simpa using hc
    obtain rfl : 1 = n := Nat.succ.inj (htwo.symm.trans h.calls)
    exact h

end Examples

end Retry
end BlocklistSync
