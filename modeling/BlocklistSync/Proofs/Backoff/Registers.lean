import BlocklistSync.Proofs.Backoff.Delays

/-! The delays of a backoff in closed form, through any number of failures and resets. A timer that
holds whole seconds in one register and the nanoseconds beyond them in another, and carries between
the two as it doubles, shows the same delays: neither the carry nor the end of its range costs a
nanosecond. -/
namespace BlocklistSync

/-- A length of time in two registers. -/
structure Registers where
  seconds : UInt64
  nanos : UInt32
  nanos_lt : nanos.toNat < nanosPerSecond
  deriving DecidableEq

namespace Registers

@[ext] theorem ext {r q : Registers} (hs : r.seconds = q.seconds) (hn : r.nanos = q.nanos) :
    r = q := by
  cases r
  cases q
  simp_all

def total (r : Registers) : ℕ := r.seconds.toNat * nanosPerSecond + r.nanos.toNat

theorem total_injective {r q : Registers} (h : r.total = q.total) : r = q := by
  have hr := r.nanos_lt
  have hq := q.nanos_lt
  simp only [total, nanosPerSecond] at h hr hq
  exact ext (UInt64.toNat_inj.mp (by omega)) (UInt32.toNat_inj.mp (by omega))

def longest : Registers := ⟨18446744073709551615, 999999999, by decide⟩

theorem total_longest : longest.total = Duration.limit := rfl

/-- Twice the seconds and what is carried over to them, as far as both fit. -/
def twiceSeconds? (seconds carry : UInt64) : Option UInt64 :=
  if seconds.toNat * 2 < UInt64.size then
    if (seconds * 2).toNat + carry.toNat < UInt64.size then some (seconds * 2 + carry) else none
  else none

theorem twiceSeconds?_eq {seconds carry : UInt64} :
    (twiceSeconds? seconds carry).map UInt64.toNat =
      if seconds.toNat * 2 + carry.toNat < UInt64.size then some (seconds.toNat * 2 + carry.toNat)
        else none := by
  unfold twiceSeconds?
  by_cases hs : seconds.toNat * 2 < UInt64.size
  · have htwice : (seconds * 2).toNat = seconds.toNat * 2 := by
      rw [UInt64.toNat_mul]
      exact Nat.mod_eq_of_lt hs
    rw [if_pos hs, htwice]
    split
    · next h => rw [Option.map_some, UInt64.toNat_add, htwice, Nat.mod_eq_of_lt h]
    · rfl
  · rw [if_neg hs, if_neg (by omega)]
    rfl

def twiceNanos (r : Registers) : UInt64 := r.nanos.toUInt64 * 2

theorem toNat_twiceNanos (r : Registers) : r.twiceNanos.toNat = r.nanos.toNat * 2 := by
  have hr := r.nanos_lt
  rw [twiceNanos, UInt64.toNat_mul, UInt32.toNat_toUInt64]
  refine Nat.mod_eq_of_lt ?_
  simp only [nanosPerSecond] at hr
  change r.nanos.toNat * 2 < _
  omega

/-- The nanoseconds that are left when whole seconds have been carried over. -/
def leftNanos (r : Registers) : UInt32 := (r.twiceNanos % 1000000000).toUInt32

theorem toNat_leftNanos (r : Registers) :
    r.leftNanos.toNat = r.nanos.toNat * 2 % nanosPerSecond := by
  have hlt : r.nanos.toNat * 2 % nanosPerSecond < nanosPerSecond := Nat.mod_lt _ (by decide)
  rw [leftNanos, UInt64.toNat_toUInt32, UInt64.toNat_mod, toNat_twiceNanos]
  exact Nat.mod_eq_of_lt (Nat.lt_trans hlt (by decide))

/-- Doubling the one register may carry a second over to the other; what does not fit saturates. -/
def double (r : Registers) : Registers :=
  match twiceSeconds? r.seconds (r.twiceNanos / 1000000000) with
  | some seconds => ⟨seconds, r.leftNanos, r.toNat_leftNanos ▸ Nat.mod_lt _ (by decide)⟩
  | none => longest

/-- The shorter of two, by seconds and then by what is beyond them. -/
protected def min (r q : Registers) : Registers :=
  if r.seconds < q.seconds ∨ (r.seconds = q.seconds ∧ r.nanos ≤ q.nanos) then r else q

theorem total_double (r : Registers) : r.double.total = min (2 * r.total) Duration.limit := by
  have hr := r.nanos_lt
  have hcarry : (r.twiceNanos / 1000000000).toNat = r.nanos.toNat * 2 / nanosPerSecond := by
    rw [UInt64.toNat_div, toNat_twiceNanos]
    rfl
  have hsplit := Nat.div_add_mod (r.nanos.toNat * 2) nanosPerSecond
  have hseconds := @twiceSeconds?_eq r.seconds (r.twiceNanos / 1000000000)
  rw [hcarry] at hseconds
  unfold double
  split
  · next seconds h =>
    rw [h, Option.map_some] at hseconds
    split at hseconds
    · next hfit =>
      have hleft := r.toNat_leftNanos
      rw [Option.some.injEq] at hseconds
      simp only [total, nanosPerSecond, Duration.limit, UInt64.size] at *
      omega
    · cases hseconds
  · next h =>
    rw [h, Option.map_none] at hseconds
    split at hseconds
    · cases hseconds
    · next hfit =>
      rw [total_longest]
      simp only [total, nanosPerSecond, Duration.limit, UInt64.size] at *
      omega

theorem total_min (r q : Registers) : (r.min q).total = min r.total q.total := by
  have hr := r.nanos_lt
  have hq := q.nanos_lt
  simp only [Registers.min, total, nanosPerSecond, UInt64.lt_iff_toNat_lt, UInt32.le_iff_toNat_le,
    ← UInt64.toNat_inj] at *
  split <;> omega

end Registers

namespace Duration

/-- A duration as such a timer holds it. -/
def registers (d : Duration) : Registers where
  seconds := d.seconds.toUInt64
  nanos := d.subsecond.toUInt32
  nanos_lt := by
    have hlt : d.nanos % nanosPerSecond < nanosPerSecond := Nat.mod_lt _ (by decide)
    rw [subsecond, Nat.toUInt32, UInt32.toNat_ofNat_of_lt' (Nat.lt_trans hlt (by decide))]
    exact hlt

@[simp] theorem total_registers (d : Duration) : d.registers.total = d.nanos := by
  have hle := d.nanos_le
  have hlt : d.nanos % nanosPerSecond < nanosPerSecond := Nat.mod_lt _ (by decide)
  have hseconds : d.seconds.toUInt64.toNat = d.seconds := by
    refine UInt64.toNat_ofNat_of_lt' (Nat.div_lt_of_lt_mul ?_)
    simp only [limit, UInt64.size, nanosPerSecond] at hle ⊢
    omega
  have hnanos : d.subsecond.toUInt32.toNat = d.subsecond :=
    UInt32.toNat_ofNat_of_lt' (Nat.lt_trans hlt (by decide))
  rw [Registers.total, registers, hseconds, hnanos]
  exact Nat.div_add_mod' ..

theorem registers_double (d : Duration) : d.double.registers = d.registers.double :=
  Registers.total_injective (by rw [Registers.total_double, total_registers, total_registers,
    nanos_double])

theorem registers_min (d e : Duration) : (d.min e).registers = d.registers.min e.registers :=
  Registers.total_injective <| by
    rw [Registers.total_min, total_registers, total_registers, total_registers]
    exact nanos_min d e

end Duration

namespace Backoff

inductive Call
  | nextDelay
  | reset
  deriving DecidableEq

/-- The backoff after a call, and the delay that it gives back. -/
def perform (b : Backoff) : Call → Backoff × Option Duration
  | .nextDelay => (b.failed, some b.current)
  | .reset => (b.reset, none)

structure Answer where
  delay : Option Duration
  /-- The attempts that are shown after the call. -/
  attempts : UInt64

def answers : Backoff → List Call → List Answer
  | _, [] => []
  | b, call :: calls =>
    ⟨(b.perform call).2, (b.perform call).1.attempts⟩ :: answers (b.perform call).1 calls

/-- The delays in nanoseconds and the attempts, `n` failures after the start or the last reset. -/
def closedForm (initial ceiling : ℕ) : ℕ → List Call → List (Option ℕ × ℕ)
  | _, [] => []
  | n, .nextDelay :: calls =>
    (some (min ceiling (initial * 2 ^ n)), n + 1) :: closedForm initial ceiling (n + 1) calls
  | _, .reset :: calls => (none, 0) :: closedForm initial ceiling 0 calls

/-- The delays as a timer of two registers finds them, if the next one is `current`. -/
def registerDelays (first ceiling : Registers) : Registers → List Call → List (Option Registers)
  | _, [] => []
  | current, .nextDelay :: calls =>
    some current :: registerDelays first ceiling (current.double.min ceiling) calls
  | _, .reset :: calls => none :: registerDelays first ceiling first calls

variable (initial ceiling : Duration)

theorem answers_iterate_failed {calls : List Call} {n : ℕ}
    (h : n + calls.count .nextDelay < UInt64.size) :
    ((failed^[n] (new initial ceiling)).answers calls).map
      (fun a => (a.delay.map Duration.nanos, a.attempts.toNat)) =
      closedForm initial.nanos ceiling.nanos n calls := by
  induction calls generalizing n with
  | nil => rfl
  | cons call calls ih =>
    cases call with
    | nextDelay =>
      rw [List.count_cons_self] at h
      have hdelay := nanos_delay initial ceiling n
      have hlt : n + 1 < UInt64.size := by omega
      have hattempts : (failed^[n + 1] (new initial ceiling)).attempts.toNat = n + 1 := by
        have hnew : (new initial ceiling).attempts = 0 := rfl
        rw [attempts_iterate_failed, hnew, UInt64.zero_add, Nat.toUInt64,
          UInt64.toNat_ofNat_of_lt' hlt]
      have hrest := ih (n := n + 1) (by omega)
      rw [Function.iterate_succ_apply'] at hattempts hrest
      rw [answers, closedForm, List.map_cons]
      simp only [perform, Option.map_some, hdelay, hattempts, hrest, Nat.min_comm]
    | reset =>
      rw [List.count_cons_of_ne (by decide)] at h
      have hrest := ih (n := 0) (by omega)
      rw [answers, closedForm, List.map_cons]
      simp only [perform, reset_iterate_failed]
      exact congrArg _ hrest

theorem registers_answers (b : Backoff) (calls : List Call) :
    (b.answers calls).map (fun a => a.delay.map Duration.registers) =
      registerDelays b.initial.registers b.ceiling.registers b.current.registers calls := by
  induction calls generalizing b with
  | nil => rfl
  | cons call calls ih =>
    rw [answers, List.map_cons, ih]
    cases call with
    | nextDelay =>
      have hnext : b.failed.current.registers =
          b.current.registers.double.min b.ceiling.registers := by
        rw [← Duration.registers_double, ← Duration.registers_min]
        rfl
      rw [registerDelays, ← hnext]
      rfl
    | reset => rfl

theorem le_of_mem_closedForm {initial ceiling n : ℕ} {calls : List Call} {x : Option ℕ × ℕ}
    (hx : x ∈ closedForm initial ceiling n calls) : ∀ delay ∈ x.1, delay ≤ ceiling := by
  induction calls generalizing n with
  | nil => cases hx
  | cons call calls ih =>
    cases call with
    | nextDelay =>
      rcases List.mem_cons.mp hx with rfl | hx
      · rintro _ ⟨⟩
        exact Nat.min_le_left ..
      · exact ih hx
    | reset =>
      rcases List.mem_cons.mp hx with rfl | hx
      · rintro _ ⟨⟩
      · exact ih hx

/-- Whatever calls are made, the delay after a failure is the initial one doubled as often as there
were failures before it since the last reset, or the ceiling if that is less, and the attempts are
the failures so far. A timer of two registers finds the very same delays, and none exceeds the
ceiling. -/
theorem answers_closed_form {calls : List Call} (h : calls.count .nextDelay < UInt64.size) :
    let answers := (new initial ceiling).answers calls
    let first := initial.registers.min ceiling.registers
    answers.map (fun a => (a.delay.map Duration.nanos, a.attempts.toNat)) =
      closedForm initial.nanos ceiling.nanos 0 calls ∧
    answers.map (fun a => a.delay.map Duration.registers) =
      registerDelays first ceiling.registers first calls ∧
    ∀ a ∈ answers, ∀ delay ∈ a.delay, delay.nanos ≤ ceiling.nanos := by
  intro answers first
  have hclosed : answers.map (fun a => (a.delay.map Duration.nanos, a.attempts.toNat)) =
      closedForm initial.nanos ceiling.nanos 0 calls :=
    answers_iterate_failed (n := 0) initial ceiling (by rwa [Nat.zero_add])
  have hfirst : (new initial ceiling).initial.registers = first :=
    Duration.registers_min initial ceiling
  refine ⟨hclosed, ?_, fun a ha delay hdelay => ?_⟩
  · rw [registers_answers, ← hfirst]
    rfl
  · have hmem :=
      List.mem_map_of_mem (f := fun a => (a.delay.map Duration.nanos, a.attempts.toNat)) ha
    rw [hclosed] at hmem
    exact le_of_mem_closedForm hmem _ (Option.mem_map_of_mem _ hdelay)

section LongDelays

def longDelay : Duration := .ofNanos (9223372036854775807 * nanosPerSecond + 750000000)

/-- The second failure carries a second over, the third is beyond the range. -/
theorem answers_closed_form_of_longDelay :
    [Call.nextDelay, .nextDelay, .nextDelay, .reset, .nextDelay].count .nextDelay < UInt64.size ∧
    ((new longDelay (.ofNanos Duration.limit)).answers [.nextDelay, .nextDelay, .nextDelay, .reset,
      .nextDelay]).map
      (fun a => (a.delay.map Duration.nanos, a.attempts.toNat)) =
        [(some 9223372036854775807750000000, 1), (some 18446744073709551615500000000, 2),
          (some 18446744073709551615999999999, 3), (none, 0),
          (some 9223372036854775807750000000, 1)] ∧
    longDelay.registers.double = ⟨18446744073709551615, 500000000, by decide⟩ := by
  have hfew : [Call.nextDelay, .nextDelay, .nextDelay, .reset, .nextDelay].count .nextDelay <
      UInt64.size := by decide
  refine ⟨hfew, (answers_closed_form longDelay (.ofNanos Duration.limit) hfew).1.trans
    (by decide +kernel), ?_⟩
  decide +kernel

end LongDelays

end Backoff
end BlocklistSync
