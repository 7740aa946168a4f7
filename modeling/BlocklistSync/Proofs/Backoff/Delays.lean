import BlocklistSync.Backoff
import Mathlib.Algebra.GroupWithZero.Nat
import Mathlib.Logic.Function.Iterate

/-! The delays of a backoff, one failure after another. Each is twice the one before until the
ceiling is reached, and no failure makes the next delay shorter; a success brings back the first
one. -/
namespace BlocklistSync.Backoff

variable {initial ceiling : Duration} {b : Backoff}

@[simp] theorem reset_iterate_failed (b : Backoff) (n : ℕ) : (failed^[n] b).reset = b.reset := by
  induction n generalizing b with
  | zero => rfl
  | succ n ih => rw [Function.iterate_succ_apply, ih, reset_failed]

@[simp] theorem ceiling_iterate_failed (b : Backoff) (n : ℕ) :
    (failed^[n] b).ceiling = b.ceiling := by
  induction n generalizing b with
  | zero => rfl
  | succ n ih => rw [Function.iterate_succ_apply, ih, ceiling_failed]

theorem attempts_iterate_failed (b : Backoff) (n : ℕ) :
    (failed^[n] b).attempts = b.attempts + n.toUInt64 := by
  induction n with
  | zero => simp
  | succ n ih => simp [Function.iterate_succ_apply', ih, UInt64.add_assoc]

/-- The longest duration is no limit of its own, as the ceiling is below it. -/
theorem nanos_current_failed (b : Backoff) :
    b.failed.current.nanos = min (2 * b.current.nanos) b.ceiling.nanos := by
  have hceiling := b.ceiling.nanos_le
  have hnext : b.failed.current.nanos =
      min (min (2 * b.current.nanos) Duration.limit) b.ceiling.nanos :=
    Duration.nanos_min ..
  omega

theorem nanos_current_iterate_failed (hb : b.current.nanos ≤ b.ceiling.nanos) (n : ℕ) :
    (failed^[n] b).current.nanos = min (b.current.nanos * 2 ^ n) b.ceiling.nanos := by
  induction n with
  | zero => simp [hb]
  | succ n ih =>
    rw [Function.iterate_succ_apply', nanos_current_failed, ih, ceiling_iterate_failed,
      Nat.pow_succ, ← Nat.mul_assoc]
    omega

/-- The delay after so many failures in a row, since a backoff was new or reset. -/
theorem nanos_delay (initial ceiling : Duration) (n : ℕ) :
    (failed^[n] (new initial ceiling)).current.nanos =
      min (initial.nanos * 2 ^ n) ceiling.nanos := by
  have hfirst : (new initial ceiling).current.nanos = min initial.nanos ceiling.nanos :=
    Duration.nanos_min ..
  have hpow : 1 ≤ 2 ^ n := Nat.one_le_two_pow
  have hle : ceiling.nanos ≤ ceiling.nanos * 2 ^ n := Nat.le_mul_of_pos_right _ hpow
  rw [nanos_current_iterate_failed (hfirst ▸ Nat.min_le_right ..), hfirst, ← Nat.mul_min_mul_right]
  change min (min (initial.nanos * 2 ^ n) (ceiling.nanos * 2 ^ n)) ceiling.nanos = _
  omega

theorem delay_le_ceiling (initial ceiling : Duration) (n : ℕ) :
    (failed^[n] (new initial ceiling)).current.nanos ≤ ceiling.nanos := by
  rw [nanos_delay]
  exact Nat.min_le_right ..

theorem initial_le_delay (h : initial.nanos ≤ ceiling.nanos) (n : ℕ) :
    initial.nanos ≤ (failed^[n] (new initial ceiling)).current.nanos := by
  rw [nanos_delay]
  exact Nat.le_min.mpr ⟨Nat.le_mul_of_pos_right _ Nat.one_le_two_pow, h⟩

theorem delay_le_succ (initial ceiling : Duration) (n : ℕ) :
    (failed^[n] (new initial ceiling)).current.nanos ≤
      (failed^[n + 1] (new initial ceiling)).current.nanos := by
  have hpow : initial.nanos * 2 ^ n ≤ initial.nanos * 2 ^ (n + 1) :=
    Nat.mul_le_mul_left _ (Nat.pow_le_pow_right Nat.two_pos n.le_succ)
  rw [nanos_delay, nanos_delay]
  omega

/-- What becomes of a new backoff while calls fail and succeed. -/
inductive Reached (initial ceiling : Duration) : Backoff → Prop
  | new : Reached initial ceiling (.new initial ceiling)
  | failed {b : Backoff} (h : Reached initial ceiling b) : Reached initial ceiling b.failed
  | reset {b : Backoff} (h : Reached initial ceiling b) : Reached initial ceiling b.reset

namespace Reached

/-- Only the failures since the last success count. -/
theorem exists_iterate (h : Reached initial ceiling b) :
    ∃ n, b = Backoff.failed^[n] (.new initial ceiling) := by
  induction h with
  | new => exact ⟨0, rfl⟩
  | failed _ ih =>
    obtain ⟨n, rfl⟩ := ih
    exact ⟨n + 1, (Function.iterate_succ_apply' ..).symm⟩
  | reset _ ih =>
    obtain ⟨n, rfl⟩ := ih
    exact ⟨0, reset_iterate_failed ..⟩

theorem reset_eq (h : Reached initial ceiling b) : b.reset = .new initial ceiling := by
  obtain ⟨n, rfl⟩ := h.exists_iterate
  exact reset_iterate_failed ..

end Reached

def delays (b : Backoff) (n : ℕ) : List Duration :=
  (List.range n).map fun i => (failed^[i] b).current

@[simp] theorem length_delays (b : Backoff) (n : ℕ) : (b.delays n).length = n := by simp [delays]

@[simp] theorem delays_zero (b : Backoff) : b.delays 0 = [] := rfl

theorem delays_succ (b : Backoff) (n : ℕ) : b.delays (n + 1) = b.current :: b.failed.delays n := by
  rw [delays, List.range_succ_eq_map, List.map_cons, List.map_map]
  rfl

theorem delays_succ_last (b : Backoff) (n : ℕ) :
    b.delays (n + 1) = b.delays n ++ [(failed^[n] b).current] := by
  simp [delays, List.range_succ]

end BlocklistSync.Backoff
