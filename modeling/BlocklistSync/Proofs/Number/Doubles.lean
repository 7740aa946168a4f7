import BlocklistSync.Number.Binary64
import Mathlib.Algebra.Order.Field.Power
import Mathlib.Algebra.Order.Field.Rat
import Mathlib.Tactic.Linarith
import Mathlib.Tactic.NormNum
import Mathlib.Tactic.Ring

/-! Around each double are the numbers that are rounded to it. No number is rounded to two
doubles. -/
namespace BlocklistSync.Number

theorem scaleBy_one (m : ℕ) (e : ℤ) :
    0 < (scaleBy m 1 e).2 ∧ ((scaleBy m 1 e).1 : ℚ) = m * 2 ^ e * (scaleBy m 1 e).2 := by
  rw [scaleBy]
  split
  · next h =>
    lift e to ℕ using h
    simp
  · next h =>
    obtain ⟨k, rfl⟩ : ∃ k : ℕ, e = -k := ⟨(-e).toNat, by omega⟩
    simp

namespace Binary64

/-- What 64 bits can hold: as many bits of mantissa as there are, and fewer only at the lowest
exponent. -/
def IsDouble : Binary64 → Prop
  | .finite _ m e => m < 2 ^ 53 ∧ minExponent ≤ e ∧ e ≤ maxExponent ∧ (e = minExponent ∨ 2 ^ 52 ≤ m)
  | .infinite _ | .nan => True

end Binary64

/-- How far down the numbers around a double reach, in quarters of the distance to the next one.
Below a power of two the next double is only half as far. -/
def below (m : ℕ) (e : ℤ) : ℤ := if m = 2 ^ 52 ∧ Binary64.minExponent < e then 1 else 2

/-- The least and the greatest number around `m * 2 ^ e`. -/
def lowEnd (m : ℕ) (e : ℤ) : ℚ := (4 * m - below m e : ℤ) * 2 ^ (e - 2)
def highEnd (m : ℕ) (e : ℤ) : ℚ := (4 * m + 2 : ℤ) * 2 ^ (e - 2)

/-- A number that is rounded to `m * 2 ^ e`: halfway between two doubles the even one is meant. -/
def ReadsAs (m : ℕ) (e : ℤ) (x : ℚ) : Prop :=
  if m % 2 = 0 then lowEnd m e ≤ x ∧ x ≤ highEnd m e else lowEnd m e < x ∧ x < highEnd m e

variable {m m' : ℕ} {e e' : ℤ} {x : ℚ}

theorem below_cases (m : ℕ) (e : ℤ) : below m e = 1 ∨ below m e = 2 := by
  unfold below
  split
  · exact .inl rfl
  · exact .inr rfl

theorem quarter_pos (e : ℤ) : (0 : ℚ) < 2 ^ (e - 2) := zpow_pos two_pos _

/-- A higher exponent at least doubles the value. -/
theorem lowEnd_of_lt (he : Binary64.minExponent ≤ e) (h : e < e') (hm' : 2 ^ 52 ≤ m') :
    ((2 ^ 55 - 2 : ℤ) : ℚ) * 2 ^ (e - 2) ≤ lowEnd m' e' := by
  have hwide : (2 ^ 54 - 1 : ℤ) ≤ 4 * m' - below m' e' := by
    unfold below
    split
    · omega
    · next hne =>
      have hgt : m' ≠ 2 ^ 52 := fun heq => hne ⟨heq, lt_of_le_of_lt he h⟩
      omega
  have hdouble : (2 : ℚ) * 2 ^ (e - 2) ≤ 2 ^ (e' - 2) := by
    rw [← zpow_one_add₀ two_ne_zero]
    exact zpow_le_zpow_right₀ one_le_two (by omega)
  calc ((2 ^ 55 - 2 : ℤ) : ℚ) * 2 ^ (e - 2) = ((2 ^ 54 - 1 : ℤ) : ℚ) * (2 * 2 ^ (e - 2)) := by
        push_cast
        ring
    _ ≤ ((2 ^ 54 - 1 : ℤ) : ℚ) * 2 ^ (e' - 2) := mul_le_mul_of_nonneg_left hdouble (by norm_num)
    _ ≤ lowEnd m' e' := mul_le_mul_of_nonneg_right (Int.cast_le.mpr hwide) (quarter_pos e').le

/-- Of two doubles the lower one ends where the higher one begins, or before. Where both ends are
one number, one of the two is odd. -/
theorem highEnd_le_lowEnd (hm : m < 2 ^ 53) (he : Binary64.minExponent ≤ e)
    (hm' : e' = Binary64.minExponent ∨ 2 ^ 52 ≤ m') (h : e < e' ∨ e = e' ∧ m < m') :
    highEnd m e < lowEnd m' e' ∨ highEnd m e = lowEnd m' e' ∧ (m % 2 = 1 ∨ m' % 2 = 1) := by
  have hscale {a b : ℤ} : (a : ℚ) * 2 ^ (e - 2) < b * 2 ^ (e - 2) ↔ a < b := by
    rw [mul_lt_mul_iff_of_pos_right (quarter_pos e), Int.cast_lt]
  rcases h with h | ⟨rfl, h⟩
  · have hlow := lowEnd_of_lt he h (hm'.resolve_left (by omega))
    have hhigh : (4 * m + 2 : ℤ) ≤ 2 ^ 55 - 2 := by omega
    -- They touch only if the lower mantissa has all its bits set, which makes it odd.
    rcases hhigh.lt_or_eq with hlt | heq
    · exact .inl (lt_of_lt_of_le (hscale.mpr hlt) hlow)
    · rcases hlow.lt_or_eq with hlow | hlow
      · exact .inl (lt_of_le_of_lt (by rw [highEnd, heq]) hlow)
      · exact .inr ⟨by rw [highEnd, heq, hlow], .inl (by omega)⟩
  · have hbelow := below_cases m' e
    unfold highEnd lowEnd
    rw [hscale]
    by_cases hlt : (4 * m + 2 : ℤ) < 4 * m' - below m' e
    · exact .inl hlt
    · exact .inr ⟨by rw [show (4 * m + 2 : ℤ) = 4 * m' - below m' e by omega], by omega⟩

theorem ReadsAs.ends_le (h : ReadsAs m e x) : lowEnd m e ≤ x ∧ x ≤ highEnd m e := by
  unfold ReadsAs at h
  split at h
  · exact h
  · exact ⟨h.1.le, h.2.le⟩

theorem ReadsAs.not_later (hm : m < 2 ^ 53) (he : Binary64.minExponent ≤ e)
    (hm' : e' = Binary64.minExponent ∨ 2 ^ 52 ≤ m') (h : ReadsAs m e x) (h' : ReadsAs m' e' x) :
    ¬ (e < e' ∨ e = e' ∧ m < m') := by
  intro hlater
  have hle := h.ends_le.2
  have hle' := h'.ends_le.1
  rcases highEnd_le_lowEnd hm he hm' hlater with hlt | ⟨heq, hodd | hodd⟩
  · exact absurd (hle'.trans hle) (not_le.mpr hlt)
  · rw [ReadsAs, if_neg (by omega)] at h
    exact absurd (heq ▸ hle') (not_le.mpr h.2)
  · rw [ReadsAs, if_neg (by omega)] at h'
    exact absurd (heq ▸ hle) (not_le.mpr h'.1)

theorem ReadsAs.unique {negative negative' : Bool} (hd : Binary64.IsDouble (.finite negative m e))
    (hd' : Binary64.IsDouble (.finite negative' m' e')) (h : ReadsAs m e x) (h' : ReadsAs m' e' x) :
    m = m' ∧ e = e' := by
  obtain ⟨hm, he, -, hnormal⟩ := hd
  obtain ⟨hm', he', -, hnormal'⟩ := hd'
  have hnot := h.not_later hm he hnormal' h'
  have hnot' := h'.not_later hm' he' hnormal h
  omega

end BlocklistSync.Number
