import BlocklistSync.Store.Cell
import Mathlib.Algebra.Order.Field.Power
import Mathlib.Algebra.Order.Field.Rat

/-! The order of cells, told by three keys: the class, the value of a number and the bytes of a text
or blob. Numbers of either kind are compared by what they are worth, and the order is total, so that
every table has an order of its ids. -/
namespace BlocklistSync

namespace Number.Binary64

/-- Where a number stands as to its kind: what is no number is below all others. -/
def tier : Binary64 → ℕ
  | .nan => 0
  | .infinite true => 1
  | .finite .. => 2
  | .infinite false => 3

def value : Binary64 → ℚ
  | .finite negative mantissa exponent => signed negative mantissa * 2 ^ exponent
  | .infinite _ | .nan => 0

/-- Scaling to the lower exponent makes both sides whole and keeps their order. -/
theorem compareScaled_eq (a x b y : ℤ) :
    compareScaled a x b y = compare ((a : ℚ) * 2 ^ x) (b * 2 ^ y) := by
  have hscale (c z : ℤ) (hz : min x y ≤ z) :
      (c : ℚ) * 2 ^ z = (c * Nat.pow 2 (z - min x y).toNat : ℤ) * 2 ^ min x y := by
    have hexponent : z = ((z - min x y).toNat : ℤ) + min x y := by omega
    conv_lhs => rw [hexponent, zpow_add₀ two_ne_zero, zpow_natCast]
    push_cast
    rw [mul_assoc]
    simp
  have hpos : (0 : ℚ) < 2 ^ min x y := zpow_pos two_pos _
  rw [hscale a x (min_le_left ..), hscale b y (min_le_right ..), ← cmp_eq_compare,
    (strictMono_mul_right_of_pos hpos).cmp_map_eq, Int.cast_strictMono.cmp_map_eq, cmp_eq_compare]
  rfl

theorem order_eq (x y : Binary64) :
    x.order y = (compare x.tier y.tier).then (compare x.value y.value) := by
  cases x with
  | finite s m e =>
    cases y with
    | finite t n f => exact compareScaled_eq ..
    | infinite t => cases t <;> rfl
    | nan => rfl
  | infinite s =>
    cases y with
    | finite t n f => cases s <;> rfl
    | infinite t => cases s <;> cases t <;> rfl
    | nan => cases s <;> rfl
  | nan =>
    cases y with
    | infinite t => cases t <;> rfl
    | finite | nan => rfl

theorem orderInt_eq (x : Binary64) (i : ℤ) :
    x.orderInt i = (compare x.tier 2).then (compare x.value i) := by
  cases x with
  | finite s m e =>
    have hscaled := compareScaled_eq (signed s m) e i 0
    rw [zpow_zero, mul_one] at hscaled
    exact hscaled
  | infinite s => cases s <;> rfl
  | nan => rfl

end Number.Binary64

namespace Cell
open Number (Binary64)

/-- Classes in their order, the numbers split up by kind. -/
def rank : Cell → ℕ
  | null => 0
  | integer _ => 3
  | real x => x.tier + 1
  | text _ => 5
  | blob _ => 6

def value : Cell → ℚ
  | integer i => i
  | real x => x.value
  | null | text _ | blob _ => 0

def bytes : Cell → Bytes
  | text b | blob b => b
  | null | integer _ | real _ => []

theorem tier_lt (x : Binary64) : x.tier < 4 := by
  cases x with
  | finite => exact (by decide : 2 < 4)
  | infinite s => cases s <;> decide
  | nan => decide

theorem compare_tier_succ (m n : ℕ) : compare (m + 1) (n + 1) = compare m n := by
  simp only [Nat.compare_eq_ite_lt, Nat.add_lt_add_iff_right]

theorem rank_real (x : Binary64) : 0 < (real x).rank ∧ (real x).rank < 5 :=
  ⟨Nat.succ_pos _, Nat.succ_lt_succ (tier_lt x)⟩

theorem then_of_lt {m n : ℕ} (h : m < n) (o : Ordering) : (compare m n).then o = .lt := by
  rw [Nat.compare_eq_lt.mpr h]
  rfl

theorem then_of_gt {m n : ℕ} (h : n < m) (o : Ordering) : (compare m n).then o = .gt := by
  rw [Nat.compare_eq_gt.mpr h]
  rfl

/-- Cells are ordered by class, then by value, then by bytes. -/
theorem order_eq (a b : Cell) :
    a.order b = (compare a.rank b.rank).then
      ((compare a.value b.value).then (compare a.bytes b.bytes)) := by
  have hnil : compare ([] : Bytes) [] = .eq := rfl
  have hreal := rank_real
  -- Integers and reals share a class: of the mixed pairs only these are compared by value.
  cases a with
  | null =>
    cases b with
    | real y => exact (then_of_lt (hreal y).1 _).symm
    | _ => rfl
  | integer i =>
    cases b with
    | integer j =>
      have hcast : compare (i : ℚ) j = compare i j := by
        rw [← cmp_eq_compare, Int.cast_strictMono.cmp_map_eq, cmp_eq_compare]
      simp only [order, rank, value, bytes, hcast, hnil, Ordering.then_eq]
      rfl
    | real y =>
      rw [order, Binary64.orderInt_eq, Ordering.swap_then, ← Std.OrientedOrd.eq_swap,
        ← Std.OrientedOrd.eq_swap]
      simp only [rank, value, bytes, hnil, Ordering.then_eq, compare_tier_succ 2]
    | _ => rfl
  | real x =>
    cases b with
    | null => exact (then_of_gt (hreal x).1 _).symm
    | integer j =>
      rw [order, Binary64.orderInt_eq]
      simp only [rank, value, bytes, hnil, Ordering.then_eq, compare_tier_succ _ 2]
    | real y =>
      rw [order, Binary64.order_eq]
      simp only [rank, value, bytes, hnil, Ordering.then_eq, compare_tier_succ]
    | text t => exact (then_of_lt (hreal x).2 _).symm
    | blob t => exact (then_of_lt (Nat.lt_succ_of_lt (hreal x).2) _).symm
  | text s =>
    cases b with
    | real y => exact (then_of_gt (hreal y).2 _).symm
    | text t => simp [order, rank, value, bytes]
    | _ => rfl
  | blob s =>
    cases b with
    | real y => exact (then_of_gt (Nat.lt_succ_of_lt (hreal y).2) _).symm
    | blob t => simp [order, rank, value, bytes]
    | _ => rfl

instance : Std.TransCmp order := by
  have heq : order = compareLex (compareOn rank)
      (compareLex (compareOn value) (compareOn bytes)) := by
    funext a b
    exact order_eq a b
  rw [heq]
  infer_instance

theorem le_trans {a b c : Cell} (hab : a.le b) (hbc : b.le c) : a.le c := by
  simp only [le, bne_iff_ne, ne_eq, ← Ordering.isLE_iff_ne_gt] at hab hbc ⊢
  exact Std.TransCmp.isLE_trans hab hbc

theorem le_total (a b : Cell) : a.le b || b.le a := by
  rw [le, le, show b.order a = (a.order b).swap from Std.OrientedCmp.eq_swap]
  cases a.order b <;> rfl

end Cell
end BlocklistSync
