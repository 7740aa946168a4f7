import BlocklistSync.Proofs.Number.Doubles
import BlocklistSync.Proofs.Number.Positional
import Mathlib.Data.Nat.Cast.Order.Field
import Mathlib.Tactic.Positivity

/-! The shortest decimal text of a double tells it from all others: the digits of the text are a
number that is rounded to the double, since seventeen digits after the first are always enough to
find one. -/
namespace BlocklistSync.Number

theorem zpow_of_nonneg (a : ℚ) {z : ℤ} (h : 0 ≤ z) : a ^ z = a ^ z.toNat := by
  conv_lhs => rw [← Int.toNat_of_nonneg h, zpow_natCast]

theorem zpow_of_neg (a : ℚ) {z : ℤ} (h : ¬ 0 ≤ z) : a ^ z = 1 / a ^ (-z).toNat := by
  rw [one_div, ← zpow_natCast, Int.toNat_of_nonneg (by omega), zpow_neg, inv_inv]

namespace Neighbourhood

variable {b : Neighbourhood} {count m : ℕ} {place e : ℤ}

def middle (b : Neighbourhood) : ℚ := b.value / b.unit

theorem holds_iff (hu : 0 < b.unit) : b.holds count place ↔
    if b.closed then (b.low / b.unit : ℚ) ≤ count * 10 ^ place ∧
      (count * 10 ^ place : ℚ) ≤ b.high / b.unit
    else (b.low / b.unit : ℚ) < count * 10 ^ place ∧
      (count * 10 ^ place : ℚ) < b.high / b.unit := by
  obtain ⟨n, d, hnd, hd, hx⟩ : ∃ n d : ℕ, (if 0 ≤ place then (count * Nat.pow 10 place.toNat, 1)
      else (count, Nat.pow 10 (-place).toNat)) = (n, d) ∧ 0 < d ∧
          (count * 10 ^ place : ℚ) = n / d := by
    split
    · next h => exact ⟨_, _, rfl, one_pos, by rw [zpow_of_nonneg _ h]; simp⟩
    · next h => exact ⟨_, _, rfl, Nat.pow_pos (by decide),
        by rw [zpow_of_neg _ h]; simp [div_eq_mul_inv]⟩
  have hu' : (0 : ℚ) < b.unit := Nat.cast_pos.mpr hu
  have hd' : (0 : ℚ) < d := Nat.cast_pos.mpr hd
  simp only [holds, hnd, hx, div_le_div_iff₀ hu' hd', div_le_div_iff₀ hd' hu',
    div_lt_div_iff₀ hu' hd', div_lt_div_iff₀ hd' hu']
  norm_cast
  cases b.closed <;> simp

theorem holds_of_onGrid? (h : b.onGrid? place = some count) : b.holds count place := by
  unfold onGrid? at h
  dsimp only at h
  generalize (if 0 ≤ place then (b.value, b.unit * Nat.pow 10 place.toNat)
    else (b.value * Nat.pow 10 (-place).toNat, b.unit)) = nd at h
  split at h
  · next hdown hup =>
    rw [Bool.and_eq_true] at hdown
    split at h
    · exact Option.some.inj h ▸ hup
    · exact Option.some.inj h ▸ hdown.2
  · next hdown _ =>
    rw [Bool.and_eq_true] at hdown
    exact Option.some.inj h ▸ hdown.2
  · next _ hup => exact Option.some.inj h ▸ hup
  · cases h

/-- The multiple of a power of ten that is just below the number is near enough if the power is
small. -/
theorem onGrid?_ne_none (hu : 0 < b.unit) (hplace : 10 ^ place ≤ b.middle)
    (hlow : b.low / b.unit < b.middle - 10 ^ place) (hhigh : b.middle < b.high / b.unit) :
    b.onGrid? place ≠ none := by
  obtain ⟨n, d, hnd, hd, hx⟩ : ∃ n d : ℕ,
    (if 0 ≤ place then (b.value, b.unit * Nat.pow 10 place.toNat)
      else (b.value * Nat.pow 10 (-place).toNat, b.unit)) = (n, d) ∧ 0 < d ∧
          (n / d : ℚ) * 10 ^ place = b.middle := by
    have hu' : (b.unit : ℚ) ≠ 0 := Nat.cast_ne_zero.mpr hu.ne'
    split
    · next h =>
      refine ⟨_, _, rfl, Nat.mul_pos hu (Nat.pow_pos (by decide)), ?_⟩
      rw [zpow_of_nonneg _ h, middle, Nat.pow_eq]
      push_cast
      field_simp
    · next h =>
      refine ⟨_, _, rfl, hu, ?_⟩
      rw [zpow_of_neg _ h, middle, Nat.pow_eq]
      push_cast
      field_simp
  have hten : (0 : ℚ) < 10 ^ place := by positivity
  have hfloor : ((n / d : ℕ) : ℚ) ≤ n / d := Nat.cast_div_le
  have hnext : (n / d : ℚ) < (n / d : ℕ) + 1 := by
    rw [div_lt_iff₀ (Nat.cast_pos.mpr hd)]
    exact_mod_cast Nat.lt_mul_of_div_lt (Nat.lt_succ_self _) hd
  have hle : ((n / d : ℕ) : ℚ) * 10 ^ place ≤ b.middle :=
    hx ▸ mul_le_mul_of_nonneg_right hfloor hten.le
  have hlt : b.middle < ((n / d : ℕ) : ℚ) * 10 ^ place + 10 ^ place := by
    rw [← hx, ← add_one_mul]
    exact mul_lt_mul_of_pos_right hnext hten
  have hholds : b.holds (n / d) place := by
    rw [holds_iff hu]
    split
    · exact ⟨by linarith, by linarith⟩
    · exact ⟨by linarith, by linarith⟩
  have hpos : 0 < n / d := by
    by_contra hzero
    rw [Nat.eq_zero_of_not_pos hzero] at hlt
    simp only [Nat.cast_zero, zero_mul, zero_add] at hlt
    exact absurd hplace (not_le.mpr hlt)
  simp only [onGrid?, hnd, decide_eq_true hpos, hholds, Bool.and_self]
  cases b.holds (n / d + 1) place <;> exact nofun

theorem lt_ten_pow_decimalLength (n : ℕ) : n < 10 ^ decimalLength n := by
  unfold decimalLength
  split
  · next h => rw [h]; decide
  · exact (Nat.length_toDigits_le_iff (by decide) Nat.length_toDigits_pos).mp le_rfl

theorem ten_pow_le_of_lt_decimalLength {n k : ℕ} (h : k < decimalLength n) : 10 ^ k ≤ n := by
  unfold decimalLength at h
  split at h
  · omega
  · by_contra hlt
    cases k with
    | zero => omega
    | succ k =>
      have := (Nat.length_toDigits_le_iff (by decide) (Nat.succ_pos k)).mpr (not_le.mp hlt)
      omega

theorem ten_pow_leadingPlace_le (hv : 0 < b.value) (hu : 0 < b.unit) :
    10 ^ b.leadingPlace ≤ b.middle := by
  have hv' : (0 : ℚ) < b.value := Nat.cast_pos.mpr hv
  have hu' : (0 : ℚ) < b.unit := Nat.cast_pos.mpr hu
  rw [leadingPlace, middle]
  split
  · next hle =>
    have hone : 0 < b.value / b.unit := Nat.div_pos hle hu
    have hlength : 0 < decimalLength (b.value / b.unit) := by
      by_contra hzero
      have := lt_ten_pow_decimalLength (b.value / b.unit)
      rw [Nat.eq_zero_of_not_pos hzero] at this
      omega
    have hpow := ten_pow_le_of_lt_decimalLength (Nat.sub_one_lt hlength.ne')
    have hplace : (decimalLength (b.value / b.unit) : ℤ) - 1 =
        ((decimalLength (b.value / b.unit) - 1 : ℕ) : ℤ) := by
      omega
    rw [hplace, zpow_natCast]
    calc (10 ^ (decimalLength (b.value / b.unit) - 1) : ℚ) ≤ (b.value / b.unit : ℕ) := by
          exact_mod_cast hpow
      _ ≤ b.value / b.unit := Nat.cast_div_le
  · have hceil := lt_ten_pow_decimalLength ((b.unit + b.value - 1) / b.value - 1)
    generalize decimalLength ((b.unit + b.value - 1) / b.value - 1) = k at *
    have hunit : b.unit ≤ 10 ^ k * b.value := by
      have hquot : (b.unit + b.value - 1) / b.value ≤ 10 ^ k := by omega
      have := Nat.lt_mul_of_div_lt (Nat.lt_succ_of_le hquot) hv
      rw [Nat.succ_mul] at this
      omega
    rw [zpow_neg, zpow_natCast, inv_le_comm₀ (by positivity) (by positivity), inv_div,
      div_le_iff₀ hv']
    exact_mod_cast hunit

/-- Seventeen digits after the first are enough where what is read as the number goes further down
than the place of the last of them. -/
theorem holds_shortest (hv : 0 < b.value) (hu : 0 < b.unit)
    (hlow : (b.low / b.unit : ℚ) < b.middle - b.middle / 10 ^ 17)
    (hhigh : b.middle < b.high / b.unit) :
    b.holds b.shortest.1 b.shortest.2 := by
  unfold shortest
  dsimp only
  split
  · next r hsome =>
    obtain ⟨k, -, hk⟩ := List.exists_of_findSome?_eq_some hsome
    obtain ⟨count, hgrid, rfl⟩ := Option.map_eq_some_iff.mp hk
    exact holds_of_onGrid? hgrid
  · next hnone =>
    -- The last place that is tried is so low that a multiple of its power of ten must be near
    -- enough.
    have hlast := List.findSome?_eq_none_iff.mp hnone 17 (by decide)
    rw [Option.map_eq_none_iff] at hlast
    have hstep : (10 : ℚ) ^ (b.leadingPlace - (17 : ℕ)) ≤ b.middle / 10 ^ 17 := by
      rw [zpow_sub₀ (by norm_num), zpow_natCast]
      exact div_le_div_of_nonneg_right (ten_pow_leadingPlace_le hv hu) (by positivity)
    have hmiddle : 0 < b.middle := div_pos (Nat.cast_pos.mpr hv) (Nat.cast_pos.mpr hu)
    have hless : b.middle / 10 ^ 17 ≤ b.middle := div_le_self hmiddle.le (by norm_num)
    exact absurd hlast (onGrid?_ne_none hu (hstep.trans hless)
      (hlow.trans_le (sub_le_sub_left hstep _)) hhigh)

/-- Around a double the unit is a quarter of the distance to the next one. -/
theorem ofFinite_eq (hm : 0 < m) (e : ℤ) : 0 < (ofFinite m e).value ∧ 0 < (ofFinite m e).unit ∧
    (ofFinite m e).middle = 4 * m * 2 ^ (e - 2) ∧
      ((ofFinite m e).low / (ofFinite m e).unit : ℚ) = lowEnd m e ∧
      ((ofFinite m e).high / (ofFinite m e).unit : ℚ) = highEnd m e := by
  obtain ⟨hd, hn⟩ := scaleBy_one 1 (e - 2)
  have hbelow : ((4 * m - below m e : ℤ) : ℚ) =
      (4 * m - if m = 2 ^ 52 ∧ Binary64.minExponent < e then 1 else 2 : ℕ) := by
    unfold below
    split
    · exact_mod_cast (by omega : (4 * m - 1 : ℤ) = (4 * m - 1 : ℕ))
    · exact_mod_cast (by omega : (4 * m - 2 : ℤ) = (4 * m - 2 : ℕ))
  simp only [middle, lowEnd, highEnd, hbelow, ofFinite, Nat.pow_eq, decide_eq_true_eq,
    Bool.and_eq_true]
  generalize scaleBy 1 1 (e - 2) = nd at *
  have hd' : (nd.2 : ℚ) ≠ 0 := Nat.cast_ne_zero.mpr hd.ne'
  have hn' : 0 < nd.1 := by
    rw [← Nat.cast_pos (α := ℚ), hn]
    positivity
  refine ⟨by positivity, hd, ?_, ?_, ?_⟩ <;> rw [div_eq_iff hd'] <;> push_cast <;> rw [hn] <;> ring

/-- The digits of the shortest text are a number that is rounded to the double. -/
theorem readsAs_shortest (hm : 0 < m) (hm' : m < 2 ^ 53) :
    ReadsAs m e ((ofFinite m e).shortest.1 * 10 ^ (ofFinite m e).shortest.2) := by
  obtain ⟨hv, hu, hmiddle, hlow, hhigh⟩ := ofFinite_eq hm e
  have hquarter := quarter_pos e
  have hsmall : (4 * m / 10 ^ 17 : ℚ) < 1 := by
    rw [div_lt_one (by norm_num)]
    exact_mod_cast (by omega : 4 * m < 10 ^ 17)
  have hone : (1 : ℚ) ≤ below m e := by
    rcases below_cases m e with h | h <;> simp [h]
  have hreach : (4 * m * 2 ^ (e - 2) / 10 ^ 17 : ℚ) < below m e * 2 ^ (e - 2) :=
    calc (4 * m * 2 ^ (e - 2) / 10 ^ 17 : ℚ) = 4 * m / 10 ^ 17 * 2 ^ (e - 2) := by ring
      _ < 1 * 2 ^ (e - 2) := mul_lt_mul_of_pos_right hsmall hquarter
      _ ≤ below m e * 2 ^ (e - 2) := mul_le_mul_of_nonneg_right hone hquarter.le
  have hholds : (ofFinite m e).holds (ofFinite m e).shortest.1 (ofFinite m e).shortest.2 := by
    refine holds_shortest hv hu ?_ ?_
    · rw [hmiddle, hlow, lowEnd]
      push_cast
      linarith
    · rw [hmiddle, hhigh, highEnd]
      push_cast
      linarith
  rw [holds_iff hu, hlow, hhigh] at hholds
  simpa [ReadsAs, ofFinite] using hholds

end Neighbourhood

namespace Binary64

variable {x y : Binary64} {cs : List Char}

def isNegative : Binary64 → Bool
  | .finite negative _ _ | .infinite negative => negative
  | .nan => false

/-- The text of a number behind its sign: digits that are rounded to it, or a word. -/
def Shows : Binary64 → List Char → Prop
  | .finite _ m e, cs => (∃ c rest, cs = c :: rest ∧ Text.isDigit c) ∧ ReadsAs m e (worth cs)
  | .infinite _, cs => cs = ['i', 'n', 'f']
  | .nan, cs => cs = ['N', 'a', 'N']

theorem readsAs_zero (e : ℤ) : ReadsAs 0 e 0 := by
  have hquarter := quarter_pos e
  rw [ReadsAs, if_pos rfl, lowEnd, highEnd]
  rcases below_cases 0 e with h | h <;> rw [h] <;> constructor <;> push_cast <;> linarith

theorem exists_shows (hx : x.IsDouble) :
    ∃ cs, x.toText.toList = (if x.isNegative then '-' :: cs else cs) ∧ x.Shows cs := by
  match x with
  | .finite negative 0 e =>
    refine ⟨['0'], by cases negative <;> simp [toText, isNegative], ⟨'0', [], rfl, by decide⟩, ?_⟩
    convert readsAs_zero e
    decide +kernel
  | .finite negative (m + 1) e =>
    let digits := (Neighbourhood.ofFinite (m + 1) e).shortest
    refine ⟨(positional digits.1 digits.2).toList, ?_, exists_cons_positional _ _, ?_⟩
    · cases negative <;> simp [toText, isNegative, digits]
    · rw [worth_positional]
      exact Neighbourhood.readsAs_shortest m.succ_pos hx.1
  | .infinite negative => exact ⟨_, by cases negative <;> rfl, rfl⟩
  | .nan => exact ⟨_, rfl, rfl⟩

theorem Shows.head?_ne (h : x.Shows cs) : cs.head? ≠ some '-' := by
  cases x with
  | finite negative m e =>
    obtain ⟨⟨c, rest, rfl, hc⟩, -⟩ := h
    rintro heq
    rw [Option.some.inj heq] at hc
    exact absurd hc (by decide)
  | infinite negative => rw [h]; decide
  | nan => rw [h]; decide

theorem Shows.unique (hx : x.IsDouble) (hy : y.IsDouble) (hsign : x.isNegative = y.isNegative)
    (h : x.Shows cs) (h' : y.Shows cs) : x = y := by
  cases x <;> cases y
  case finite.finite =>
    obtain ⟨rfl, rfl⟩ := ReadsAs.unique hx hy h.2 h'.2
    exact congrArg (finite · _ _) hsign
  case infinite.infinite => exact congrArg infinite hsign
  case nan.nan => rfl
  case finite.infinite | finite.nan =>
    obtain ⟨⟨c, rest, rfl, hc⟩, -⟩ := h
    obtain ⟨rfl, -⟩ := List.cons.inj h'
    exact absurd hc (by decide)
  case infinite.finite | nan.finite =>
    obtain ⟨⟨c, rest, rfl, hc⟩, -⟩ := h'
    obtain ⟨rfl, -⟩ := List.cons.inj h
    exact absurd hc (by decide)
  case infinite.nan | nan.infinite => exact absurd (h.symm.trans h') (by decide)

/-- The decimal text of a double tells it from all others. -/
theorem toText_injective (hx : x.IsDouble) (hy : y.IsDouble) (h : x.toText = y.toText) : x = y := by
  obtain ⟨cs, htext, hshows⟩ := exists_shows hx
  obtain ⟨cs', htext', hshows'⟩ := exists_shows hy
  rw [h, htext'] at htext
  have hhead := hshows.head?_ne
  have hhead' := hshows'.head?_ne
  have hsign : x.isNegative = y.isNegative := by
    cases hx' : x.isNegative <;> cases hy' : y.isNegative <;> rw [hx', hy'] at htext
    case false.true => exact absurd (congrArg List.head? htext).symm hhead
    case true.false => exact absurd (congrArg List.head? htext) hhead'
  rw [hsign] at htext
  have hsame : cs' = cs := by
    split at htext
    · exact (List.cons.inj htext).2
    · exact htext
  exact Shows.unique hx hy hsign hshows (hsame ▸ hshows')

end Binary64

end BlocklistSync.Number
