import BlocklistSync.Calendar.Moment
import BlocklistSync.Proofs.Calendar.DayNumber
import Mathlib.Data.List.Flatten
import Mathlib.Data.Nat.Notation

/-! The text of a moment. All its fields but the year have two digits, so that the moment can be
told from it. -/
namespace BlocklistSync.Calendar.Moment

theorem toList_padded (width n : ℕ) :
    (padded width n).toList =
      List.replicate (width - (Nat.toDigits 10 n).length) '0' ++ Nat.toDigits 10 n := by
  simp [padded, Nat.toString_eq_repr, ← String.length_toList, Nat.toList_repr]

theorem ofDigitChars_padded (width n : ℕ) : Nat.ofDigitChars 10 (padded width n).toList 0 = n := by
  rw [toList_padded, Nat.ofDigitChars_append, Nat.ofDigitChars_replicate_zero, Nat.mul_zero,
    Nat.ofDigitChars_ten_toDigits]

theorem padded_inj {width n n' : ℕ} : padded width n = padded width n' ↔ n = n' := by
  refine ⟨fun h => ?_, fun h => h ▸ rfl⟩
  rw [← ofDigitChars_padded width n, h, ofDigitChars_padded]

theorem length_padded {width n : ℕ} (hw : 0 < width) (hn : n < 10 ^ width) :
    (padded width n).toList.length = width := by
  have hdigits : (Nat.toDigits 10 n).length ≤ width :=
    (Nat.length_toDigits_le_iff (by decide) hw).mpr hn
  rw [toList_padded, List.length_append, List.length_replicate]
  omega

theorem length_padded_two {n : ℕ} (hn : n < 100) : (padded 2 n).toList.length = 2 :=
  length_padded (by decide) hn

theorem isDigit_of_mem_padded {width n : ℕ} {c : Char} (hc : c ∈ (padded width n).toList) :
    c.isDigit := by
  rw [toList_padded, List.mem_append] at hc
  rcases hc with hc | hc
  · rw [List.eq_of_mem_replicate hc]
    decide
  · exact Nat.isDigit_of_mem_toDigits (by decide) (by decide) hc

/-- Reads a year, with its sign if it has one. -/
def yearOfText : List Char → ℤ
  | '-' :: digits => -(Nat.ofDigitChars 10 digits 0 : ℤ)
  | '+' :: digits => Nat.ofDigitChars 10 digits 0
  | digits => Nat.ofDigitChars 10 digits 0

theorem yearOfText_padded (width n : ℕ) : yearOfText (padded width n).toList = n := by
  have hdigit : ∀ c ∈ (padded width n).toList, c.isDigit := fun c => isDigit_of_mem_padded
  have hvalue := ofDigitChars_padded width n
  unfold yearOfText
  split
  · next h => exact absurd (hdigit '-' (by simp [h])) (by decide)
  · next h => exact absurd (hdigit '+' (by simp [h])) (by decide)
  · rw [hvalue]

theorem yearOfText_yearText (year : ℤ) : yearOfText (yearText year).toList = year := by
  unfold yearText
  split
  · next h =>
    rw [yearOfText_padded]
    have hn : 0 ≤ year := by simp_all
    omega
  · split
    · rw [String.toList_append, show "-".toList = ['-'] from rfl, List.singleton_append, yearOfText,
        ofDigitChars_padded]
      omega
    · rw [String.toList_append, show "+".toList = ['+'] from rfl, List.singleton_append, yearOfText,
        ofDigitChars_padded]
      omega

theorem yearText_injective {year year' : ℤ} (h : yearText year = yearText year') :
    year = year' := by
  rw [← yearOfText_yearText year, h, yearOfText_yearText]

def IsWhole (m : Moment) : Prop := m.second < secondsPerDay ∧ m.nanos = 0

/-- The text of a moment at which a second begins, field by field. -/
def fields (m : Moment) : List (List Char) :=
  let d := Date.ofNumber m.dayNumber
  [(yearText d.year).toList, ['-'], (padded 2 d.month).toList, ['-'], (padded 2 d.day).toList,
    [' '], (padded 2 (m.second / 3600)).toList, [':'], (padded 2 (m.second / 60 % 60)).toList,
    [':'], (padded 2 (m.second % 60)).toList]

theorem toList_toText {m : Moment} (hm : m.IsWhole) : m.toText.toList = m.fields.flatten := by
  have hleap : ¬ leapNanos = 0 := by decide
  simp [toText, fields, fractionText, hm.2, hleap, toString]

/-- All fields but the year are of one length whatever the moment is. -/
theorem map_length_fields {m : Moment} (hm : m.IsWhole) :
    m.fields.map List.length =
      [(yearText (Date.ofNumber m.dayNumber).year).toList.length,
        1, 2, 1, 2, 1, 2, 1, 2, 1, 2] := by
  have hmonth := Date.month_ofNumber m.dayNumber
  have hday := Date.day_ofNumber m.dayNumber
  have hsecond : m.second < 86400 := hm.1
  simp only [fields, List.map_cons, List.map_nil, List.length_singleton]
  rw [length_padded_two (by omega), length_padded_two (by omega), length_padded_two (by omega),
    length_padded_two (by omega), length_padded_two (by omega)]

theorem toText_injective {m m' : Moment} (hm : m.IsWhole) (hm' : m'.IsWhole)
    (h : m.toText = m'.toText) : m = m' := by
  have hflat : m.fields.flatten = m'.fields.flatten := by
    rw [← toList_toText hm, h, toList_toText hm']
  have hyear : (yearText (Date.ofNumber m.dayNumber).year).toList.length =
      (yearText (Date.ofNumber m'.dayNumber).year).toList.length := by
    have hlength := congrArg List.length hflat
    simp only [List.length_flatten, map_length_fields hm, map_length_fields hm',
      List.sum_cons] at hlength
    omega
  have hfields : m.fields = m'.fields :=
    List.eq_iff_flatten_eq.mpr ⟨hflat, by rw [map_length_fields hm, map_length_fields hm', hyear]⟩
  simp only [fields, List.cons.injEq, String.toList_inj, padded_inj] at hfields
  obtain ⟨hy, -, hmonth, -, hday, -, hhour, -, hminute, -, hsecond, -⟩ := hfields
  have hdate : Date.ofNumber m.dayNumber = Date.ofNumber m'.dayNumber :=
    (Date.mk.injEq ..).mpr ⟨yearText_injective hy, hmonth, hday⟩
  have hnumber := Date.ofNumber_injective hdate
  obtain ⟨day, second, nanos⟩ := m
  obtain ⟨day', second', nanos'⟩ := m'
  obtain ⟨-, rfl⟩ := hm
  obtain ⟨-, rfl⟩ := hm'
  simp only at hnumber hhour hminute hsecond
  have hs : second = second' := by omega
  rw [hnumber, hs]

end BlocklistSync.Calendar.Moment
