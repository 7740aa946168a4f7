import BlocklistSync.Calendar.Date
import Mathlib.Data.Int.Notation
import Mathlib.Tactic.IntervalCases

/-! Numbers of days and the dates that belong to them. An era has 400 years, counted from March, and
every day of it has one place: so many centuries, spans of four years and years are over, and so
many days of the present year. From one number to the next the dates go on as in the calendar. -/
namespace BlocklistSync.Calendar

structure EraDay where
  century : ℤ
  span : ℤ
  year : ℤ
  day : ℤ
  century_mem : 0 ≤ century ∧ century ≤ 3
  span_mem : 0 ≤ span ∧ span ≤ 24
  year_mem : 0 ≤ year ∧ year ≤ 3
  day_mem : 0 ≤ day ∧ day ≤ 365
  /-- The leap day ends a span, but the span at the end of a century only if the era ends with
  it. -/
  leap : day = 365 → year = 3 ∧ (span = 24 → century = 3)

namespace EraDay

def number (p : EraDay) : ℤ := 36524 * p.century + 1461 * p.span + 365 * p.year + p.day

def yearOfEra (p : EraDay) : ℤ := 100 * p.century + 4 * p.span + p.year

/-- The last of three or four equal parts is the one that may be longer by a day. -/
theorem exists_number_eq {n : ℤ} (h0 : 0 ≤ n) (h1 : n < 146097) : ∃ p : EraDay, p.number = n := by
  obtain ⟨c, r, hn, hc⟩ : ∃ c r, n = 36524 * c + r ∧ 0 ≤ c ∧ c ≤ 3 ∧ 0 ≤ r ∧
      (r < 36524 ∨ r = 36524 ∧ c = 3) :=
    ⟨min (n / 36524) 3, n - 36524 * min (n / 36524) 3, by omega, by omega⟩
  obtain ⟨q, s, hr, hq⟩ : ∃ q s, r = 1461 * q + s ∧ 0 ≤ q ∧ q ≤ 24 ∧ 0 ≤ s ∧ s ≤ 1460 :=
    ⟨r / 1461, r % 1461, by omega, by omega⟩
  obtain ⟨t, u, hs, ht⟩ : ∃ t u, s = 365 * t + u ∧ 0 ≤ t ∧ t ≤ 3 ∧ 0 ≤ u ∧
      (u < 365 ∨ u = 365 ∧ t = 3) :=
    ⟨min (s / 365) 3, s - 365 * min (s / 365) 3, by omega, by omega⟩
  refine ⟨⟨c, q, t, u, by omega, by omega, by omega, by omega, by omega⟩, ?_⟩
  simp only [number]
  omega

theorem yearOfEra_div (p : EraDay) :
    p.yearOfEra / 4 = 25 * p.century + p.span ∧ p.yearOfEra / 100 = p.century := by
  obtain ⟨c, q, t, u, hc, hq, ht, hu, hl⟩ := p
  simp only [yearOfEra]
  omega

theorem number_bounds (p : EraDay) : 0 ≤ p.number ∧ p.number < 146097 := by
  obtain ⟨c, q, t, u, hc, hq, ht, hu, hl⟩ := p
  simp only [number]
  omega

/-- Of the days before this one, as many belong to leap days as the quotients tell. -/
theorem div_number (p : EraDay) :
    (p.number - p.number / 1460 + p.number / 36524 - p.number / 146096) / 365 = p.yearOfEra := by
  obtain ⟨c, q, t, u, hc, hq, ht, hu, hl⟩ := p
  simp only [number, yearOfEra]
  generalize hn : 36524 * c + 1461 * q + 365 * t + u = n
  have hcentury : n / 36524 - n / 146096 = c := by
    by_cases hlast : n = 146096
    · subst hlast
      omega
    · have hlt : n < 36524 * (c + 1) := by omega
      omega
  have hspan : (n / 1460 = 25 * c + q ∧ u < 365) ∨ (n / 1460 = 25 * c + q + 1 ∧ 0 < u) := by
    by_cases hb : 24 * c + q + 365 * t + u < 1460
    · exact .inl ⟨by omega, by omega⟩
    · exact .inr ⟨by omega, by omega⟩
  omega

theorem number_sub (p : EraDay) :
    p.number - (365 * p.yearOfEra + p.yearOfEra / 4 - p.yearOfEra / 100) = p.day := by
  obtain ⟨h4, h100⟩ := p.yearOfEra_div
  rw [h4, h100, number, yearOfEra]
  omega

/-- The last day of a year that is counted from March is the leap day of the year that follows, if
that is a leap year. -/
theorem isLeap_iff (p : EraDay) (era : ℤ) :
    isLeap (p.yearOfEra + era * 400 + 1) ↔ p.year = 3 ∧ (p.span = 24 → p.century = 3) := by
  obtain ⟨c, q, t, u, hc, hq, ht, hu, hl⟩ := p
  simp only [EraDay.yearOfEra, isLeap, Bool.and_eq_true, Bool.or_eq_true, beq_iff_eq, bne_iff_ne]
  omega

/-- The day after a day of some year: one of the same year, or the first of the year that
follows. -/
theorem exists_succ (p : EraDay) (era : ℤ) : ∃ (era' : ℤ) (p' : EraDay),
    146097 * era' + p'.number = 146097 * era + p.number + 1 ∧
    ((p'.yearOfEra + era' * 400 = p.yearOfEra + era * 400 ∧ p'.day = p.day + 1) ∨
      (p'.yearOfEra + era' * 400 = p.yearOfEra + era * 400 + 1 ∧ p'.day = 0 ∧
        (p.day = 365 ∨ p.day = 364 ∧ ¬ isLeap (p.yearOfEra + era * 400 + 1)))) := by
  have hleap := p.isLeap_iff era
  obtain ⟨c, q, t, u, hc, hq, ht, hu, hl⟩ := p
  simp only [number, yearOfEra] at hleap ⊢
  by_cases hsame : u < 364 ∨ u = 364 ∧ isLeap (100 * c + 4 * q + t + era * 400 + 1)
  · refine ⟨era, ⟨c, q, t, u + 1, hc, hq, ht, by omega, fun h => ?_⟩, by simp only; omega,
      .inl ⟨rfl, rfl⟩⟩
    exact hleap.mp (hsame.resolve_left (by omega)).2
  · have hend : u = 365 ∨ u = 364 ∧ ¬ (t = 3 ∧ (q = 24 → c = 3)) := by
      rw [hleap] at hsame
      omega
    have hlast : u = 365 ∨ u = 364 ∧ ¬ isLeap (100 * c + 4 * q + t + era * 400 + 1) := by
      rwa [hleap]
    by_cases hyear : t < 3
    · refine ⟨era, ⟨c, q, t + 1, 0, hc, hq, by omega, by omega, by omega⟩, ?_,
        .inr ⟨?_, rfl, hlast⟩⟩ <;>
        simp only <;> omega
    · by_cases hspan : q < 24
      · refine ⟨era, ⟨c, q + 1, 0, 0, hc, by omega, by omega, by omega, by omega⟩, ?_,
          .inr ⟨?_, rfl, hlast⟩⟩ <;>
          simp only <;> omega
      · by_cases hcentury : c < 3
        · refine ⟨era, ⟨c + 1, 0, 0, 0, by omega, by omega, by omega, by omega, by omega⟩, ?_,
            .inr ⟨?_, rfl, hlast⟩⟩ <;>
            simp only <;> omega
        · refine ⟨era + 1, ⟨0, 0, 0, 0, by omega, by omega, by omega, by omega, by omega⟩, ?_,
            .inr ⟨?_, rfl, hlast⟩⟩ <;>
            simp only <;> omega

end EraDay

namespace Date

def ofMarch (year month day : ℤ) : Date :=
  let m := if month < 10 then month + 3 else month - 9
  ⟨year + (if m ≤ 2 then 1 else 0), m.toNat, day.toNat⟩

theorem number_ofMarch (year : ℤ) {month day : ℤ} (hm : 0 ≤ month ∧ month ≤ 11) (hd : 1 ≤ day) :
    (ofMarch year month day).number = year / 400 * 146097 +
      (year % 400 * 365 + year % 400 / 4 - year % 400 / 100 + ((153 * month + 2) / 5 + day - 1)) -
        719468 := by
  simp only [ofMarch, number]
  by_cases hlate : month < 10
  · have hmonth : ((month + 3).toNat : ℤ) = month + 3 := by omega
    have hmarch : (month + 3 + 9) % 12 = month := by omega
    have hspring : ¬ month + 3 ≤ 2 := by omega
    have hspring' : ¬ (month + 3).toNat ≤ 2 := by omega
    simp only [if_pos hlate, hmonth, hmarch, if_neg hspring, if_neg hspring', Int.add_zero]
    omega
  · have hmonth : ((month - 9).toNat : ℤ) = month - 9 := by omega
    have hmarch : (month - 9 + 9) % 12 = month := by omega
    have hwinter : month - 9 ≤ 2 := by omega
    have hwinter' : (month - 9).toNat ≤ 2 := by omega
    simp only [if_neg hlate, hmonth, hmarch, if_pos hwinter, if_pos hwinter', Int.add_sub_cancel]
    omega

/-- The months from March on have 153 days in every five. -/
def monthFromMarch (dayOfYear : ℤ) : ℤ := (5 * dayOfYear + 2) / 153

def dayOfMonth (dayOfYear : ℤ) : ℤ := dayOfYear - (153 * monthFromMarch dayOfYear + 2) / 5 + 1

theorem monthFromMarch_bounds {u : ℤ} (hu : 0 ≤ u ∧ u ≤ 365) :
    0 ≤ monthFromMarch u ∧ monthFromMarch u ≤ 11 := by
  unfold monthFromMarch
  omega

theorem one_le_dayOfMonth (u : ℤ) : 1 ≤ dayOfMonth u := by
  unfold dayOfMonth monthFromMarch
  omega

theorem ofNumber_eq {n era : ℤ} {p : EraDay} (hn : n + 719468 = 146097 * era + p.number) :
    ofNumber n = ofMarch (p.yearOfEra + era * 400) (monthFromMarch p.day) (dayOfMonth p.day) := by
  have hb := p.number_bounds
  have hera : (n + 719468) / 146097 = era := by omega
  have hday : (n + 719468) % 146097 = p.number := by omega
  simp only [ofNumber, hera, hday, p.div_number, p.number_sub]
  rfl

theorem exists_ofNumber_eq (n : ℤ) :
    ∃ (era : ℤ) (p : EraDay), n + 719468 = 146097 * era + p.number ∧
    ofNumber n = ofMarch (p.yearOfEra + era * 400) (monthFromMarch p.day) (dayOfMonth p.day) := by
  obtain ⟨p, hp⟩ := EraDay.exists_number_eq (Int.emod_nonneg (n + 719468) (by decide))
    (Int.emod_lt_of_pos (n + 719468) (by decide : (0 : ℤ) < 146097))
  have hn : n + 719468 = 146097 * ((n + 719468) / 146097) + p.number := by omega
  exact ⟨_, p, hn, ofNumber_eq hn⟩

/-- The number of a day can be told from its date. -/
theorem number_ofNumber (n : ℤ) : (ofNumber n).number = n := by
  obtain ⟨era, p, hn, hdate⟩ := exists_ofNumber_eq n
  rw [hdate, number_ofMarch _ (monthFromMarch_bounds p.day_mem) (one_le_dayOfMonth p.day)]
  have hyear : 0 ≤ p.yearOfEra ∧ p.yearOfEra < 400 := by
    obtain ⟨c, q, t, u, hc, hq, ht, hu, hl⟩ := p
    simp only [EraDay.yearOfEra]
    omega
  have hera : (p.yearOfEra + era * 400) / 400 = era := by omega
  have hrest : (p.yearOfEra + era * 400) % 400 = p.yearOfEra := by omega
  have hsub := p.number_sub
  rw [hera, hrest]
  simp only [dayOfMonth]
  omega

theorem ofNumber_injective : Function.Injective ofNumber :=
  Function.LeftInverse.injective number_ofNumber

theorem isLeap_of_leap {p : EraDay} (era : ℤ) (h : p.day = 365) :
    isLeap (p.yearOfEra + era * 400 + 1) :=
  (p.isLeap_iff era).mpr (p.leap h)

theorem valid_ofMarch (era : ℤ) (p : EraDay) :
    (ofMarch (p.yearOfEra + era * 400) (monthFromMarch p.day) (dayOfMonth p.day)).Valid := by
  have hleap := isLeap_of_leap era (p := p)
  obtain ⟨hm0, hm11⟩ := monthFromMarch_bounds p.day_mem
  have hu := p.day_mem
  have hlow : 153 * monthFromMarch p.day ≤ 5 * p.day + 2 := by unfold monthFromMarch; omega
  have hhigh : 5 * p.day + 2 < 153 * (monthFromMarch p.day + 1) := by unfold monthFromMarch; omega
  simp only [Valid, ofMarch, dayOfMonth]
  generalize monthFromMarch p.day = m at *
  generalize p.day = u at *
  by_cases hlast : m = 11
  · -- February has its last day only in a leap year.
    subst hlast
    by_cases hday : u = 365
    · simp [daysInMonth, hleap hday, hday]
    · have hshort : 28 ≤ daysInMonth (p.yearOfEra + era * 400 + 1) 2 := by
        rw [daysInMonth, if_pos rfl]
        split <;> omega
      exact ⟨by decide, by decide, by omega, Nat.le_trans (by omega) hshort⟩
  · interval_cases m <;> simp [daysInMonth] at hlast ⊢ <;> omega

theorem valid_ofNumber (n : ℤ) : (ofNumber n).Valid := by
  obtain ⟨era, p, -, hdate⟩ := exists_ofNumber_eq n
  rw [hdate]
  exact valid_ofMarch era p

theorem month_ofNumber (n : ℤ) : (ofNumber n).month ≤ 12 := (valid_ofNumber n).2.1

theorem day_ofNumber (n : ℤ) : (ofNumber n).day ≤ 31 := by
  refine Nat.le_trans (valid_ofNumber n).2.2.2 ?_
  unfold daysInMonth
  split
  · split <;> omega
  · split <;> omega

def next (d : Date) : Date :=
  if d.day < daysInMonth d.year d.month then ⟨d.year, d.month, d.day + 1⟩
  else if d.month < 12 then ⟨d.year, d.month + 1, 1⟩
  else ⟨d.year + 1, 1, 1⟩

theorem daysInMonth_ofMarch (year day : ℤ) {month : ℤ} (hm : 0 ≤ month ∧ month ≤ 10) :
    (daysInMonth (ofMarch year month day).year (ofMarch year month day).month : ℤ) =
      (153 * (month + 1) + 2) / 5 - (153 * month + 2) / 5 := by
  obtain ⟨h0, h10⟩ := hm
  interval_cases month <;> simp [ofMarch, daysInMonth]

theorem next_ofMarch_of_lt {year month day : ℤ} (hday : 0 ≤ day)
    (h : day < daysInMonth (ofMarch year month day).year (ofMarch year month day).month) :
    (ofMarch year month day).next = ofMarch year month (day + 1) := by
  have hlt : (ofMarch year month day).day <
      daysInMonth (ofMarch year month day).year (ofMarch year month day).month := by
    have : (ofMarch year month day).day = day.toNat := rfl
    omega
  rw [next, if_pos hlt]
  simp only [ofMarch, Date.mk.injEq, true_and]
  omega

theorem next_ofMarch_last {year month day : ℤ} (hm : 0 ≤ month ∧ month ≤ 10)
    (h : day = daysInMonth (ofMarch year month day).year (ofMarch year month day).month) :
    (ofMarch year month day).next = ofMarch year (month + 1) 1 := by
  have hlast : ¬ (ofMarch year month day).day <
      daysInMonth (ofMarch year month day).year (ofMarch year month day).month := by
    have : (ofMarch year month day).day = day.toNat := rfl
    omega
  obtain ⟨h0, h10⟩ := hm
  rw [next, if_neg hlast]
  clear h hlast
  interval_cases month <;> simp [ofMarch]

/-- Within a year that is counted from March the days go on month by month. -/
theorem next_ofMarch {year u : ℤ} (hu : 0 ≤ u ∧ (u < 364 ∨ u = 364 ∧ isLeap (year + 1))) :
    (ofMarch year (monthFromMarch u) (dayOfMonth u)).next =
      ofMarch year (monthFromMarch (u + 1)) (dayOfMonth (u + 1)) := by
  have hbounds := monthFromMarch_bounds (u := u) (by omega)
  have hlow : 153 * monthFromMarch u ≤ 5 * u + 2 := by unfold monthFromMarch; omega
  have hhigh : 5 * u + 2 < 153 * (monthFromMarch u + 1) := by unfold monthFromMarch; omega
  have hfirst := one_le_dayOfMonth u
  -- The next day is in the same month, or this one is the last of its month.
  by_cases hstay : monthFromMarch (u + 1) = monthFromMarch u
  · have hday : dayOfMonth (u + 1) = dayOfMonth u + 1 := by
      simp only [dayOfMonth, hstay]
      omega
    rw [hstay, hday]
    refine next_ofMarch_of_lt (by omega) ?_
    have hhigh' : 5 * (u + 1) + 2 < 153 * (monthFromMarch u + 1) := by
      rw [← hstay]
      unfold monthFromMarch
      omega
    by_cases hm : monthFromMarch u ≤ 10
    · rw [daysInMonth_ofMarch _ _ ⟨hbounds.1, hm⟩, dayOfMonth]
      omega
    · have hm : monthFromMarch u = 11 := by omega
      -- February ends such a year, so that only there the length depends on the year.
      have hfebruary : u - 337 + 1 < (if isLeap (year + 1) then 29 else 28 : ℕ) := by
        rcases hu.2 with hlt | ⟨rfl, hleap⟩
        · split <;> omega
        · rw [if_pos hleap]
          decide
      rw [dayOfMonth, hm]
      exact hfebruary
  · have hcross : monthFromMarch (u + 1) = monthFromMarch u + 1 := by
      unfold monthFromMarch at hstay ⊢
      omega
    have hm : 0 ≤ monthFromMarch u ∧ monthFromMarch u ≤ 10 := by
      have := monthFromMarch_bounds (u := u + 1) (by omega)
      omega
    have hlow' : 153 * (monthFromMarch u + 1) ≤ 5 * (u + 1) + 2 := by
      rw [← hcross]
      unfold monthFromMarch
      omega
    have hone : dayOfMonth (u + 1) = 1 := by
      rw [dayOfMonth, hcross]
      omega
    rw [hcross, hone]
    refine next_ofMarch_last hm ?_
    rw [daysInMonth_ofMarch _ _ hm, dayOfMonth]
    omega

/-- After the last day of February comes the first of March, on which the next year that is counted
from March begins. -/
theorem next_ofMarch_february {year u : ℤ}
    (hu : u = 365 ∧ isLeap (year + 1) ∨ u = 364 ∧ ¬ isLeap (year + 1)) :
    (ofMarch year (monthFromMarch u) (dayOfMonth u)).next = ofMarch (year + 1) (monthFromMarch 0)
    (dayOfMonth 0) := by
  rcases hu with ⟨rfl, hleap⟩ | ⟨rfl, hleap⟩ <;> simp [ofMarch, monthFromMarch, dayOfMonth, next,
    daysInMonth, hleap]

theorem ofNumber_zero : ofNumber 0 = ⟨1970, 1, 1⟩ := by decide

/-- One day after the other is numbered, through months of all lengths and leap years. -/
theorem ofNumber_succ (n : ℤ) : ofNumber (n + 1) = (ofNumber n).next := by
  obtain ⟨era, p, hn, hdate⟩ := exists_ofNumber_eq n
  obtain ⟨era', p', hnumber, hday⟩ := p.exists_succ era
  have hleap := p.leap
  have hu := p.day_mem
  rw [hdate, ofNumber_eq (show n + 1 + 719468 = 146097 * era' + p'.number by omega)]
  rcases hday with ⟨hyear, hday⟩ | ⟨hyear, hday, hlast⟩
  · have hwithin : 0 ≤ p.day ∧ (p.day < 364 ∨ p.day = 364 ∧
        isLeap (p.yearOfEra + era * 400 + 1)) := by
      refine ⟨hu.1, ?_⟩
      have hu' := p'.day_mem
      by_cases hlt : p.day < 364
      · exact .inl hlt
      · exact .inr ⟨by omega, hyear ▸ isLeap_of_leap era' (by omega)⟩
    rw [hyear, hday, next_ofMarch hwithin]
  · rw [hyear, hday]
    refine (next_ofMarch_february ?_).symm
    rcases hlast with hlast | hlast
    · exact .inl ⟨hlast, isLeap_of_leap era hlast⟩
    · exact .inr hlast

end Date
end BlocklistSync.Calendar
