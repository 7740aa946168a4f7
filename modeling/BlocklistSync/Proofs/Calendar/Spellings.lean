import BlocklistSync.Proofs.Calendar.Readers
import BlocklistSync.Proofs.Text.Utf8
import BlocklistSync.Store.Query

/-! The ways to write one instant in a cell of the table: as seconds, in a plain form in universal
time, or with a zone in the time of that zone. They are read alike, although the forms are tried one
after the other and each of them fits texts that are meant for another up to the last characters. -/
namespace BlocklistSync.Calendar

namespace Timestamp
open BlocklistSync.Text
open Moment (padded)

section Clock
variable {t : ℤ} {digits : List Char}

/-- The date at so many seconds since the start of 1970. -/
def dateAt (t : ℤ) : Date := .ofNumber (t / secondsPerDay)

def secondAt (t : ℤ) : ℕ := (t % secondsPerDay).toNat

def HasPlainYear (t : ℤ) : Prop := 0 ≤ (dateAt t).year ∧ (dateAt t).year ≤ 9999

instance (t : ℤ) : Decidable (HasPlainYear t) := inferInstanceAs (Decidable (_ ∧ _))

def dateText (d : Date) : List Char :=
  (padded 4 d.year.toNat).toList ++ '-' ::
    ((padded 2 d.month).toList ++ '-' :: (padded 2 d.day).toList)

def clockText (second : ℕ) (digits : List Char) : List Char :=
  (padded 2 (second / 3600)).toList ++ ':' :: ((padded 2 (second / 60 % 60)).toList ++ ':' ::
    ((padded 2 (second % 60)).toList ++ fractionText digits))

theorem secondAt_lt (t : ℤ) : secondAt t < 86400 := by
  simp only [secondAt, secondsPerDay]
  omega

theorem length_year (ht : HasPlainYear t) : (padded 4 (dateAt t).year.toNat).toList.length = 4 :=
  Moment.length_padded (by decide) (by have := ht.1; have := ht.2; omega)

theorem length_month (t : ℤ) : (padded 2 (dateAt t).month).toList.length = 2 :=
  Moment.length_padded_two (Nat.lt_of_le_of_lt (Date.month_ofNumber _) (by decide))

theorem length_day (t : ℤ) : (padded 2 (dateAt t).day).toList.length = 2 :=
  Moment.length_padded_two (Nat.lt_of_le_of_lt (Date.day_ofNumber _) (by decide))

theorem length_hour (t : ℤ) : (padded 2 (secondAt t / 3600)).toList.length = 2 :=
  Moment.length_padded_two (by have := secondAt_lt t; omega)

theorem length_minute (t : ℤ) : (padded 2 (secondAt t / 60 % 60)).toList.length = 2 :=
  Moment.length_padded_two (by omega)

theorem length_second (t : ℤ) : (padded 2 (secondAt t % 60)).toList.length = 2 :=
  Moment.length_padded_two (by omega)

theorem HasPlainYear.inRange (ht : HasPlainYear t) : Moment.InRange (t / secondsPerDay) :=
  ⟨Int.le_trans (by decide) ht.1, Int.le_trans ht.2 (by decide)⟩

/-- The fields of an instant are those of a day that there is, and belong to no other instant. -/
theorem moment?_fields (ht : HasPlainYear t) (nanos : ℕ) :
    moment? ⟨(dateAt t).year.toNat, (dateAt t).month, (dateAt t).day⟩
      ⟨secondAt t / 3600, secondAt t / 60 % 60, secondAt t % 60, nanos⟩ =
        some (.ofSeconds t nanos) := by
  have hsecond := secondAt_lt t
  have hclock : TimeOfDay.Valid ⟨secondAt t / 3600, secondAt t / 60 % 60, secondAt t % 60,
      nanos⟩ := by
    simp only [TimeOfDay.Valid]
    omega
  have hleap : ¬ secondAt t % 60 = 60 := by omega
  have htime : secondAt t / 3600 * 3600 + secondAt t / 60 % 60 * 60 + secondAt t % 60 =
      secondAt t := by omega
  have hnumber : (dateAt t).number = t / secondsPerDay := Date.number_ofNumber _
  rw [Int.toNat_of_nonneg ht.1, moment?, if_pos ⟨Date.valid_ofNumber _, hclock, ht.inRange⟩]
  simp only [hleap, if_false, htime, hnumber]
  rfl

theorem ofSeconds?_eq (ht : HasPlainYear t) : Moment.ofSeconds? t = some (.ofSeconds t 0) :=
  if_pos ht.inRange

theorem addSeconds_ofSeconds (t ahead : ℤ) (nanos : ℕ) :
    (Moment.ofSeconds (t + ahead) nanos).addSeconds (-ahead) = .ofSeconds t nanos := by
  have hseconds : (Moment.ofSeconds (t + ahead) nanos).toSeconds = t + ahead := by
    simp only [Moment.toSeconds, Moment.ofSeconds, secondsPerDay]
    omega
  rw [Moment.addSeconds, hseconds, Int.add_neg_cancel_right]
  rfl

end Clock

/-- A zone as it is written after the time: universal time by its letter, any other by hours and
minutes. -/
inductive Zone
  | universal (small : Bool)
  | offset (behind : Bool) (minutes : Fin 1440)

namespace Zone

/-- Seconds that its clocks are ahead of universal time. -/
def ahead : Zone → ℤ
  | universal _ => 0
  | offset behind minutes => if behind then -((minutes.val : ℤ) * 60) else (minutes.val : ℤ) * 60

def text : Zone → List Char
  | universal small => [if small then 'z' else 'Z']
  | offset behind minutes => (if behind then '-' else '+') ::
      ((padded 2 (minutes / 60)).toList ++ ':' :: (padded 2 (minutes % 60)).toList)

theorem zone_text (z : Zone) : zone z.text = some (z.ahead, []) := by
  cases z with
  | universal small => cases small <;> rfl
  | offset behind minutes =>
    have hhours := takes_exactDigits (Moment.length_padded_two (n := minutes / 60) (by omega))
    have hminutes := takes_exactDigits (Moment.length_padded_two (n := minutes % 60) (by omega)) []
    have hclock : minutes.val / 60 ≤ 23 ∧ minutes.val % 60 ≤ 59 := by omega
    have hseconds : ((minutes.val / 60 : ℕ) : ℤ) * 3600 + ((minutes.val % 60 : ℕ) : ℤ) * 60 =
        minutes.val * 60 := by
      omega
    rw [List.append_nil] at hminutes
    simp only [zone, text, ahead]
    cases behind <;>
      simp only [Bool.false_eq_true, if_false, if_true, ↓Option.bind_eq_bind, ↓hhours.bind,
        ↓literal_bind, hminutes, hclock, hseconds, Option.bind_some] <;>
      rfl

/-- No zone looks like more of a fraction. -/
theorem endsFraction_text (z : Zone) : EndsFraction z.text := by
  rintro c hc
  cases z with
  | universal small =>
    cases small <;> obtain rfl := Option.mem_some.mp hc <;> decide
  | offset behind minutes =>
    cases behind <;> obtain rfl := Option.mem_some.mp hc <;> decide

theorem isBlank_of_mem_text {z : Zone} {c : Char} (hc : c ∈ z.text) : isBlank c = false := by
  cases z with
  | universal small =>
    cases small <;> obtain rfl := List.mem_singleton.mp hc <;> rfl
  | offset behind minutes =>
    simp only [text, List.mem_cons, List.mem_append] at hc
    rcases hc with rfl | hc | rfl | hc
    · cases behind <;> rfl
    · exact isBlank_of_isDigit (Moment.isDigit_of_mem_padded hc)
    · rfl
    · exact isBlank_of_isDigit (Moment.isDigit_of_mem_padded hc)

end Zone

/-- How an instant is written in a text. -/
inductive Spelling
  | plain (separator : Separator)
  | zoned (mark : {c : Char // c ∈ ['T', 't', ' ']}) (zone : Zone)

namespace Spelling

def mark : Spelling → Char
  | plain separator => separator.mark
  | zoned mark _ => mark

def zoneText : Spelling → List Char
  | plain _ => []
  | zoned _ zone => zone.text

/-- Seconds that the clocks it goes by are ahead of universal time. -/
def ahead : Spelling → ℤ
  | plain _ => 0
  | zoned _ zone => zone.ahead

/-- The time of the zone, with these digits of a fraction. -/
def text (w : Spelling) (t : ℤ) (digits : List Char) : List Char :=
  dateText (dateAt (t + w.ahead)) ++ w.mark ::
    (clockText (secondAt (t + w.ahead)) digits ++ w.zoneText)

end Spelling

section Reading
variable {t : ℤ} {digits : List Char}

theorem zoned?_text {mark : Char} (hmark : mark ∈ ['T', 't', ' ']) (ht : HasPlainYear t)
    (hd : IsFraction digits) {rest : List Char} (hrest : EndsFraction rest) :
    zoned? (dateText (dateAt t) ++ mark :: (clockText (secondAt t) digits ++ rest)) =
      (zone rest).bind fun (ahead, cs) =>
        if cs.isEmpty then some ((Moment.ofSeconds t (fractionNanos digits)).addSeconds (-ahead))
          else none := by
  have hread := zoned?_of_takes hmark (takes_exactDigits (length_year ht))
    (takes_exactDigits (length_month t))
    (takes_exactDigits (length_day t)) (takes_exactDigits (length_hour t))
      (takes_exactDigits (length_minute t))
    (takes_exactDigits (length_second t)) (fraction_fractionText hd hrest)
  simp only [dateText, clockText, List.append_assoc, List.cons_append]
  rw [hread, moment?_fields ht]
  rfl

theorem plain?_text (separator : Separator) (ht : HasPlainYear t) (hd : IsFraction digits) :
    plain? separator (dateText (dateAt t) ++ separator.mark :: clockText (secondAt t) digits) =
      some (.ofSeconds t (fractionNanos digits)) := by
  have hfraction := fraction_fractionText hd endsFraction_nil
  rw [List.append_nil] at hfraction
  have hread := plain?_of_takes separator (takes_laxYear (length_year ht))
    (takes_laxField (length_month t))
    (takes_laxField (length_day t)) (takes_laxField (length_hour t))
      (takes_laxField (length_minute t))
    (takes_laxField (length_second t)) hfraction
  simp only [dateText, clockText, List.append_assoc, List.cons_append]
  rw [hread, moment?_fields ht]

theorem plain?_blank_text (ht : HasPlainYear t) (rest : List Char) :
    plain? .blank (dateText (dateAt t) ++ Separator.letter.mark :: rest) = none := by
  have hread := plain?_blank_letter (takes_laxYear (length_year ht))
    (takes_laxField (length_month t))
    (takes_laxField (length_day t)) rest
  simp only [dateText, List.append_assoc, List.cons_append]
  exact hread

/-- The forms are tried in turn; none before the right one takes the text. -/
theorem read_text (w : Spelling) (ht : HasPlainYear (t + w.ahead)) (hd : IsFraction digits) :
    (zoned? (w.text t digits) <|> plain? .blank (w.text t digits) <|>
      plain? .letter (w.text t digits)) =
      some (.ofSeconds t (fractionNanos digits)) := by
  -- Without a zone the zoned forms fail, and of the plain forms a blank or a letter picks one.
  cases w with
  | zoned mark zone =>
    have hread : zoned? ((Spelling.zoned mark zone).text t digits) =
        some (.ofSeconds t (fractionNanos digits)) := by
      rw [Spelling.text, Spelling.mark, Spelling.zoneText,
        zoned?_text mark.2 ht hd zone.endsFraction_text, zone.zone_text]
      exact congrArg some (addSeconds_ofSeconds t _ _)
    rw [hread]
    rfl
  | plain separator =>
    have hzoned : zoned? ((Spelling.plain separator).text t digits) = none := by
      have hmark : separator.mark ∈ ['T', 't', ' '] := by cases separator <;> decide
      rw [Spelling.text, Spelling.mark, Spelling.zoneText, zoned?_text hmark ht hd endsFraction_nil]
      rfl
    have htime : t + (Spelling.plain separator).ahead = t := Int.add_zero t
    have hplain := plain?_text separator (htime ▸ ht) hd
    rw [hzoned, Spelling.text, Spelling.mark, Spelling.zoneText, List.append_nil, htime]
    cases separator with
    | blank =>
      rw [hplain]
      rfl
    | letter =>
      rw [plain?_blank_text (htime ▸ ht), hplain]
      rfl

theorem isBlank_of_mem_dateText {d : Date} {c : Char} (hc : c ∈ dateText d) :
    isBlank c = false := by
  simp only [dateText, List.mem_append, List.mem_cons] at hc
  rcases hc with hc | rfl | hc | rfl | hc
  · exact isBlank_of_isDigit (Moment.isDigit_of_mem_padded hc)
  · rfl
  · exact isBlank_of_isDigit (Moment.isDigit_of_mem_padded hc)
  · rfl
  · exact isBlank_of_isDigit (Moment.isDigit_of_mem_padded hc)

theorem isBlank_of_mem_fractionText (hd : IsFraction digits) {c : Char}
    (hc : c ∈ fractionText digits) :
    isBlank c = false := by
  cases digits with
  | nil => cases hc
  | cons d ds =>
    rcases List.mem_cons.mp hc with rfl | hc
    · rfl
    · exact isBlank_of_isDigit (hd.isDigit c hc)

theorem isBlank_of_mem_clockText {second : ℕ} (hd : IsFraction digits) {c : Char}
    (hc : c ∈ clockText second digits) :
    isBlank c = false := by
  simp only [clockText, List.mem_append, List.mem_cons] at hc
  rcases hc with hc | rfl | hc | rfl | hc | hc
  · exact isBlank_of_isDigit (Moment.isDigit_of_mem_padded hc)
  · rfl
  · exact isBlank_of_isDigit (Moment.isDigit_of_mem_padded hc)
  · rfl
  · exact isBlank_of_isDigit (Moment.isDigit_of_mem_padded hc)
  · exact isBlank_of_mem_fractionText hd hc

/-- A blank stands in a text at most between date and time, so that none is lost with the white
space around it. -/
theorem isTrimmed_text (w : Spelling) (hd : IsFraction digits) : IsTrimmed (w.text t digits) := by
  have hdate : dateText (dateAt (t + w.ahead)) ≠ [] :=
    List.append_ne_nil_of_left_ne_nil (padded_ne_nil _ _) _
  have hclock : clockText (secondAt (t + w.ahead)) digits ++ w.zoneText ≠ [] :=
    List.append_ne_nil_of_left_ne_nil (List.append_ne_nil_of_left_ne_nil (padded_ne_nil _ _) _) _
  have hback : ∀ c ∈ clockText (secondAt (t + w.ahead)) digits ++ w.zoneText,
      isBlank c = false := by
    intro c hc
    rcases List.mem_append.mp hc with hc | hc
    · exact isBlank_of_mem_clockText hd hc
    · cases w with
      | plain separator => cases hc
      | zoned mark zone => exact Zone.isBlank_of_mem_text hc
  have hdate' : IsTrimmed (dateText (dateAt (t + w.ahead))) :=
    isTrimmed_of_forall fun _ => isBlank_of_mem_dateText
  have htext := hdate'.append (isTrimmed_of_forall hback) hdate hclock [w.mark]
  rw [List.singleton_append] at htext
  exact htext

end Reading

end Timestamp

end BlocklistSync.Calendar

namespace BlocklistSync.Query
open Calendar Calendar.Timestamp

/-- Whatever form an instant is written in, and whatever white space stands around it, the same
moment is read, and without a fraction it is the moment of the seconds themselves. -/
theorem stamp_alike {t : ℤ} {digits : List Char} (ht : HasPlainYear t) (hd : IsFraction digits) :
    (∀ w : Spelling, HasPlainYear (t + w.ahead) → ∀ before after, (∀ c ∈ before, Text.isBlank c) →
      (∀ c ∈ after, Text.isBlank c) →
        stamp (.ofString (String.ofList (before ++ w.text t digits ++ after))) =
          some (.ofSeconds t (fractionNanos digits))) ∧
      (digits = [] → stamp (.integer t) = some (.ofSeconds t (fractionNanos digits))) := by
  refine ⟨fun w hw before after hbefore hafter => ?_, ?_⟩
  · have htrim := Text.trimChars_append (isTrimmed_text (t := t) w hd) hbefore hafter
    rw [Cell.ofString, stamp, Text.Utf8.decode?_encode, Option.bind_some, read?,
      String.toList_ofList, htrim]
    exact read_text w hw hd
  · rintro rfl
    exact ofSeconds?_eq ht

section Example

/-- Half past eleven on the last night of the year 2000, half a second over. -/
def lateEvening : ℤ := 978305400

theorem isFraction_half : IsFraction ['5'] := ⟨List.forall_mem_singleton.mpr rfl, by decide⟩

theorem text_eastern : (Spelling.zoned ⟨'T', by decide⟩ (.offset false 60)).text lateEvening ['5'] =
    "2001-01-01T00:30:00.5+01:00".toList := by decide +kernel

/-- An hour further east the next year has begun. -/
theorem stamp_alike_of_eastern : HasPlainYear lateEvening ∧
    HasPlainYear (lateEvening + (Spelling.zoned ⟨'T', by decide⟩ (.offset false 60)).ahead) ∧
    stamp
      (.ofString (String.ofList (['\u3000', ' '] ++ "2001-01-01T00:30:00.5+01:00".toList ++
      ['\n']))) =
      some ⟨11322, 84600, 500000000⟩ := by
  have hyear : HasPlainYear lateEvening := by decide +kernel
  have hlocal : HasPlainYear (lateEvening +
      (Spelling.zoned ⟨'T', by decide⟩ (.offset false 60)).ahead) := by
    decide +kernel
  have hread :=
    (stamp_alike hyear isFraction_half).1 (.zoned ⟨'T', by decide⟩ (.offset false 60)) hlocal
    ['\u3000', ' '] ['\n'] (List.all_eq_true.mp rfl) (List.forall_mem_singleton.mpr rfl)
  rw [text_eastern] at hread
  exact ⟨hyear, hlocal, hread⟩

end Example

end BlocklistSync.Query
