import BlocklistSync.Calendar.Timestamp
import BlocklistSync.Proofs.Calendar.Rendering
import BlocklistSync.Proofs.Text.Trim

/-! The forms of date and time, read where every field is written in its full width. Each reader
takes its field off the front and leaves what follows, so that a form is read field by field. -/
namespace BlocklistSync.Calendar.Timestamp
open BlocklistSync.Text BlocklistSync.Number
open Moment (padded)

/-- The reader takes this text off the front of whatever follows it. -/
def Takes {α : Type} (read : Reader α) (text : List Char) (a : α) : Prop :=
  ∀ rest, read (text ++ rest) = some (a, rest)

theorem Takes.bind {α β : Type} {read : Reader α} {text : List Char} {a : α} (h : Takes read text a)
    (rest : List Char) (next : α × List Char → Option β) :
    (read (text ++ rest)).bind next = next (a, rest) := by
  rw [h rest, Option.bind_some]

theorem literal_bind {β : Type} (c : Char) (rest : List Char) (next : Unit × List Char → Option β) :
    (literal c (c :: rest)).bind next = next ((), rest) := by
  rw [literal, if_pos rfl, Option.bind_some]

theorem naturalOfDigits_eq (cs : List Char) : naturalOfDigits cs = Nat.ofDigitChars 10 cs 0 := by
  unfold naturalOfDigits Nat.ofDigitChars
  congr 1
  funext n c
  rw [Nat.mul_comm]
  rfl

section Fields
variable {width n : ℕ}

theorem naturalOfDigits_padded (width n : ℕ) : naturalOfDigits (padded width n).toList = n := by
  rw [naturalOfDigits_eq, Moment.ofDigitChars_padded]

theorem padded_ne_nil (width n : ℕ) : (padded width n).toList ≠ [] := by
  rw [Moment.toList_padded]
  exact List.append_ne_nil_of_right_ne_nil _ Nat.toDigits_ne_nil

theorem takes_exactDigits (h : (padded width n).toList.length = width) :
    Takes (exactDigits width) (padded width n).toList n := by
  intro rest
  have hdigits : (padded width n).toList.all isDigit :=
    List.all_eq_true.mpr fun _ => Moment.isDigit_of_mem_padded
  simp only [exactDigits, List.take_left' h, List.drop_left' h, h, hdigits, naturalOfDigits_padded]
  rfl

theorem takes_someDigits (h : (padded width n).toList.length = width) :
    Takes (someDigits width) (padded width n).toList n := by
  intro rest
  have hall : (padded width n).toList.takeWhile isDigit = (padded width n).toList :=
    List.takeWhile_eq_self_iff.mpr fun _ => Moment.isDigit_of_mem_padded
  have hne : (padded width n).toList.isEmpty = false :=
    List.isEmpty_eq_false_iff.mpr (padded_ne_nil width n)
  simp only [someDigits, List.take_left' h, hall, hne, naturalOfDigits_padded, List.drop_left]
  rfl

theorem exists_cons_padded (width n : ℕ) (rest : List Char) :
    ∃ c cs, (padded width n).toList ++ rest = c :: cs ∧ isDigit c := by
  obtain ⟨c, cs, hcs⟩ := List.exists_cons_of_ne_nil (padded_ne_nil width n)
  exact ⟨c, cs ++ rest, by rw [hcs, List.cons_append],
    Moment.isDigit_of_mem_padded (hcs ▸ List.mem_cons_self ..)⟩

theorem skipBlanks_padded (width n : ℕ) (rest : List Char) :
    skipBlanks ((padded width n).toList ++ rest) = (padded width n).toList ++ rest := by
  obtain ⟨c, cs, hcs, hc⟩ := exists_cons_padded width n rest
  rw [hcs, skipBlanks, List.dropWhile_cons_of_neg (Bool.eq_false_iff.mp (isBlank_of_isDigit hc))]

theorem takes_laxField (h : (padded 2 n).toList.length = 2) :
    Takes laxField (padded 2 n).toList n := by
  intro rest
  rw [laxField, skipBlanks_padded, takes_someDigits h]

/-- A year that starts with a digit has no sign. -/
theorem takes_laxYear (h : (padded 4 n).toList.length = 4) :
    Takes laxYear (padded 4 n).toList (n : ℤ) := by
  intro rest
  have hread := takes_someDigits h rest
  obtain ⟨c, cs, hcs, hc⟩ := exists_cons_padded 4 n rest
  rw [laxYear, skipBlanks_padded]
  rw [hcs] at hread ⊢
  split
  · next heq =>
    obtain rfl := (List.cons.inj heq).1
    exact absurd hc (by decide)
  · next heq =>
    obtain rfl := (List.cons.inj heq).1
    exact absurd hc (by decide)
  · rw [hread]
    rfl

end Fields

/-- The digits of a fraction after the point; without digits there is no point. -/
def fractionText : List Char → List Char
  | [] => []
  | digits => '.' :: digits

/-- The fraction in nanoseconds, zeros taking the places up to the ninth. -/
def fractionNanos (digits : List Char) : ℕ :=
  Nat.ofDigitChars 10 (digits ++ List.replicate (9 - digits.length) '0') 0

/-- At most nine digits, which is as far as moments go. -/
structure IsFraction (digits : List Char) : Prop where
  isDigit : ∀ c ∈ digits, isDigit c
  length_le : digits.length ≤ 9

theorem takeWhile_isDigit_append {digits rest : List Char} (hd : ∀ c ∈ digits, isDigit c)
    (hrest : ∀ c ∈ rest.head?, isDigit c = false) :
    (digits ++ rest).takeWhile isDigit = digits ∧ (digits ++ rest).dropWhile isDigit = rest := by
  rw [List.takeWhile_append_of_pos hd, List.dropWhile_append_of_pos hd]
  cases rest with
  | nil => exact ⟨List.append_nil _, rfl⟩
  | cons c rest =>
    have hc := Bool.eq_false_iff.mp (hrest c rfl)
    rw [List.takeWhile_cons_of_neg hc, List.dropWhile_cons_of_neg hc, List.append_nil]
    exact ⟨rfl, rfl⟩

/-- The reader of fractions would go on over digits, and over a point where none has been read. -/
def EndsFraction (rest : List Char) : Prop := ∀ c ∈ rest.head?, isDigit c = false ∧ c ≠ '.'

theorem endsFraction_nil : EndsFraction [] := fun _ hc => absurd hc (Option.not_mem_none _)

theorem fraction_fractionText {digits rest : List Char} (hd : IsFraction digits)
    (hrest : EndsFraction rest) :
    fraction (fractionText digits ++ rest) = some (fractionNanos digits, rest) := by
  cases digits with
  | nil =>
    change fraction rest = some (0, rest)
    unfold fraction
    split
    · exact absurd rfl (hrest '.' rfl).2
    · rfl
  | cons d ds =>
    obtain ⟨htake, hdrop⟩ := takeWhile_isDigit_append hd.isDigit fun c hc => (hrest c hc).1
    change fraction ('.' :: (d :: ds ++ rest)) = _
    simp only [fraction, htake, hdrop, List.take_of_length_le hd.length_le, naturalOfDigits_eq,
      fractionNanos, Nat.ofDigitChars_append, Nat.ofDigitChars_replicate_zero]
    rw [Nat.mul_comm]
    rfl

section Forms
variable {year month day hour minute second fractional rest : List Char} {y mo d h mi s nanos : ℕ}

theorem zoned?_of_takes {mark : Char} (hmark : mark ∈ ['T', 't', ' '])
    (hyear : Takes (exactDigits 4) year y) (hmonth : Takes (exactDigits 2) month mo)
    (hday : Takes (exactDigits 2) day d) (hhour : Takes (exactDigits 2) hour h)
    (hminute : Takes (exactDigits 2) minute mi) (hsecond : Takes (exactDigits 2) second s)
    (hfraction : fraction (fractional ++ rest) = some (nanos, rest)) :
    zoned? (year ++ '-' :: (month ++ '-' :: (day ++ mark :: (hour ++ ':' :: (minute ++ ':' ::
      (second ++ (fractional ++ rest))))))) =
      (zone rest).bind fun (ahead, cs) =>
        if cs.isEmpty then (moment? ⟨y, mo, d⟩ ⟨h, mi, s, nanos⟩).map fun m => m.addSeconds
          (-ahead) else none := by
  have hknown : (mark = 'T' || mark = 't' || mark = ' ') = true := by simpa [or_assoc] using hmark
  unfold zoned?
  simp only [↓Option.bind_eq_bind, ↓hyear.bind, ↓hmonth.bind, ↓hday.bind, ↓hhour.bind,
    ↓hminute.bind, ↓hsecond.bind, ↓literal_bind, hknown, if_true, hfraction, Option.bind_some]
  congr 1
  funext ⟨ahead, cs⟩
  cases cs.isEmpty <;> cases moment? ⟨y, mo, d⟩ ⟨h, mi, s, nanos⟩ <;> rfl

def Separator.mark : Separator → Char
  | .blank => ' '
  | .letter => 'T'

theorem Separator.skip_mark (separator : Separator) (width n : ℕ) (rest : List Char) :
    separator.skip (separator.mark :: ((padded width n).toList ++ rest)) =
      some ((), (padded width n).toList ++ rest) := by
  cases separator with
  | blank =>
    have hskip : skipBlanks (' ' :: ((padded width n).toList ++ rest)) =
        skipBlanks ((padded width n).toList ++ rest) :=
      List.dropWhile_cons_of_pos (by decide)
    rw [mark, skip, hskip, skipBlanks_padded]
  | letter => rw [mark, skip, literal, if_pos rfl]

theorem plain?_of_takes (separator : Separator) (hyear : Takes laxYear year y)
    (hmonth : Takes laxField month mo) (hday : Takes laxField day d)
    (hhour : Takes laxField (padded 2 h).toList h) (hminute : Takes laxField minute mi)
    (hsecond : Takes laxField second s) (hfraction : fraction fractional = some (nanos, [])) :
    plain? separator
      (year ++ '-' :: (month ++ '-' :: (day ++ separator.mark :: ((padded 2 h).toList ++ ':' ::
      (minute ++ ':' :: (second ++ fractional)))))) = moment? ⟨y, mo, d⟩ ⟨h, mi, s, nanos⟩ := by
  unfold plain?
  simp only [↓Option.bind_eq_bind, ↓hyear.bind, ↓hmonth.bind, ↓hday.bind, ↓hhour.bind,
    ↓hminute.bind, ↓hsecond.bind, ↓literal_bind, separator.skip_mark, hfraction, Option.bind_some]
  rfl

/-- Blanks may be missing where the form has some, but a letter is no blank and starts no field. -/
theorem plain?_blank_letter (hyear : Takes laxYear year (y : ℤ)) (hmonth : Takes laxField month mo)
    (hday : Takes laxField day d) (rest : List Char) :
    plain? .blank (year ++ '-' :: (month ++ '-' :: (day ++ 'T' :: rest))) = none := by
  have hskip : Separator.blank.skip ('T' :: rest) = some ((), 'T' :: rest) :=
    congrArg (fun cs => some ((), cs)) (List.dropWhile_cons_of_neg (by decide))
  have hletter : laxField ('T' :: rest) = none := by
    have hstay : skipBlanks ('T' :: rest) = 'T' :: rest := List.dropWhile_cons_of_neg (by decide)
    rw [laxField, hstay, someDigits]
    rfl
  unfold plain?
  simp only [↓Option.bind_eq_bind, ↓hyear.bind, ↓hmonth.bind, ↓hday.bind, ↓literal_bind, hskip,
    hletter, Option.bind_some, Option.bind_none]

end Forms

end BlocklistSync.Calendar.Timestamp
