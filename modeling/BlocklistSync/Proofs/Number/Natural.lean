import BlocklistSync.Number.Natural
import BlocklistSync.Proofs.Text.Trim
import Mathlib.Data.Nat.Notation

/-! Natural numbers in decimal digits, read back from their text with whatever white space stands
around it. -/
namespace BlocklistSync

namespace Number

theorem toList_toString (n : ℕ) : (toString n).toList = Nat.toDigits 10 n := Nat.toList_repr

theorem ofDigitChars_toString (n : ℕ) : Nat.ofDigitChars 10 (toString n).toList 0 = n := by
  rw [toList_toString, Nat.ofDigitChars_ten_toDigits]

theorem toString_injective {m n : ℕ} (h : toString m = toString n) : m = n := by
  rw [← ofDigitChars_toString m, h, ofDigitChars_toString]

theorem isDigit_of_mem_toString {n : ℕ} {c : Char} (h : c ∈ (toString n).toList) :
    Text.isDigit c := by
  rw [toList_toString] at h
  exact Nat.isDigit_of_mem_toDigits (by decide) (by decide) h

theorem isTrimmed_of_forall_isDigit {cs : List Char} (h : ∀ c ∈ cs, Text.isDigit c) :
    Text.IsTrimmed cs :=
  Text.isTrimmed_of_forall fun c hc => Text.isBlank_of_isDigit (h c hc)

theorem isTrimmed_toString (n : ℕ) : Text.IsTrimmed (toString n).toList :=
  isTrimmed_of_forall_isDigit fun _ => isDigit_of_mem_toString

theorem trim_toString (n : ℕ) : Text.trim (toString n ++ "\n") = toString n := by
  have hblank : ∀ c ∈ ['\n'], Text.isBlank c := by
    intro c hc
    rw [List.mem_singleton.mp hc]
    rfl
  have htrim : Text.trimChars ([] ++ (toString n).toList ++ ['\n']) = (toString n).toList :=
    Text.trimChars_append (isTrimmed_toString n) (by simp) hblank
  rw [List.nil_append] at htrim
  rw [Text.trim, String.toList_append]
  exact (congrArg String.ofList htrim).trans (String.ofList_toList ..)

theorem le_ofDigitChars (value : ℕ) (cs : List Char) : value ≤ Nat.ofDigitChars 10 cs value := by
  induction cs generalizing value with
  | nil => exact Nat.le_refl _
  | cons c cs ih =>
    rw [Nat.ofDigitChars_cons]
    exact Nat.le_trans (by omega) (ih _)

theorem digitsUpTo_eq {ceiling value : ℕ} {cs : List Char} (hd : ∀ c ∈ cs, Text.isDigit c)
    (h : Nat.ofDigitChars 10 cs value ≤ ceiling) :
    digitsUpTo ceiling value cs = .ok (Nat.ofDigitChars 10 cs value) := by
  induction cs generalizing value with
  | nil => rfl
  | cons c cs ih =>
    rw [Nat.ofDigitChars_cons] at h ⊢
    rw [Nat.mul_comm] at h ⊢
    have hnext : value * 10 + Text.digitValue c ≤ ceiling := Nat.le_trans (le_ofDigitChars _ cs) h
    rw [digitsUpTo, hd c (List.mem_cons_self ..)]
    simp only [Bool.not_true, Bool.false_eq_true, if_false, if_neg (Nat.not_lt.mpr hnext)]
    exact ih (fun x hx => hd x (List.mem_cons_of_mem _ hx)) h

theorem eq_ofDigitChars_of_digitsUpTo {ceiling value n : ℕ} {cs : List Char}
    (h : digitsUpTo ceiling value cs = .ok n) :
    (∀ c ∈ cs, Text.isDigit c) ∧ n = Nat.ofDigitChars 10 cs value := by
  induction cs generalizing value with
  | nil => exact ⟨by simp, (Except.ok.inj h).symm⟩
  | cons c cs ih =>
    simp only [digitsUpTo] at h
    split at h
    · cases h
    · next hdigit =>
      split at h
      · cases h
      · obtain ⟨hrest, hn⟩ := ih h
        rw [Nat.ofDigitChars_cons, Nat.mul_comm]
        exact ⟨List.forall_mem_cons.mpr ⟨by simpa using hdigit, hrest⟩, hn⟩

/-- Digits of the number, at least one, with a plus sign in front or without. -/
def IsNumeral (cs : List Char) (n : ℕ) : Prop :=
  ∃ digits, (cs = digits ∨ cs = '+' :: digits) ∧ digits ≠ [] ∧ (∀ c ∈ digits, Text.isDigit c) ∧
    Nat.ofDigitChars 10 digits 0 = n

theorem readNatural_eq_ok_iff {ceiling n : ℕ} {s : String} :
    readNatural ceiling s = .ok n ↔ IsNumeral s.toList n ∧ n ≤ ceiling := by
  constructor
  · intro h
    refine ⟨?_, readNatural_le h⟩
    unfold readNatural at h
    split at h
    · cases h
    · cases h
    · next digits hne hs =>
      obtain ⟨hdigit, hn⟩ := eq_ofDigitChars_of_digitsUpTo h
      exact ⟨digits, .inr hs, by rintro rfl; exact hne rfl, hdigit, hn.symm⟩
    · next hnil _ _ =>
      obtain ⟨hdigit, hn⟩ := eq_ofDigitChars_of_digitsUpTo h
      exact ⟨_, .inl rfl, hnil, hdigit, hn.symm⟩
  · rintro ⟨⟨digits, hs, hne, hdigit, rfl⟩, hle⟩
    have hread := digitsUpTo_eq hdigit hle
    obtain ⟨c, rest, rfl⟩ := List.exists_cons_of_ne_nil hne
    rcases hs with hs | hs
    · have hplus : c ≠ '+' := by
        rintro rfl
        exact absurd (hdigit '+' (List.mem_cons_self ..)) (by decide)
      simp only [readNatural, hs]
      split
      · next h => cases h
      · next h => exact absurd (List.cons.inj h).1 hplus
      · next h => exact absurd (List.cons.inj h).1 hplus
      · exact hread
    · simp only [readNatural, hs]
      exact hread

theorem readNatural_toString {ceiling n : ℕ} (h : n ≤ ceiling) :
    readNatural ceiling (toString n) = .ok n :=
  readNatural_eq_ok_iff.mpr ⟨⟨_, .inl rfl, by rw [toList_toString]; exact Nat.toDigits_ne_nil,
    fun _ => isDigit_of_mem_toString, ofDigitChars_toString n⟩, h⟩

end Number
end BlocklistSync
