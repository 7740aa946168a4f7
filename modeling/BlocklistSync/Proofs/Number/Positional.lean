import BlocklistSync.Number.Shortest
import Mathlib.Algebra.Order.Field.Rat
import Mathlib.Data.List.DropRight
import Mathlib.Tactic.FieldSimp
import Mathlib.Tactic.Ring

/-! Numbers in positional notation. What a text of digits is worth does not change with the zeros at
its two ends, so the text of a count and a place is worth the count times the power of ten. -/
namespace BlocklistSync.Number

def worth (cs : List Char) : ℚ :=
  let fraction := (cs.dropWhile (· ≠ '.')).drop 1
  Nat.ofDigitChars 10 (cs.takeWhile (· ≠ '.') ++ fraction) 0 / 10 ^ fraction.length

theorem takeWhile_append_dropWhile_point {whole : List Char} (h : '.' ∉ whole) (rest : List Char) :
    (whole ++ rest).takeWhile (· ≠ '.') = whole ++ rest.takeWhile (· ≠ '.') ∧
      (whole ++ rest).dropWhile (· ≠ '.') = rest.dropWhile (· ≠ '.') := by
  have hwhole : ∀ c ∈ whole, decide (c ≠ '.') = true := fun c hc => by
    simpa using fun heq : c = '.' => h (heq ▸ hc)
  exact ⟨List.takeWhile_append_of_pos hwhole, List.dropWhile_append_of_pos hwhole⟩

theorem worth_point {whole : List Char} (h : '.' ∉ whole) (fraction : List Char) :
    worth (whole ++ '.' :: fraction) = Nat.ofDigitChars 10
      (whole ++ fraction) 0 / 10 ^ fraction.length := by
  obtain ⟨htake, hdrop⟩ := takeWhile_append_dropWhile_point h ('.' :: fraction)
  rw [worth, htake, hdrop]
  simp

theorem worth_whole {whole : List Char} (h : '.' ∉ whole) :
    worth whole = Nat.ofDigitChars 10 whole 0 := by
  obtain ⟨htake, hdrop⟩ := takeWhile_append_dropWhile_point h []
  rw [List.append_nil] at htake hdrop
  rw [worth, htake, hdrop]
  simp

theorem worth_fraction {whole fraction : List Char} (h : '.' ∉ whole) :
    worth (if fraction.isEmpty then whole else whole ++ '.' :: fraction) =
      Nat.ofDigitChars 10 (whole ++ fraction) 0 / 10 ^ fraction.length := by
  cases fraction with
  | nil => simp [worth_whole h]
  | cons c fraction => exact worth_point h _

theorem ofDigitChars_append_zeros (cs : List Char) (k : ℕ) :
    Nat.ofDigitChars 10 (cs ++ List.replicate k '0') 0 = 10 ^ k * Nat.ofDigitChars 10 cs 0 := by
  rw [Nat.ofDigitChars_append, Nat.ofDigitChars_replicate_zero]

theorem exists_zeros_append (cs : List Char) :
    ∃ k, cs = (cs.reverse.dropWhile (· = '0')).reverse ++ List.replicate k '0' := by
  have hsplit : cs.rdropWhile (· = '0') ++ cs.rtakeWhile (· = '0') = cs :=
    List.rdropWhile_append_rtakeWhile
  have hzeros : cs.rtakeWhile (· = '0') = List.replicate (cs.rtakeWhile (· = '0')).length '0' :=
    List.eq_replicate_of_mem fun c hc => by simpa using List.mem_rtakeWhile_imp hc
  rw [hzeros] at hsplit
  exact ⟨_, hsplit.symm⟩

theorem isDigit_of_mem_toDigits {n : ℕ} {c : Char} (h : c ∈ Nat.toDigits 10 n) : Text.isDigit c :=
  Nat.isDigit_of_mem_toDigits (by decide) (by decide) h

theorem point_notMem {cs : List Char} (h : ∀ c ∈ cs, Text.isDigit c) : '.' ∉ cs :=
  fun hmem => absurd (h _ hmem) (by decide)

theorem toList_positional_of_nonneg (count : ℕ) {place : ℤ} (h : 0 ≤ place) :
    (positional count place).toList = Nat.toDigits 10 count ++ List.replicate place.toNat '0' := by
  rw [positional, if_pos h, String.toList_ofList]

/-- Digits in front of a point and behind it, the last of which is no zero. -/
structure Parts (count after : ℕ) (cs whole fraction : List Char) : Prop where
  text : cs = if fraction.isEmpty then whole else whole ++ '.' :: fraction
  digits : ∀ c ∈ whole, Text.isDigit c
  some : whole ≠ []
  count : ∃ k, after = fraction.length + k ∧
    count = 10 ^ k * Nat.ofDigitChars 10 (whole ++ fraction) 0

theorem exists_parts (count : ℕ) {place : ℤ} (h : ¬ 0 ≤ place) :
    ∃ whole fraction, Parts count (-place).toNat
      (positional count place).toList whole fraction := by
  rw [positional, if_neg h, String.toList_ofList]
  generalize (-place).toNat = after
  have hlength : after + 1 ≤
      (List.replicate (after + 1 - (Nat.toDigits 10 count).length) '0' ++
          Nat.toDigits 10 count).length := by
    rw [List.length_append, List.length_replicate]
    omega
  have hvalue : Nat.ofDigitChars 10
      (List.replicate (after + 1 - (Nat.toDigits 10 count).length) '0' ++ Nat.toDigits 10 count) 0 =
          count := by
    rw [Nat.ofDigitChars_append, Nat.ofDigitChars_replicate_zero, Nat.mul_zero,
      Nat.ofDigitChars_ten_toDigits]
  have hdigits : ∀ c ∈ List.replicate (after + 1 - (Nat.toDigits 10 count).length) '0' ++
    Nat.toDigits 10 count,
      Text.isDigit c := by
    intro c hc
    rcases List.mem_append.mp hc with hc | hc
    · rw [List.eq_of_mem_replicate hc]
      decide
    · exact isDigit_of_mem_toDigits hc
  generalize List.replicate (after + 1 - (Nat.toDigits 10 count).length) '0' ++
    Nat.toDigits 10 count = padded at *
  obtain ⟨k, hk⟩ := exists_zeros_append (padded.drop (padded.length - after))
  refine ⟨padded.take (padded.length - after), _, rfl,
    fun c hc => hdigits c (List.mem_of_mem_take hc), ?_, k, ?_, ?_⟩
  · intro hnil
    have hzero := congrArg List.length hnil
    rw [List.length_take, List.length_nil] at hzero
    omega
  · have hafter := congrArg List.length hk
    rw [List.length_drop, List.length_append, List.length_replicate] at hafter
    omega
  · rw [← ofDigitChars_append_zeros, List.append_assoc, ← hk, List.take_append_drop, hvalue]

theorem worth_positional (count : ℕ) (place : ℤ) :
    worth (positional count place).toList = count * 10 ^ place := by
  by_cases h : 0 ≤ place
  · have hdigits : ∀ c ∈ Nat.toDigits 10 count ++ List.replicate place.toNat '0',
        Text.isDigit c := by
      intro c hc
      rcases List.mem_append.mp hc with hc | hc
      · exact isDigit_of_mem_toDigits hc
      · rw [List.eq_of_mem_replicate hc]
        decide
    rw [toList_positional_of_nonneg count h, worth_whole (point_notMem hdigits),
      ofDigitChars_append_zeros, Nat.ofDigitChars_ten_toDigits]
    conv_rhs => rw [← Int.toNat_of_nonneg h, zpow_natCast]
    push_cast
    ring
  · obtain ⟨whole, fraction, hparts⟩ := exists_parts count h
    obtain ⟨k, hafter, hcount⟩ := hparts.count
    rw [hparts.text, worth_fraction (point_notMem hparts.digits), hcount]
    have hplace : place = -((fraction.length + k : ℕ) : ℤ) := by omega
    rw [hplace, zpow_neg, zpow_natCast, pow_add]
    push_cast
    field_simp

theorem exists_cons_positional (count : ℕ) (place : ℤ) :
    ∃ c rest, (positional count place).toList = c :: rest ∧ Text.isDigit c := by
  by_cases h : 0 ≤ place
  · obtain ⟨c, rest, hdigits⟩ := List.exists_cons_of_ne_nil
      (Nat.toDigits_ne_nil (n := count) (b := 10))
    have hmem : c ∈ Nat.toDigits 10 count := hdigits ▸ List.mem_cons_self
    rw [toList_positional_of_nonneg count h, hdigits]
    exact ⟨c, _, rfl, isDigit_of_mem_toDigits hmem⟩
  · obtain ⟨whole, fraction, hparts⟩ := exists_parts count h
    obtain ⟨c, rest, rfl⟩ := List.exists_cons_of_ne_nil hparts.some
    rw [hparts.text]
    split
    · exact ⟨c, rest, rfl, hparts.digits c List.mem_cons_self⟩
    · exact ⟨c, _, rfl, hparts.digits c List.mem_cons_self⟩

end BlocklistSync.Number
