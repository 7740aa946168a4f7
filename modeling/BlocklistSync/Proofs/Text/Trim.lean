import BlocklistSync.Text.Classes
import Mathlib.Data.List.DropRight

/-! White space at the two ends of a text. Trimming takes away all of it, and nothing else. -/
namespace BlocklistSync.Text

theorem isBlank_of_isDigit {c : Char} (h : isDigit c) : isBlank c = false := by
  have hbounds : 48 ≤ c.toNat ∧ c.toNat ≤ 57 := by
    simpa [isDigit, Char.le_def, UInt32.le_iff_toNat_le] using h
  simp only [isBlank, inRanges, List.any_cons, List.any_nil]
  simp
  omega

def IsTrimmed (cs : List Char) : Prop :=
  (∀ c ∈ cs.head?, isBlank c = false) ∧ ∀ c ∈ cs.getLast?, isBlank c = false

theorem isTrimmed_of_forall {cs : List Char} (h : ∀ c ∈ cs, isBlank c = false) : IsTrimmed cs :=
  ⟨fun c hc => h c (List.mem_of_mem_head? hc), fun c hc => h c (List.mem_of_getLast? hc)⟩

theorem IsTrimmed.append {front back : List Char} (hfront : IsTrimmed front)
    (hback : IsTrimmed back) (hfront0 : front ≠ []) (hback0 : back ≠ []) (inside : List Char) :
    IsTrimmed (front ++ (inside ++ back)) := by
  obtain ⟨c, cs, rfl⟩ := List.exists_cons_of_ne_nil hfront0
  refine ⟨fun x hx => hfront.1 x hx, fun x hx => hback.2 x ?_⟩
  rwa [← List.append_assoc, List.getLast?_append_of_ne_nil _ hback0] at hx

theorem dropWhile_isBlank_append {blanks cs : List Char} (hb : ∀ c ∈ blanks, isBlank c)
    (hc : ∀ c ∈ cs.head?, isBlank c = false) : (blanks ++ cs).dropWhile isBlank = cs := by
  rw [List.dropWhile_append_of_pos hb]
  cases cs with
  | nil => rfl
  | cons c cs => exact List.dropWhile_cons_of_neg (Bool.eq_false_iff.mp (hc c rfl))

theorem trimChars_append {before cs after : List Char} (hcs : IsTrimmed cs)
    (hbefore : ∀ c ∈ before, isBlank c) (hafter : ∀ c ∈ after, isBlank c) :
    trimChars (before ++ cs ++ after) = cs := by
  have hblanks : ∀ c ∈ after.reverse, isBlank c := fun c hc => hafter c (List.mem_reverse.mp hc)
  rw [trimChars, List.append_assoc, List.dropWhile_append_of_pos hbefore]
  cases cs with
  | nil =>
    have hall : (after ++ []).dropWhile isBlank = [] := dropWhile_isBlank_append hafter (by simp)
    rw [List.append_nil] at hall
    rw [List.nil_append, hall]
    rfl
  | cons c cs =>
    have hfront : (c :: cs ++ after).dropWhile isBlank = c :: cs ++ after :=
      List.dropWhile_cons_of_neg (Bool.eq_false_iff.mp (hcs.1 c rfl))
    have hback : (after.reverse ++ (c :: cs).reverse).dropWhile isBlank = (c :: cs).reverse :=
      dropWhile_isBlank_append hblanks (by rw [List.head?_reverse]; exact hcs.2)
    rw [hfront, List.reverse_append, hback, List.reverse_reverse]

theorem exists_trimChars_append (cs : List Char) :
    ∃ before after, cs = before ++ trimChars cs ++ after ∧
    (∀ c ∈ before, isBlank c) ∧ ∀ c ∈ after, isBlank c := by
  refine ⟨cs.takeWhile isBlank, (cs.dropWhile isBlank).rtakeWhile isBlank, ?_,
    fun c => List.mem_takeWhile_imp, fun c => List.mem_rtakeWhile_imp⟩
  have hback : trimChars cs ++ (cs.dropWhile isBlank).rtakeWhile isBlank = cs.dropWhile isBlank :=
    List.rdropWhile_append_rtakeWhile
  rw [List.append_assoc, hback, List.takeWhile_append_dropWhile]

end BlocklistSync.Text
