import BlocklistSync.Text.Quoted
import Mathlib.Data.Nat.Notation

/-! A quoted value inside a message shows the value in full and where it ends, whatever the value
is: no two values are quoted alike, and none is quoted as the beginning of another. -/
namespace BlocklistSync.Text

namespace Quoted

theorem digitChar_injective : ∀ a < 16, ∀ b < 16, Nat.digitChar a = Nat.digitChar b → a = b := by
  decide

theorem hexDigits_eq (n : ℕ) :
    hexDigits n = if n < 16 then [Nat.digitChar n] else hexDigits
      (n / 16) ++ [Nat.digitChar (n % 16)] :=
  Nat.toDigits_eq_if (by decide)

theorem hexDigits_injective {m n : ℕ} (h : hexDigits m = hexDigits n) : m = n := by
  induction m using Nat.strongRecOn generalizing n with
  | _ m ih =>
    have hlong (k : ℕ) (x y : Char) : hexDigits k ++ [x] ≠ [] ++ [y] := fun heq =>
      Nat.toDigits_ne_nil (List.append_inj_left' heq rfl)
    rw [hexDigits_eq m, hexDigits_eq n] at h
    split at h
    · split at h
      · exact digitChar_injective m ‹_› n ‹_› (List.singleton_inj.mp h)
      · exact (hlong _ _ _ h.symm).elim
    · split at h
      · exact (hlong _ _ _ h).elim
      · have hhigh := ih (m / 16) (by omega) (List.append_inj_left' h rfl)
        have hlow := digitChar_injective (m % 16) (Nat.mod_lt _ (by decide)) (n % 16)
          (Nat.mod_lt _ (by decide))
          (List.singleton_inj.mp (List.append_inj_right' h rfl))
        omega

theorem brace_notMem_hexDigits (n : ℕ) : '\x7d' ∉ hexDigits n := by
  induction n using Nat.strongRecOn with
  | _ n ih =>
    have hdigit (k : ℕ) : '\x7d' ≠ Nat.digitChar k := (Nat.digitChar_ne '\x7d' (by decide)).symm
    rw [hexDigits_eq]
    split
    · exact mt List.mem_singleton.mp (hdigit n)
    · have hrest := ih (n / 16) (by omega)
      simp [hrest, hdigit]

/-- What ends at the first mark is known from a text that goes on. -/
theorem append_mark_inj {x : Char} {a b rest rest' : List Char} (ha : x ∉ a) (hb : x ∉ b)
    (h : a ++ x :: rest = b ++ x :: rest') : a = b ∧ rest = rest' := by
  rcases List.append_eq_append_iff.mp h with ⟨between, rfl, hrest⟩ | ⟨between, rfl, hrest⟩
  · cases between with
    | nil => exact ⟨(List.append_nil a).symm, (List.cons.inj hrest).2⟩
    | cons y between =>
      obtain rfl := (List.cons.inj hrest).1
      simp at hb
  · cases between with
    | nil => exact ⟨List.append_nil b, (List.cons.inj hrest).2.symm⟩
    | cons y between =>
      obtain rfl := (List.cons.inj hrest).1
      simp at ha

def letters : List (Char × Char) :=
  [('\x00', '0'), ('\t', 't'), ('\r', 'r'), ('\n', 'n'), ('"', '"'), ('\\', '\\')]

/-- A character stands for itself, or there is a backslash with a letter or with the number of the
character. -/
inductive Form (c : Char) : List Char → Prop
  | plain (hquote : c ≠ '"') (hslash : c ≠ '\\') : Form c [c]
  | letter {l : Char} (h : (c, l) ∈ letters) : Form c ['\\', l]
  | number : Form c ('\\' :: 'u' :: '\x7b' :: (hexDigits c.toNat ++ ['\x7d']))

theorem form_escape (c : Char) : Form c (escape c) := by
  unfold escape
  split
  · next h => subst h; exact .letter (by decide)
  split
  · next h => subst h; exact .letter (by decide)
  split
  · next h => subst h; exact .letter (by decide)
  split
  · next h => subst h; exact .letter (by decide)
  split
  · next h =>
    simp only [Bool.or_eq_true, decide_eq_true_eq] at h
    rcases h with rfl | rfl <;> exact .letter (by decide)
  · next h =>
    simp only [Bool.or_eq_true, decide_eq_true_eq, not_or] at h
    split
    · exact .plain h.1 h.2
    · exact .number

theorem ne_u_of_letter {c l : Char} (h : (c, l) ∈ letters) : l ≠ 'u' := by
  have hall : ∀ p ∈ letters, p.2 ≠ 'u' := by decide
  exact hall _ h

theorem eq_of_letter {c d l : Char} (hc : (c, l) ∈ letters) (hd : (d, l) ∈ letters) : c = d := by
  have hall : ∀ p ∈ letters, ∀ q ∈ letters, p.2 = q.2 → p.1 = q.1 := by decide
  exact hall _ hc _ hd rfl

theorem form_append_inj {c d : Char} {cs ds rest rest' : List Char} (hc : Form c cs)
    (hd : Form d ds) (h : cs ++ rest = ds ++ rest') : c = d ∧ rest = rest' := by
  cases hc with
  | plain hquote hslash =>
    cases hd with
    | plain => exact List.cons.inj h
    | letter | number => exact absurd (List.cons.inj h).1 hslash
  | letter hl =>
    cases hd with
    | plain _ hslash => exact absurd (List.cons.inj h).1.symm hslash
    | letter hl' =>
      obtain ⟨rfl, hrest⟩ := List.cons.inj (List.cons.inj h).2
      exact ⟨eq_of_letter hl hl', hrest⟩
    | number => exact absurd (List.cons.inj (List.cons.inj h).2).1 (ne_u_of_letter hl)
  | number =>
    cases hd with
    | plain _ hslash => exact absurd (List.cons.inj h).1.symm hslash
    | letter hl => exact absurd (List.cons.inj (List.cons.inj h).2).1.symm (ne_u_of_letter hl)
    | number =>
      simp only [List.cons_append, List.append_assoc, List.nil_append, List.cons.injEq,
        true_and] at h
      obtain ⟨hdigits, hrest⟩ := append_mark_inj (brace_notMem_hexDigits _)
        (brace_notMem_hexDigits _) h
      exact ⟨Char.toNat_inj.mp (hexDigits_injective hdigits), hrest⟩

theorem Form.append_ne_quote {c : Char} {cs rest rest' : List Char} (h : Form c cs) :
    cs ++ rest ≠ '"' :: rest' := by
  intro heq
  cases h with
  | plain hquote => exact hquote (List.cons.inj heq).1
  | letter | number => exact absurd (List.cons.inj heq).1 (by decide)

theorem flatMap_escape_inj {cs ds rest rest' : List Char}
    (h : cs.flatMap escape ++ '"' :: rest = ds.flatMap escape ++ '"' :: rest') :
    cs = ds ∧ rest = rest' := by
  induction cs generalizing ds with
  | nil =>
    cases ds with
    | nil => exact ⟨rfl, (List.cons.inj h).2⟩
    | cons d ds =>
      rw [List.flatMap_cons, List.append_assoc] at h
      exact absurd h.symm (form_escape d).append_ne_quote
  | cons c cs ih =>
    rw [List.flatMap_cons, List.append_assoc] at h
    cases ds with
    | nil => exact absurd h (form_escape c).append_ne_quote
    | cons d ds =>
      rw [List.flatMap_cons, List.append_assoc] at h
      obtain ⟨rfl, hrest⟩ := form_append_inj (form_escape c) (form_escape d) h
      obtain ⟨rfl, hlast⟩ := ih hrest
      exact ⟨rfl, hlast⟩

end Quoted

theorem quoted_append_inj {s s' rest rest' : String} (h : quoted s ++ rest = quoted s' ++ rest') :
    s = s' ∧ rest = rest' := by
  have hlist := congrArg String.toList h
  simp only [quoted, Quoted.encode, String.toList_append, String.toList_ofList, List.cons_append,
    List.append_assoc, List.nil_append, List.cons.injEq, true_and] at hlist
  obtain ⟨hs, hrest⟩ := Quoted.flatMap_escape_inj hlist
  exact ⟨String.toList_inj.mp hs, String.toList_inj.mp hrest⟩

end BlocklistSync.Text
