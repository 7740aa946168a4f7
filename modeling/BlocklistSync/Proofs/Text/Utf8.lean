import BlocklistSync.Text.Utf8
import Mathlib.Data.Nat.Notation

/-! Text that was encoded falls apart into its characters again, so that lenient reading gives it
back as it was. -/
namespace BlocklistSync.Text.Utf8

theorem follow?_one : ∀ n < 128, follow? (UInt8.ofNat n) = some (0, 0, 0) := by decide

theorem follow?_two :
    ∀ n < 32, 2 ≤ n → follow? (UInt8.ofNat (n + 0xC0)) = some (1, 0x80, 0xBF) := by decide

/-- The bounds leave out characters that have a shorter form, and surrogates. -/
theorem follow?_three {n x : ℕ} (hn : n < 16) (hx : x < 64) (hshort : n = 0 → 32 ≤ x)
    (hsurrogate : n = 13 → x < 32) :
    ∃ lo hi, follow? (UInt8.ofNat (n + 0xE0)) = some (2, lo, hi) ∧ lo.toNat ≤ x + 0x80 ∧
      x + 0x80 ≤ hi.toNat := by
  have hother : ∀ n < 16, n ≠ 0 ∧ n ≠ 13 →
      follow? (UInt8.ofNat (n + 0xE0)) = some (2, 0x80, 0xBF) := by decide
  rcases Decidable.em (n = 0) with rfl | h0
  · exact ⟨0xA0, 0xBF, by decide, Nat.add_le_add_right (hshort rfl) 0x80, by change _ ≤ 191; omega⟩
  rcases Decidable.em (n = 13) with rfl | h13
  · exact ⟨0x80, 0x9F, by decide, Nat.le_add_left ..,
      by have := hsurrogate rfl; change _ ≤ 159; omega⟩
  · exact ⟨0x80, 0xBF, hother n hn ⟨h0, h13⟩, Nat.le_add_left .., by change _ ≤ 191; omega⟩

/-- The bounds leave out characters that have a shorter form, and what is beyond the last
character. -/
theorem follow?_four {n x : ℕ} (hn : n < 5) (hx : x < 64) (hshort : n = 0 → 16 ≤ x)
    (hlast : n = 4 → x < 16) :
    ∃ lo hi, follow? (UInt8.ofNat (n + 0xF0)) = some (3, lo, hi) ∧ lo.toNat ≤ x + 0x80 ∧
      x + 0x80 ≤ hi.toNat := by
  have hother : ∀ n < 4, n ≠ 0 → follow? (UInt8.ofNat (n + 0xF0)) = some (3, 0x80, 0xBF) := by
    decide
  rcases Decidable.em (n = 0) with rfl | h0
  · exact ⟨0x90, 0xBF, by decide, Nat.add_le_add_right (hshort rfl) 0x80, by change _ ≤ 191; omega⟩
  rcases Decidable.em (n = 4) with rfl | h4
  · exact ⟨0x80, 0x8F, by decide, Nat.le_add_left .., by have := hlast rfl; change _ ≤ 143; omega⟩
  · exact ⟨0x80, 0xBF, hother n (by omega) h0, Nat.le_add_left .., by change _ ≤ 191; omega⟩

theorem toNat_ofNat {n : ℕ} (hn : n < 256) : (UInt8.ofNat n).toNat = n :=
  UInt8.toNat_ofNat_of_lt' hn

theorem continuation_cons {n x : ℕ} {lo hi : UInt8} (hx : x < 64) (hlo : lo.toNat ≤ x + 0x80)
    (hhi : x + 0x80 ≤ hi.toNat) (rest : Bytes) :
    continuation (n + 1) lo hi (UInt8.ofNat (x + 0x80) :: rest) =
      UInt8.ofNat (x + 0x80) :: continuation n 0x80 0xBF rest := by
  rw [continuation, if_pos]
  simp only [Bool.and_eq_true, decide_eq_true_eq, UInt8.le_iff_toNat_le,
    toNat_ofNat (by omega : x + 0x80 < 256)]
  exact ⟨hlo, hhi⟩

theorem continuation_cons_wide {n x : ℕ} (hx : x < 64) (rest : Bytes) :
    continuation (n + 1) 0x80 0xBF (UInt8.ofNat (x + 0x80) :: rest) =
      UInt8.ofNat (x + 0x80) :: continuation n 0x80 0xBF rest :=
  continuation_cons hx (Nat.le_add_left ..) (by change _ ≤ 191; omega) rest

theorem foldl_tail {x : ℕ} (hx : x < 64) (bits : ℕ) (tail : Bytes) :
    (UInt8.ofNat (x + 0x80) :: tail).foldl (fun v b => v * 64 + b.toNat % 64) bits =
      tail.foldl (fun v b => v * 64 + b.toNat % 64) (bits * 64 + x) := by
  rw [List.foldl_cons, toNat_ofNat (by omega), show (x + 0x80) % 64 = x by omega]

theorem valid_char (c : Char) :
    c.val.toNat < 0xD800 ∨ (0xDFFF < c.val.toNat ∧ c.val.toNat < 0x110000) := c.valid

/-- A first byte and as many bytes after it as it asks for are one character. -/
theorem pieces_of_follow {c : Char} {b : UInt8} {n : ℕ} {lo hi : UInt8} {tail rest : Bytes}
    (hf : follow? b = some (n, lo, hi)) (hc : continuation n lo hi (tail ++ rest) = tail)
    (hn : tail.length = n) (hv : codePoint b tail = c.val.toNat) :
    pieces (b :: tail ++ rest) = .char c :: pieces rest := by
  have hfirst : firstPiece b (tail ++ rest) = (.char c, rest) := by
    rw [firstPiece, hf]
    simp only [hc, hn, if_pos, List.drop_left' hn, hv]
    rw [show Char.ofNat c.val.toNat = c from Char.ofNat_toNat c]
  rw [List.cons_append, pieces, hfirst]

theorem pieces_encodeChar (c : Char) (rest : Bytes) :
    pieces (String.utf8EncodeChar c ++ rest) = .char c :: pieces rest := by
  have hvalid := valid_char c
  unfold String.utf8EncodeChar
  dsimp only
  generalize hv : c.val.toNat = v at *
  have hx : v / 4096 % 64 < 64 := Nat.mod_lt _ (by decide)
  have hy : v / 64 % 64 < 64 := Nat.mod_lt _ (by decide)
  have hz : v % 64 < 64 := Nat.mod_lt _ (by decide)
  split
  · refine @pieces_of_follow c _ 0 _ _ [] rest (follow?_one v (by omega)) rfl rfl ?_
    rw [codePoint, List.foldl_nil, hv]
    exact toNat_ofNat (by omega)
  split
  · refine pieces_of_follow (follow?_two (v / 64 % 32) (by omega) (by omega)) ?_ rfl ?_
    · rw [List.cons_append, continuation_cons_wide hz, continuation]
      simp
    · rw [codePoint, foldl_tail hz, List.foldl_nil, hv]
      change (UInt8.ofNat (v / 64 % 32 + 0xC0)).toNat % 32 * 64 + v % 64 = v
      rw [toNat_ofNat (by omega)]
      omega
  split
  · obtain ⟨lo, hi, hfollow, hlo, hhi⟩ :=
      follow?_three (n := v / 4096 % 16) (x := v / 64 % 64) (by omega) hy
      (by omega) (by omega)
    refine pieces_of_follow hfollow ?_ rfl ?_
    · rw [List.cons_append, continuation_cons hy hlo hhi, List.cons_append,
        continuation_cons_wide hz, continuation]
      simp
    · rw [codePoint, foldl_tail hy, foldl_tail hz, List.foldl_nil, hv]
      change ((UInt8.ofNat (v / 4096 % 16 + 0xE0)).toNat % 16 * 64 + v / 64 % 64) * 64 + v % 64 = v
      rw [toNat_ofNat (by omega)]
      omega
  · obtain ⟨lo, hi, hfollow, hlo, hhi⟩ :=
      follow?_four (n := v / 262144 % 8) (x := v / 4096 % 64) (by omega) hx
      (by omega) (by omega)
    refine pieces_of_follow hfollow ?_ rfl ?_
    · rw [List.cons_append, continuation_cons hx hlo hhi, List.cons_append,
        continuation_cons_wide hy, List.cons_append, continuation_cons_wide hz, continuation]
      simp
    · rw [codePoint, foldl_tail hx, foldl_tail hy, foldl_tail hz, List.foldl_nil, hv]
      change (((UInt8.ofNat (v / 262144 % 8 + 0xF0)).toNat % 8 * 64 + v / 4096 % 64) * 64 +
        v / 64 % 64) * 64 + v % 64 = v
      rw [toNat_ofNat (by omega)]
      omega

theorem pieces_encode_append (s : String) (rest : Bytes) :
    pieces (encode s ++ rest) = s.toList.map .char ++ pieces rest := by
  unfold encode
  induction s.toList with
  | nil => rfl
  | cons c cs ih =>
    rw [List.flatMap_cons, List.append_assoc, pieces_encodeChar, ih, List.map_cons,
      List.cons_append]

theorem pieces_encode (s : String) : pieces (encode s) = s.toList.map .char := by
  simpa [pieces] using pieces_encode_append s []

theorem decodeLenient_encode (s : String) : decodeLenient (encode s) = s := by
  rw [decodeLenient, pieces_encode, List.map_map, show Piece.lenient ∘ Piece.char = id from rfl,
    List.map_id, String.ofList_toList]

theorem decodePieces_char (offset : ℕ) (cs : List Char) :
    decodePieces offset (cs.map .char) = .ok cs := by
  induction cs generalizing offset with
  | nil => rfl
  | cons c cs ih => rw [List.map_cons, decodePieces, ih, Except.map]

theorem decode?_encode (s : String) : decode? (encode s) = some s := by
  rw [decode?, decode, pieces_encode, decodePieces_char, Except.map, String.ofList_toList]
  rfl

end BlocklistSync.Text.Utf8
