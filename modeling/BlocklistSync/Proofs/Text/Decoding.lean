import BlocklistSync.Proofs.Text.Utf8
import Mathlib.Data.List.Basic

/-! Which byte sequences are text: strict reading takes the encodings of texts and nothing else, and
gives back the text that was encoded. The first byte of a character tells how many bytes follow and
how far the next of them may go, so that no character has a second, longer form. -/
namespace BlocklistSync.Text.Utf8

theorem val_ofNat {v : ℕ} (hv : v.isValidChar) : (Char.ofNat v).val.toNat = v := by
  rw [Char.ofNat, dif_pos hv]
  rfl

theorem ofNat_eq {n : ℕ} {b : UInt8} (h : n = b.toNat) : UInt8.ofNat n = b := h ▸ UInt8.ofNat_toNat

/-- What may stand after a first byte. -/
def IsTail (b : UInt8) : Prop := 0x80 ≤ b.toNat ∧ b.toNat ≤ 0xBF

theorem encodeChar_codePoint_one {b : UInt8} (hb : b.toNat < 0x80) :
    String.utf8EncodeChar (Char.ofNat (codePoint b [])) = [b] := by
  have hv : codePoint b [] = b.toNat := rfl
  have hval := val_ofNat (v := b.toNat) (.inl (by omega))
  rw [hv, String.utf8EncodeChar, hval, if_pos (by omega), UInt8.ofNat_toNat]

theorem encodeChar_codePoint_two {b x : UInt8} (hb : 0xC2 ≤ b.toNat ∧ b.toNat < 0xE0)
    (hx : IsTail x) :
    String.utf8EncodeChar (Char.ofNat (codePoint b [x])) = [b, x] := by
  unfold IsTail at hx
  have hv : codePoint b [x] = b.toNat % 32 * 64 + x.toNat % 64 := rfl
  generalize codePoint b [x] = v at hv
  have hval := val_ofNat (v := v) (.inl (by omega))
  rw [String.utf8EncodeChar, hval, if_neg (by omega), if_pos (by omega),
    ofNat_eq (b := b) (by omega),
    ofNat_eq (b := x) (by omega)]

theorem encodeChar_codePoint_three {b x y : UInt8} (hb : 0xE0 ≤ b.toNat ∧ b.toNat < 0xF0)
    (hx : IsTail x) (hy : IsTail y) (hshort : b.toNat = 0xE0 → 0xA0 ≤ x.toNat)
    (hsurrogate : b.toNat = 0xED → x.toNat ≤ 0x9F) :
    String.utf8EncodeChar (Char.ofNat (codePoint b [x, y])) = [b, x, y] := by
  unfold IsTail at hx hy
  have hv : codePoint b [x, y] = (b.toNat % 16 * 64 + x.toNat % 64) * 64 + y.toNat % 64 := rfl
  generalize codePoint b [x, y] = v at hv
  have hvalid : v.isValidChar := by
    by_cases h : v < 0xD800
    · exact .inl h
    · exact .inr (by omega)
  rw [String.utf8EncodeChar, val_ofNat hvalid, if_neg (by omega), if_neg (by omega),
    if_pos (by omega), ofNat_eq (b := b) (by omega), ofNat_eq (b := x) (by omega),
    ofNat_eq (b := y) (by omega)]

theorem encodeChar_codePoint_four {b x y z : UInt8} (hb : 0xF0 ≤ b.toNat ∧ b.toNat ≤ 0xF4)
    (hx : IsTail x) (hy : IsTail y) (hz : IsTail z) (hshort : b.toNat = 0xF0 → 0x90 ≤ x.toNat)
    (hlast : b.toNat = 0xF4 → x.toNat ≤ 0x8F) :
    String.utf8EncodeChar (Char.ofNat (codePoint b [x, y, z])) = [b, x, y, z] := by
  unfold IsTail at hx hy hz
  have hv : codePoint b [x, y, z] =
    ((b.toNat % 8 * 64 + x.toNat % 64) * 64 + y.toNat % 64) * 64 + z.toNat % 64 := rfl
  generalize codePoint b [x, y, z] = v at hv
  have hvalid : v.isValidChar := .inr (by omega)
  rw [String.utf8EncodeChar, val_ofNat hvalid, if_neg (by omega), if_neg (by omega),
    if_neg (by omega), ofNat_eq (b := b) (by omega), ofNat_eq (b := x) (by omega),
    ofNat_eq (b := y) (by omega),
    ofNat_eq (b := z) (by omega)]

theorem continuation_append_drop (n : ℕ) (lo hi : UInt8) (rest : Bytes) :
    continuation n lo hi rest ++ rest.drop (continuation n lo hi rest).length = rest := by
  fun_induction continuation n lo hi rest with
  | case1 n lo hi b rest _ ih => simpa using ih
  | case2 => rfl
  | case3 => rfl

theorem isTail_of_mem_continuation {n : ℕ} {rest : Bytes} :
    ∀ y ∈ continuation n 0x80 0xBF rest, IsTail y := by
  induction n generalizing rest with
  | zero => simp [continuation]
  | succ n ih =>
    cases rest with
    | nil => simp [continuation]
    | cons b rest =>
      rw [continuation]
      split
      · next h =>
        simp only [Bool.and_eq_true, decide_eq_true_eq, UInt8.le_iff_toNat_le] at h
        exact List.forall_mem_cons.mpr ⟨h, ih⟩
      · simp

theorem bounds_of_continuation {n : ℕ} {lo hi x : UInt8} {rest tail : Bytes}
    (h : continuation n lo hi rest = x :: tail) :
    lo.toNat ≤ x.toNat ∧ x.toNat ≤ hi.toNat ∧ ∀ y ∈ tail, IsTail y := by
  cases n with
  | zero => simp [continuation] at h
  | succ n =>
    cases rest with
    | nil => simp [continuation] at h
    | cons b rest =>
      rw [continuation] at h
      split at h
      · next hin =>
        obtain ⟨rfl, rfl⟩ := List.cons.inj h
        simp only [Bool.and_eq_true, decide_eq_true_eq, UInt8.le_iff_toNat_le] at hin
        exact ⟨hin.1, hin.2, isTail_of_mem_continuation⟩
      · cases h

/-- A first byte `b` with `n` bytes to come, the next of them from `lo` to `hi`. -/
def Leads (b n lo hi : ℕ) : Prop :=
  (n = 0 ∧ b < 0x80) ∨
  (0x80 ≤ lo ∧ hi ≤ 0xBF ∧
    ((n = 1 ∧ 0xC2 ≤ b ∧ b < 0xE0) ∨
      (n = 2 ∧ 0xE0 ≤ b ∧ b < 0xF0 ∧ (b = 0xE0 → 0xA0 ≤ lo) ∧ (b = 0xED → hi ≤ 0x9F)) ∨
      (n = 3 ∧ 0xF0 ≤ b ∧ b ≤ 0xF4 ∧ (b = 0xF0 → 0x90 ≤ lo) ∧ (b = 0xF4 → hi ≤ 0x8F))))

instance (b n lo hi : ℕ) : Decidable (Leads b n lo hi) := inferInstanceAs (Decidable (_ ∨ _))

theorem leads_of_follow? {b lo hi : UInt8} {n : ℕ} (h : follow? b = some (n, lo, hi)) :
    Leads b.toNat n lo.toNat hi.toNat := by
  have hall : ∀ k < 256, ∀ f ∈ follow? (UInt8.ofNat k), Leads k f.1 f.2.1.toNat f.2.2.toNat := by
    decide +kernel
  exact hall b.toNat b.toNat_lt _ (by rw [UInt8.ofNat_toNat]; exact h)

theorem firstPiece_eq_char {b : UInt8} {rest rest' : Bytes} {c : Char}
    (h : firstPiece b rest = (.char c, rest')) :
    b :: rest = String.utf8EncodeChar c ++ rest' := by
  rw [firstPiece] at h
  split at h
  · cases h
  next n lo hi hf =>
  dsimp only at h
  split at h
  · next hlength =>
    obtain ⟨hc, rfl⟩ := Prod.mk.inj h
    obtain rfl := Piece.char.inj hc
    have hrest := continuation_append_drop n lo hi rest
    rw [hlength] at hrest
    have hlead := leads_of_follow? hf
    have htail : String.utf8EncodeChar (Char.ofNat (codePoint b (continuation n lo hi rest))) =
        b :: continuation n lo hi rest := by
      generalize ht : continuation n lo hi rest = tail at hlength ⊢
      rcases hlead with ⟨rfl, hb⟩ | ⟨hlo, hhi, ⟨rfl, hb⟩ | ⟨rfl, hb, hb', hshort, hsurrogate⟩ |
        ⟨rfl, hb, hb', hshort, hlast⟩⟩
      · obtain rfl := List.length_eq_zero_iff.mp hlength
        exact encodeChar_codePoint_one hb
      · obtain ⟨x, rfl⟩ := List.length_eq_one_iff.mp hlength
        obtain ⟨hx, hx', -⟩ := bounds_of_continuation ht
        exact encodeChar_codePoint_two hb ⟨by omega, by omega⟩
      · obtain ⟨x, y, rfl⟩ := List.length_eq_two.mp hlength
        obtain ⟨hx, hx', hy⟩ := bounds_of_continuation ht
        exact encodeChar_codePoint_three ⟨hb, hb'⟩ ⟨by omega, by omega⟩ (hy y (by simp)) (by omega)
          (by omega)
      · obtain ⟨x, y, z, rfl⟩ := List.length_eq_three.mp hlength
        obtain ⟨hx, hx', hy⟩ := bounds_of_continuation ht
        exact encodeChar_codePoint_four ⟨hb, hb'⟩ ⟨by omega, by omega⟩ (hy y (by simp))
          (hy z (by simp)) (by omega)
          (by omega)
    rw [htail, List.cons_append, hrest]
  · cases h

theorem eq_flatMap_of_decodePieces {bytes : Bytes} {offset : ℕ} {cs : List Char}
    (h : decodePieces offset (pieces bytes) = .ok cs) :
    bytes = cs.flatMap String.utf8EncodeChar := by
  fun_induction pieces bytes generalizing offset cs with
  | case1 =>
    obtain rfl := Except.ok.inj h
    rfl
  | case2 b rest ih =>
    cases hfirst : firstPiece b rest with
    | mk piece rest' =>
      rw [hfirst] at h ih
      cases piece with
      | stray => cases h
      | char c =>
        rw [decodePieces] at h
        cases hrest : decodePieces (offset + c.utf8Size) (pieces rest') with
        | error e => rw [hrest] at h; cases h
        | ok cs' =>
          rw [hrest] at h
          obtain rfl := Except.ok.inj h
          rw [List.flatMap_cons, ← ih hrest]
          exact firstPiece_eq_char hfirst

/-- Strict reading takes the encodings of texts and nothing else. -/
theorem decode_eq_ok_iff {bytes : Bytes} {s : String} :
    decode bytes = .ok s ↔ bytes = encode s := by
  constructor
  · intro h
    rw [decode] at h
    cases hpieces : decodePieces 0 (pieces bytes) with
    | error e => rw [hpieces] at h; cases h
    | ok cs =>
      rw [hpieces] at h
      obtain rfl := Except.ok.inj h
      rw [encode, String.toList_ofList]
      exact eq_flatMap_of_decodePieces hpieces
  · rintro rfl
    rw [decode, pieces_encode, decodePieces_char, Except.map, String.ofList_toList]

theorem toOption_map {ε α β : Type} (x : Except ε α) (f : α → β) :
    (x.map f).toOption = x.toOption.map f := by
  cases x <;> rfl

theorem toOption_decodePieces (offset : ℕ) (ps : List Piece) :
    (decodePieces offset ps).toOption = (decodePieces 0 ps).toOption := by
  induction ps generalizing offset with
  | nil => rfl
  | cons p ps ih =>
    cases p with
    | stray bytes cut => rfl
    | char c => rw [decodePieces, decodePieces, toOption_map, toOption_map, ih, ih (0 + c.utf8Size)]

theorem toOption_decodePieces_append (offset : ℕ) (cs : List Char) (ps : List Piece) :
    (decodePieces offset (cs.map .char ++ ps)).toOption = (decodePieces 0 ps).toOption.map
      (cs ++ ·) := by
  induction cs generalizing offset with
  | nil => simp [toOption_decodePieces]
  | cons c cs ih =>
    rw [List.map_cons, List.cons_append, decodePieces, toOption_map, ih, Option.map_map]
    rfl

theorem decode?_encode_append (s : String) (bytes : Bytes) :
    decode? (encode s ++ bytes) = (decode? bytes).map (s ++ ·) := by
  rw [decode?, decode, pieces_encode_append, toOption_map, toOption_decodePieces_append, decode?,
    decode, toOption_map, Option.map_map, Option.map_map]
  congr 1
  funext cs
  rw [Function.comp_apply, Function.comp_apply, String.ofList_append, String.ofList_toList]

/-- What lenient reading puts for stray bytes. -/
def replacement : Char := Char.ofNat 0xFFFD

theorem exists_char_pieces {ps : List Piece} (h : replacement ∉ ps.map Piece.lenient) :
    ∃ cs : List Char, ps = cs.map .char := by
  induction ps with
  | nil => exact ⟨[], rfl⟩
  | cons p ps ih =>
    rw [List.map_cons, List.mem_cons, not_or] at h
    obtain ⟨hp, hps⟩ := h
    obtain ⟨cs, rfl⟩ := ih hps
    cases p with
    | char c => exact ⟨c :: cs, rfl⟩
    | stray bytes cut => exact absurd rfl hp

/-- Bytes that are leniently read without a replacement are the encoding of what is read. -/
theorem encode_decodeLenient {bytes : Bytes} (h : replacement ∉ (decodeLenient bytes).toList) :
    encode (decodeLenient bytes) = bytes := by
  rw [decodeLenient, String.toList_ofList] at h
  obtain ⟨cs, hcs⟩ := exists_char_pieces h
  have hread : decodePieces 0 (pieces bytes) = .ok cs := by rw [hcs, decodePieces_char]
  have hbytes := eq_flatMap_of_decodePieces hread
  rw [decodeLenient, hcs, List.map_map, show Piece.lenient ∘ Piece.char = id from rfl, List.map_id,
    encode, String.toList_ofList, hbytes]

/-- Where a replacement is read it may stand for itself or for stray bytes, and which of them it was
is lost. -/
theorem exists_ne_decodeLenient {bytes : Bytes} (h : replacement ∈ (decodeLenient bytes).toList) :
    ∃ other, other ≠ bytes ∧ decodeLenient other = decodeLenient bytes := by
  by_cases hbytes : encode (decodeLenient bytes) = bytes
  -- No byte is stray, so the replacement is a character of the text, and a stray byte in its place
  -- reads the same.
  · obtain ⟨front, back, hsplit⟩ := List.append_of_mem h
    have hpieces : pieces (encode (String.ofList front) ++ 0xFF :: encode (String.ofList back)) =
        front.map .char ++ .stray [0xFF] false :: back.map .char := by
      rw [pieces_encode_append, pieces, show firstPiece 0xFF _ = (.stray [0xFF] false, _) from rfl,
        pieces_encode, String.toList_ofList, String.toList_ofList]
    refine ⟨encode (String.ofList front) ++ 0xFF :: encode (String.ofList back), fun heq => ?_, ?_⟩
    · have hchars := congrArg pieces hbytes
      rw [pieces_encode, ← heq, hpieces, heq] at hchars
      have hmem : Piece.stray [0xFF] false ∈ (decodeLenient bytes).toList.map Piece.char := by
        rw [hchars]; simp
      obtain ⟨c, -, hc⟩ := List.mem_map.mp hmem
      cases hc
    · rw [decodeLenient, hpieces, ← String.toList_inj, String.toList_ofList, hsplit]
      simp [Function.comp_def, Piece.lenient, replacement]
  · exact ⟨_, hbytes, decodeLenient_encode _⟩

end BlocklistSync.Text.Utf8
