/-! Byte sequences read as text. A sequence falls apart into characters and stray bytes; strict
reading stops at the first stray, lenient reading puts U+FFFD for each. -/
namespace BlocklistSync

abbrev Bytes := List UInt8

namespace Text.Utf8

def encode (s : String) : Bytes := s.toList.flatMap String.utf8EncodeChar

theorem toByteArray_encode (s : String) : (encode s).toByteArray = s.toByteArray :=
  String.utf8Encode_toList

theorem encode_injective {s s' : String} (h : encode s = encode s') : s = s' := by
  rw [← String.toByteArray_inj, ← toByteArray_encode, h, toByteArray_encode]

inductive Piece
  | char (c : Char)
  /-- Bytes that begin no character; `cut` when the sequence ends before it can be told. -/
  | stray (bytes : Bytes) (cut : Bool)
  deriving Repr, DecidableEq

/-- How many bytes continue a character after its first byte, and the bounds of the next one. -/
def follow? (b : UInt8) : Option (Nat × UInt8 × UInt8) :=
  if b < 0x80 then some (0, 0, 0)
  else if b < 0xC2 then none
  else if b < 0xE0 then some (1, 0x80, 0xBF)
  else if b = 0xE0 then some (2, 0xA0, 0xBF)
  else if b = 0xED then some (2, 0x80, 0x9F)
  else if b < 0xF0 then some (2, 0x80, 0xBF)
  else if b = 0xF0 then some (3, 0x90, 0xBF)
  else if b < 0xF4 then some (3, 0x80, 0xBF)
  else if b = 0xF4 then some (3, 0x80, 0x8F)
  else none

/-- At most `n` continuation bytes from the front; only the first has bounds of its own. -/
def continuation : Nat → UInt8 → UInt8 → Bytes → Bytes
  | n + 1, lo, hi, b :: rest =>
    if lo ≤ b && b ≤ hi then b :: continuation n 0x80 0xBF rest else []
  | _, _, _, _ => []

def codePoint (first : UInt8) (tail : Bytes) : Nat :=
  let bits := if tail.isEmpty then first.toNat else first.toNat % Nat.pow 2 (6 - tail.length)
  tail.foldl (fun v b => v * 64 + b.toNat % 64) bits

def firstPiece (b : UInt8) (rest : Bytes) : Piece × Bytes :=
  match follow? b with
  | none => (.stray [b] false, rest)
  | some (n, lo, hi) =>
    let tail := continuation n lo hi rest
    if tail.length = n then (.char (Char.ofNat (codePoint b tail)), rest.drop n)
    else (.stray (b :: tail) (tail.length == rest.length), rest.drop tail.length)

theorem firstPiece_rest_length (b : UInt8) (rest : Bytes) :
    (firstPiece b rest).2.length ≤ rest.length := by
  simp only [firstPiece]
  split
  · exact Nat.le_refl _
  · split <;> simp

def pieces : Bytes → List Piece
  | [] => []
  | b :: rest =>
    (firstPiece b rest).1 :: pieces (firstPiece b rest).2
  termination_by bytes => bytes.length
  decreasing_by
    have := firstPiece_rest_length b rest
    simp only [List.length_cons]
    omega

def Piece.size : Piece → Nat
  | .char c => c.utf8Size
  | .stray bytes _ => bytes.length

def Piece.lenient : Piece → Char
  | .char c => c
  | .stray _ _ => Char.ofNat 0xFFFD

def decodeLenient (bytes : Bytes) : String :=
  String.ofList ((pieces bytes).map Piece.lenient)

/-- Where strict reading stops: the offset of the stray, and its length unless the end cut it
off. -/
structure DecodeError where
  offset : Nat
  strayLength : Option Nat
  deriving Repr, DecidableEq

def DecodeError.message (e : DecodeError) : String :=
  match e.strayLength with
  | some n => s!"invalid utf-8 sequence of {n} bytes from index {e.offset}"
  | none => s!"incomplete utf-8 byte sequence from index {e.offset}"

def decodePieces : Nat → List Piece → Except DecodeError (List Char)
  | _, [] => .ok []
  | offset, .char c :: rest => (decodePieces (offset + c.utf8Size) rest).map (c :: ·)
  | offset, .stray bytes cut :: _ => .error ⟨offset, if cut then none else some bytes.length⟩

def decode (bytes : Bytes) : Except DecodeError String :=
  (decodePieces 0 (pieces bytes)).map String.ofList

def decode? (bytes : Bytes) : Option String := (decode bytes).toOption

end Text.Utf8
end BlocklistSync
