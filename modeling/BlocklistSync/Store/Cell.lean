import BlocklistSync.Number.Shortest
import BlocklistSync.Text.Utf8

/-! Cells of a database table. Each value has a storage class of its own, whatever its column;
across the classes there is one order. -/
namespace BlocklistSync

inductive Cell
  | null
  | integer (value : Int)
  | real (value : Number.Binary64)
  | text (bytes : Bytes)
  | blob (bytes : Bytes)
  deriving Repr, DecidableEq

namespace Cell

/-- A real that is no number is stored as null. -/
def ofReal : Number.Binary64 → Cell
  | .nan => .null
  | x => .real x

def ofString (s : String) : Cell := .text (Text.Utf8.encode s)

def className : Cell → String
  | null => "Null"
  | integer _ => "Integer"
  | real _ => "Real"
  | text _ => "Text"
  | blob _ => "Blob"

/-- Null, then numbers by exact value, then texts by bytes, then blobs by bytes. -/
def order : Cell → Cell → Ordering
  | null, null => .eq
  | null, _ => .lt
  | _, null => .gt
  | integer i, integer j => compare i j
  | integer i, real y => (y.orderInt i).swap
  | real x, integer j => x.orderInt j
  | real x, real y => x.order y
  | integer _, _ | real _, _ => .lt
  | _, integer _ | _, real _ => .gt
  | text a, text b => compare a b
  | text _, blob _ => .lt
  | blob _, text _ => .gt
  | blob a, blob b => compare a b

def le (a b : Cell) : Bool := a.order b != .gt

/-- The earliest of the greatest cells; nulls do not take part. -/
def maximum (cells : List Cell) : Cell :=
  cells.foldl (fun best c => if c == .null then best else if best.order c == .lt then c
    else best) .null

def hexByte (b : UInt8) : String :=
  String.ofList [Nat.digitChar (b.toNat / 16), Nat.digitChar (b.toNat % 16)]

/-- The cell as the fingerprint shows it: numbers in decimal, text leniently decoded, blobs in
hexadecimal, and nothing for null. -/
def marker : Cell → Option String
  | null => none
  | integer i => some (toString i)
  | real x => some x.toText
  | text bytes => some (Text.Utf8.decodeLenient bytes)
  | blob bytes => some (String.join (bytes.map hexByte))

end Cell
end BlocklistSync
