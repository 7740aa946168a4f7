import BlocklistSync.Store.Table

/-! The bytes of a leaf page of a database file. Cells are packed from the end of the page
downwards, their pointers stand after the header, and cells that were dropped leave free blocks
chained through the page. -/
namespace BlocklistSync

def pageSize : Nat := 4096

/-- A page whose header starts at `header`, which is not 0 only for the first page of a file. -/
structure LeafPage where
  header : Nat
  bytes : Array UInt8

namespace LeafPage

def byte (p : LeafPage) (i : Nat) : Nat := (p.bytes.getD i 0).toNat

def word (p : LeafPage) (i : Nat) : Nat := p.byte i * 256 + p.byte (i + 1)

def setByte (p : LeafPage) (i n : Nat) : LeafPage :=
  { p with bytes := p.bytes.setIfInBounds i n.toUInt8 }

def setWord (p : LeafPage) (i n : Nat) : LeafPage :=
  (p.setByte i (n / 256)).setByte (i + 1) (n % 256)

def setBytes (p : LeafPage) (i : Nat) (bytes : Bytes) : LeafPage :=
  { p with bytes := (bytes.zipIdx i).foldl (fun a (b, k) => a.setIfInBounds k b) p.bytes }

def firstFree (p : LeafPage) : Nat := p.word (p.header + 1)
def cellCount (p : LeafPage) : Nat := p.word (p.header + 3)
def contentStart (p : LeafPage) : Nat := p.word (p.header + 5)
def fragments (p : LeafPage) : Nat := p.byte (p.header + 7)
def pointerAt (p : LeafPage) (i : Nat) : Nat := p.header + 8 + 2 * i
def cellAt (p : LeafPage) (i : Nat) : Nat := p.word (p.pointerAt i)

/-- The header of a page without cells; the bytes behind it stay. -/
def clear (p : LeafPage) : LeafPage :=
  let p := (p.setByte p.header 0x0d).setBytes (p.header + 1) [0, 0, 0, 0]
  (p.setWord (p.header + 5) pageSize).setByte (p.header + 7) 0

def empty (header : Nat) : LeafPage := clear ⟨header, Array.replicate pageSize 0⟩

/-- The first free block of at least `size` bytes, from the link at `link` on: it is cut from its
end, or unlinked when less than a block would be left. -/
def takeFreeBlock (size : Nat) : Nat → LeafPage → Nat → Option (LeafPage × Nat)
  | 0, _, _ => none
  | fuel + 1, p, link =>
    let block := p.word link
    if block = 0 || pageSize < block + size then none
    else
      let blockSize := p.word (block + 2)
      if blockSize < size then takeFreeBlock size fuel p block
      else
        let left := blockSize - size
        if left < 4 then
          if 57 < p.fragments then none
          else some ((p.setWord link (p.word block)).setByte (p.header + 7) (p.fragments + left),
            block)
        else some (p.setWord (block + 2) left, block + left)

/-- Room for `size` bytes, in a free block or below the cells; none when the page is full. -/
def allocate (p : LeafPage) (size : Nat) : Option (LeafPage × Nat) :=
  let gap := p.pointerAt p.cellCount
  let fromBlock :=
    if p.firstFree ≠ 0 && gap + 2 ≤ p.contentStart then takeFreeBlock size pageSize p (p.header + 1)
    else none
  match fromBlock with
  | some r => some r
  | none =>
    if gap + 2 + size ≤ p.contentStart then
      let top := p.contentStart - size
      some (p.setWord (p.header + 5) top, top)
    else none

def pointers (p : LeafPage) : List Nat := (List.range p.cellCount).map p.cellAt

def setPointers (p : LeafPage) (pointers : List Nat) : LeafPage :=
  let p := (pointers.zipIdx).foldl (fun p (offset, i) => p.setWord (p.pointerAt i) offset) p
  p.setWord (p.header + 3) pointers.length

def insertCell (p : LeafPage) (i : Nat) (cell : Bytes) : Option LeafPage := do
  let (p, start) ← p.allocate cell.length
  return (p.setBytes start cell).setPointers (p.pointers.insertIdx i start)

/-- The link after which a block at `start` belongs, and the block that it leads to. -/
def freeLink (start : Nat) : Nat → LeafPage → Nat → Nat × Nat
  | 0, p, link => (link, p.word link)
  | fuel + 1, p, link =>
    let block := p.word link
    if block = 0 || start ≤ block then (link, block) else freeLink start fuel p block

/-- Gives the bytes back, joined with the free blocks at most three bytes away on either side, or
with the gap below the cells. -/
def release (p : LeafPage) (start size : Nat) : LeafPage :=
  let (link, next) := freeLink start pageSize p (p.header + 1)
  let stop := start + size
  let joinsNext := next ≠ 0 && next ≤ stop + 3
  let stop' := if joinsNext then next + p.word (next + 2) else stop
  let next' := if joinsNext then p.word next else next
  let before := link + p.word (link + 2)
  let joinsBefore := link ≠ p.header + 1 && start ≤ before + 3
  let start' := if joinsBefore then link else start
  let closed := (if joinsNext then next - stop else 0) + (if joinsBefore then start - before else 0)
  let p := p.setByte (p.header + 7) (p.fragments - closed)
  if start' ≤ p.contentStart then (p.setWord (p.header + 1) next').setWord (p.header + 5) stop'
  else
    let p := if joinsBefore then p else p.setWord link start'
    (p.setWord start' next').setWord (start' + 2) (stop' - start')

/-- The pointers behind the dropped one move up; the place of the last keeps its bytes. -/
def dropCell (p : LeafPage) (i size : Nat) : LeafPage :=
  let p := p.release (p.cellAt i) size
  if p.cellCount ≤ 1 then p.clear else p.setPointers (p.pointers.eraseIdx i)

def overwriteCell (p : LeafPage) (i : Nat) (cell : Bytes) : LeafPage := p.setBytes (p.cellAt i) cell

end LeafPage

/-! Cells as they stand in a page. -/
namespace Record

/-- Seven bits a byte, the highest first, and a mark on all but the last. -/
def varint (n : Nat) : Bytes :=
  let rec high (fuel n : Nat) (tail : Bytes) : Bytes :=
    match fuel with
    | 0 => tail
    | fuel + 1 => if n = 0 then tail else high fuel (n / 128) ((n % 128 + 128).toUInt8 :: tail)
  high 9 (n / 128) [(n % 128).toUInt8]

def bigEndian (width : Nat) (i : Int) : Bytes :=
  (List.range width).reverse.map fun k => (i / Nat.pow 256 k % 256).toNat.toUInt8

def fitsBytes (width : Nat) (i : Int) : Bool :=
  -Nat.pow 2 (8 * width - 1) ≤ i && i < Nat.pow 2 (8 * width - 1)

/-- The type codes of whole numbers and the widths they stand for. -/
def integerWidths : List (Nat × Nat) := [(1, 1), (2, 2), (3, 3), (4, 4), (5, 6), (6, 8)]

def binary64Bits : Number.Binary64 → Nat
  | .finite s m e =>
    let sign := if s then Nat.pow 2 63 else 0
    if m < Nat.pow 2 52 then sign + m
    else sign + (e + 1075).toNat * Nat.pow 2 52 + (m - Nat.pow 2 52)
  | .infinite s => (if s then Nat.pow 2 63 else 0) + 2047 * Nat.pow 2 52
  | .nan => 2047 * Nat.pow 2 52 + Nat.pow 2 51

/-- The type code of a cell and its bytes. -/
def field : Cell → Nat × Bytes
  | .null => (0, [])
  | .integer i =>
    if i = 0 then (8, []) else if i = 1 then (9, [])
    else match integerWidths.find? fun (_, width) => fitsBytes width i with
      | some (code, width) => (code, bigEndian width i)
      | none => (6, bigEndian 8 i)
  | .real x => (7, bigEndian 8 (binary64Bits x))
  | .text bytes => (13 + 2 * bytes.length, bytes)
  | .blob bytes => (12 + 2 * bytes.length, bytes)

def payload (cells : List Cell) : Bytes :=
  let fields := cells.map field
  let codes := fields.flatMap fun (code, _) => varint code
  let size := if codes.length < 127 then codes.length + 1 else codes.length + 2
  varint size ++ codes ++ fields.flatMap (·.2)

/-- At least four bytes, so that it can become a free block. -/
def encode (key : Nat) (cells : List Cell) : Bytes :=
  let body := payload cells
  let cell := varint body.length ++ varint key ++ body
  cell ++ List.replicate (4 - cell.length) 0

end Record
end BlocklistSync
