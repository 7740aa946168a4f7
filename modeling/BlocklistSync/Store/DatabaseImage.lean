import BlocklistSync.Store.Database
import BlocklistSync.Text.Classes

/-! Reading a database file as it lies on disk. The rows of a table are in the leaves of a tree of
pages; a row that is too long for its leaf goes on in a chain of further pages. -/
namespace BlocklistSync

structure DatabaseImage where
  bytes : Array UInt8
  pageSize : Nat
  /-- How much of a page is in use, from its start. -/
  usable : Nat

namespace DatabaseImage

def byte (f : DatabaseImage) (i : Nat) : Nat := (f.bytes.getD i 0).toNat

def number (f : DatabaseImage) (width i : Nat) : Nat :=
  (List.range width).foldl (fun n k => n * 256 + f.byte (i + k)) 0

def slice (f : DatabaseImage) (start size : Nat) : Bytes :=
  (f.bytes.extract start (start + size)).toList

/-- A number of one to nine bytes, and where it ends: seven bits a byte, but eight in the ninth. -/
def varint (f : DatabaseImage) (start : Nat) : Nat × Nat :=
  let rec go (left n i : Nat) : Nat × Nat :=
    match left with
    | 0 => (n * 256 + f.byte i, i + 1)
    | left + 1 =>
      if f.byte i < 128 then (n * 128 + f.byte i, i + 1)
        else go left (n * 128 + (f.byte i - 128)) (i + 1)
  go 8 0 start

def pageStart (f : DatabaseImage) (page : Nat) : Nat := (page - 1) * f.pageSize

/-! Records. -/

def signed (width n : Nat) : Int :=
  if n < Nat.pow 2 (8 * width - 1) then n else (n : Int) - Nat.pow 2 (8 * width)

def binary64OfBits (n : Nat) : Number.Binary64 :=
  let negative := Nat.pow 2 63 ≤ n
  let exponent : Nat := n / Nat.pow 2 52 % 2048
  let fraction : Nat := n % Nat.pow 2 52
  if exponent = 2047 then (if fraction = 0 then .infinite negative else .nan)
  else if exponent = 0 then .finite negative fraction Number.Binary64.minExponent
  else .finite negative (Nat.pow 2 52 + fraction) ((exponent : Int) - 1075)

/-- The cell with the given type code at `start`, and its size. -/
def cell (r : DatabaseImage) (code start : Nat) : Cell × Nat :=
  match Record.integerWidths.lookup code with
  | some width => (.integer (signed width (r.number width start)), width)
  | none =>
    if code = 0 then (.null, 0)
    else if code = 7 then (.ofReal (binary64OfBits (r.number 8 start)), 8)
    else if code < 12 then (.integer (if code = 9 then 1 else 0), 0)
    else
      let size := (code - 12) / 2
      (if code % 2 = 0 then .blob (r.slice start size) else .text (r.slice start size), size)

/-- The cells whose type codes stand from `offset` up to `stop`, and whose bytes begin at
`start`. -/
def cellsFrom (r : DatabaseImage) (stop : Nat) : Nat → Nat → Nat → List Cell
  | 0, _, _ => []
  | fuel + 1, offset, start =>
    if stop ≤ offset then []
    else
      let (code, next) := r.varint offset
      let (c, size) := r.cell code start
      c :: cellsFrom r stop fuel next (start + size)

def cells (record : Array UInt8) : List Cell :=
  let r : DatabaseImage := ⟨record, record.size, record.size⟩
  let (stop, first) := r.varint 0
  r.cellsFrom stop record.size first stop

/-! Pages. -/

/-- The rest of a record, from the chain of pages that starts with `page`. -/
def chained (f : DatabaseImage) : Nat → Nat → Nat → Bytes
  | 0, _, _ => []
  | fuel + 1, page, size =>
    if page = 0 || size = 0 then []
    else
      let start := f.pageStart page
      let here := min size (f.usable - 4)
      f.slice (start + 4) here ++ chained f fuel (f.number 4 start) (size - here)

/-- How much of a record stands in its leaf. -/
def localSize (f : DatabaseImage) (size : Nat) : Nat :=
  let most := f.usable - 35
  if size ≤ most then size
  else
    let least := (f.usable - 12) * 32 / 255 - 23
    let fitting := least + (size - least) % (f.usable - 4)
    if fitting ≤ most then fitting else least

def row (f : DatabaseImage) (start : Nat) : Row :=
  let (size, i) := f.varint start
  let (key, i) := f.varint i
  let here := f.localSize size
  let rest := f.chained (f.bytes.size / f.pageSize) (f.number 4 (i + here)) (size - here)
  ⟨key, cells (f.slice i here ++ rest).toArray⟩

/-- The rows below a page; trees deeper than `depth` are cut. -/
def rows (f : DatabaseImage) : Nat → Nat → List Row
  | 0, _ => []
  | depth + 1, page =>
    let start := f.pageStart page
    let header := if page = 1 then Database.fileHeaderSize else start
    let count := f.number 2 (header + 3)
    let cellStart (pointers k : Nat) : Nat := start + f.number 2 (header + pointers + 2 * k)
    if f.byte header = 0x0d then (List.range count).map fun k => f.row (cellStart 8 k)
    else if f.byte header = 0x05 then
      (List.range count).flatMap (fun k => rows f depth (f.number 4 (cellStart 12 k))) ++
        rows f depth (f.number 4 (header + 8))
    else []

def maxDepth : Nat := 20

/-! Columns. -/

def closing? (c : Char) : Option Char :=
  if c = '[' then some ']' else if c = '"' || c = '\'' || c.toNat = 0x60 then some c else none

/-- The definitions between the outer parentheses; `quote` is the end of the quotes that are
open. -/
def definitions (depth : Nat) (quote : Option Char) (seen : List Char) :
    List Char → List (List Char)
  | [] => []
  | c :: rest =>
    match quote with
    | some q => definitions depth (if c = q then none else quote) (c :: seen) rest
    | none =>
      if c = '(' then definitions (depth + 1) none (if depth = 0 then [] else c :: seen) rest
      else if c = ')' then
        if depth ≤ 1 then [seen.reverse] else definitions (depth - 1) none (c :: seen) rest
      else if c = ',' && depth = 1 then seen.reverse :: definitions depth none [] rest
      else definitions depth (closing? c) (c :: seen) rest

structure ColumnDefinition where
  name : String
  /-- The column stands for the key of the row. -/
  isKey : Bool

def constraintWords : List String := ["CONSTRAINT", "PRIMARY", "UNIQUE", "CHECK", "FOREIGN"]

/-- The column that a definition makes; none for a constraint. -/
def ColumnDefinition.read? (cs : List Char) : Option ColumnDefinition :=
  let cs := Text.trimChars cs
  let isEnd (c : Char) : Bool := Text.isBlank c || c = '('
  let words := (cs.splitOnP isEnd).filterMap fun w =>
    if w.isEmpty then none else some (String.ofList (w.map Char.toUpper))
  let isKey := words[1]? == some "INTEGER" && words.contains "PRIMARY"
  match cs.head?.bind closing? with
  | some q => some ⟨String.ofList ((cs.drop 1).takeWhile (· ≠ q)), isKey⟩
  | none =>
    if words.head?.any constraintWords.contains then none
    else some ⟨String.ofList (cs.takeWhile fun c => !isEnd c), isKey⟩

def columns (sql : Bytes) : List ColumnDefinition :=
  (definitions 0 none [] (Text.Utf8.decodeLenient sql).toList).filterMap ColumnDefinition.read?

/-- The key of a row stands in for a column that is its alias. -/
def withKey (defs : List ColumnDefinition) (r : Row) : Row :=
  { r with cells := r.cells.zipIdx.map fun (c, i) =>
      if c = .null && defs[i]?.any (·.isKey) then .integer (signed 8 r.key) else c }

def table? (f : DatabaseImage) (entry : Row) : Option StoredTable :=
  match entry.cells with
  | [.text kind, .text name, _, .integer root, .text sql] => do
    guard (kind = Text.Utf8.encode "table")
    let defs := columns sql
    let rows := (f.rows maxDepth root.toNat).map (withKey defs)
    return ⟨⟨Text.Utf8.decodeLenient name, defs.map (·.name), rows⟩, root.toNat, entry.key⟩
  | _ => none

end DatabaseImage

/-- The tables of a file's bytes; none if they are no database with texts in UTF-8. -/
def Database.ofBytes? (bytes : Array UInt8) : Option Database :=
  let f : DatabaseImage := ⟨bytes, 1, 1⟩
  let pageSize := if f.number 2 16 = 1 then 65536 else f.number 2 16
  if f.slice 0 16 = Text.Utf8.encode "SQLite format 3" ++ [0] && 512 ≤ pageSize &&
      f.number 4 56 ≤ 1 then
    let f : DatabaseImage := { f with pageSize := pageSize, usable := pageSize - f.byte 20 }
    some { Database.new with tables := (f.rows DatabaseImage.maxDepth 1).filterMap f.table? }
  else none

end BlocklistSync
