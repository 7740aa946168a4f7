import BlocklistSync.Store.Cell

/-! Tables of rows, each row under a key that grows with insertion. -/
namespace BlocklistSync

structure Row where
  key : Nat
  cells : List Cell
  deriving Repr, DecidableEq

structure Table where
  name : String
  columns : List String
  rows : List Row
  deriving Repr, DecidableEq

/-- Names of tables and columns are compared without regard to the case of ASCII letters. -/
def sameName (a b : String) : Bool := a.toList.map Char.toLower == b.toList.map Char.toLower

namespace Table

def columnIndex? (t : Table) (column : String) : Option Nat :=
  t.columns.findIdx? (sameName column)

/-- Equality of stored values, under which null equals nothing. -/
def matchesCell (a b : Cell) : Bool := a != .null && b != .null && a.order b == .eq

def nextKey (t : Table) : Nat := t.rows.foldl (fun k r => max k r.key) 0 + 1

def insert (t : Table) (cells : List Cell) : Table :=
  { t with rows := t.rows ++ [⟨t.nextKey, cells⟩] }

def positions (t : Table) (column : Nat) (value : Cell) : List Nat :=
  (List.range t.rows.length).filter fun i =>
    match t.rows[i]?.bind (·.cells[column]?) with
    | some c => matchesCell c value
    | none => false

def setCell (t : Table) (position column : Nat) (value : Cell) : Table :=
  { t with rows := t.rows.modify position fun r => { r with cells := r.cells.set column value } }

def erase (t : Table) (position : Nat) : Table := { t with rows := t.rows.eraseIdx position }

end Table
end BlocklistSync
