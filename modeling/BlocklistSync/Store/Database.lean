import BlocklistSync.Store.Page

/-! A database file: its tables, and the pages that hold them. Each table has one leaf page; the
first page starts with the file's header and lists the tables. -/
namespace BlocklistSync

/-- A table with the number of its page and the key of its row in the list of tables. -/
structure StoredTable where
  table : Table
  root : Nat
  schemaKey : Nat

structure Database where
  tables : List StoredTable
  first : LeafPage
  /-- The pages after the first. -/
  others : List LeafPage
  /-- Pages that no table uses, the one freed first in front. -/
  free : List Nat

namespace Database

def fileHeaderSize : Nat := 100

def setLong (p : LeafPage) (i n : Nat) : LeafPage := p.setBytes i (Record.bigEndian 4 n)

def long (p : LeafPage) (i : Nat) : Nat := p.word i * 65536 + p.word (i + 2)

def new : Database where
  tables := []
  first :=
    let p := LeafPage.empty fileHeaderSize
    let p := p.setBytes 0 (Text.Utf8.encode "SQLite format 3" ++ [0])
    let p := p.setBytes 16 [0x10, 0, 1, 1, 0, 0x40, 0x20, 0x20]
    let p := setLong (setLong p 44 4) 56 1
    setLong p 96 3046000
  others := []
  free := []

def page (db : Database) (number : Nat) : LeafPage :=
  if number = 1 then db.first else (db.others[number - 2]?).getD (LeafPage.empty 0)

def setPage (db : Database) (number : Nat) (p : LeafPage) : Database :=
  if number = 1 then { db with first := p } else { db with others := db.others.set (number - 2) p }

def pageCount (db : Database) : Nat := db.others.length + 1

def table? (db : Database) (name : String) : Option StoredTable :=
  db.tables.find? fun t => sameName t.table.name name

def setTable (db : Database) (t : StoredTable) : Database :=
  { db with tables := db.tables.map fun u => if u.root = t.root then t else u }

/-- Ends a transaction: the counter of changes grows, and the header tells the number of pages. -/
def commit (db : Database) : Database :=
  let count := long db.first 24 + 1
  { db with first := setLong (setLong (setLong db.first 24 count) 28 db.pageCount) 92 count }

def countSchemaChange (db : Database) : Database :=
  { db with first := setLong db.first 40 (long db.first 40 + 1) }

/-- The head of the chain of free pages, and their number. -/
def noteFree (db : Database) : Database :=
  let head := db.free.head?.getD 0
  let db := { db with first := setLong (setLong db.first 32 head) 36 db.free.length }
  match db.free with
  | [] => db
  | trunk :: leaves =>
    let p := (db.page trunk).setBytes 0 (Record.bigEndian 4 0 ++ Record.bigEndian 4 leaves.length)
    db.setPage trunk ((leaves.zipIdx).foldl (fun p (n, i) => setLong p (8 + 4 * i) n) p)

def takePage (db : Database) : Database × Nat :=
  match db.free with
  | [] => ({ db with others := db.others ++ [LeafPage.empty 0] }, db.pageCount + 1)
  | [trunk] =>
    (noteFree { db.setPage trunk (db.page trunk).clear with free := [] }, trunk)
  | trunk :: leaf :: rest =>
    (noteFree { db.setPage leaf (LeafPage.empty 0) with free := trunk :: rest }, leaf)

def schemaCells (name : String) (columns : List String) (root : Nat) : List Cell :=
  let list := ", ".intercalate columns
  let sql := s!"CREATE TABLE {name} ({list})"
  [.ofString "table", .ofString name, .ofString name, .integer root, .ofString sql]

/-- Adds the cell of row `i` to a table's page; a page without room stays as it is. -/
def addCell (db : Database) (root i : Nat) (cell : Bytes) : Database :=
  match (db.page root).insertCell i cell with
  | some p => db.setPage root p
  | none => db

/-- What stands in the list of tables while the page of a new table is found. -/
def placeholder : List Cell := [.null, .null, .null, .null, .null]

/-- The row of a new table in the list of tables takes the place of a placeholder, which may leave
its traces. -/
def addSchemaRow (db : Database) (i key : Nat) (cells : List Cell) : Database :=
  let blank := Record.encode key placeholder
  match db.first.insertCell i blank with
  | some p => { db with first := p.dropCell i blank.length }.addCell 1 i (Record.encode key cells)
  | none => db

def createTable (db : Database) (name : String) (columns : List String) : Database :=
  let (db, root) := db.takePage
  let key := db.tables.foldl (fun k t => max k t.schemaKey) 0 + 1
  let db := db.addSchemaRow db.tables.length key (schemaCells name columns root)
  let db := { db with tables := db.tables ++ [StoredTable.mk ⟨name, columns, []⟩ root key] }
  db.countSchemaChange.commit

/-- The page of a dropped table becomes free. The first free page is cleared and leads the chain;
the others keep what they hold. -/
def dropTable (db : Database) (name : String) : Option Database := do
  let t ← db.table? name
  let i ← db.tables.findIdx? (·.root = t.root)
  let size := (Record.encode t.schemaKey (schemaCells t.table.name t.table.columns t.root)).length
  let db := { db with first := db.first.dropCell i size }
  let db := if db.free.isEmpty then db.setPage t.root (db.page t.root).clear else db
  let db := { db with tables := db.tables.eraseIdx i, free := db.free ++ [t.root] }
  return db.noteFree.countSchemaChange.commit

def insertRow (db : Database) (name : String) (cells : List Cell) : Option Database := do
  let t ← db.table? name
  let db := db.addCell t.root t.table.rows.length (Record.encode t.table.nextKey cells)
  return db.setTable { t with table := t.table.insert cells }

def insertRows (db : Database) (name : String) (rows : List (List Cell)) : Option Database := do
  let db' ← rows.foldlM (fun db cells => db.insertRow name cells) db
  return if rows.isEmpty then db' else db'.commit

/-- Writes the new bytes of row `i`: in place if they are as long as the old ones. -/
def rewriteCell (db : Database) (root i : Nat) (old new : Bytes) : Database :=
  if old.length = new.length then db.setPage root ((db.page root).overwriteCell i new)
  else (db.setPage root ((db.page root).dropCell i old.length)).addCell root i new

def updateRow (db : Database) (name : String) (i column : Nat)
    (value : Cell) : Option Database := do
  let t ← db.table? name
  let row ← t.table.rows[i]?
  let changed := t.table.setCell i column value
  let new ← changed.rows[i]?
  let db := db.rewriteCell t.root i (Record.encode row.key row.cells)
    (Record.encode new.key new.cells)
  return db.setTable { t with table := changed }

/-- Sets `column` in every row whose `id` equals `value`, and tells how many they are. A transaction
that changes no byte leaves no trace. -/
def update (db : Database) (name column : String) (id value : Cell) : Option (Database × Nat) := do
  let t ← db.table? name
  let key ← t.table.columnIndex? "id"
  let target ← t.table.columnIndex? column
  let hits := t.table.positions key id
  let changing := hits.filter fun i => (t.table.rows[i]?).bind (·.cells[target]?) ≠ some value
  let db' ← changing.foldlM (fun db i => db.updateRow name i target value) db
  return (if changing.isEmpty then db else db'.commit, hits.length)

def eraseRow (db : Database) (name : String) (i : Nat) : Option Database := do
  let t ← db.table? name
  let row ← t.table.rows[i]?
  let size := (Record.encode row.key row.cells).length
  let db := db.setPage t.root ((db.page t.root).dropCell i size)
  return db.setTable { t with table := t.table.erase i }

def delete (db : Database) (name : String) (id : Cell) : Option (Database × Nat) := do
  let t ← db.table? name
  let key ← t.table.columnIndex? "id"
  let hits := t.table.positions key id
  let db' ← (hits.zipIdx).foldlM (fun db (i, gone) => db.eraseRow name (i - gone)) db
  return (if hits.isEmpty then db else db'.commit, hits.length)

def toBytes (db : Database) : Bytes :=
  db.first.bytes.toList ++ db.others.flatMap (·.bytes.toList)

end Database
end BlocklistSync
