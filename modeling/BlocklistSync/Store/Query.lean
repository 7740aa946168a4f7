import BlocklistSync.Calendar.Timestamp
import BlocklistSync.Store.Entry
import BlocklistSync.Store.Table

/-! The two questions asked of the blocklist table: all entries in the order of their ids, and the
fingerprint. One bad cell spoils the whole answer. -/
namespace BlocklistSync

inductive QueryError
  | cannotOpen (path : String)
  | notDatabase
  | diskError
  | noTable (name : String)
  | noColumn (name sql : String) (offset : Nat)
  | columnType (className : String) (index : Nat) (name : String)
  | badText (index : Nat) (cause : Text.Utf8.DecodeError)
  deriving Repr, DecidableEq

def QueryError.message : QueryError → String
  | cannotOpen path => s!"unable to open database file: {path}"
  | notDatabase => "file is not a database"
  | diskError => "disk I/O error"
  | noTable name => s!"no such table: {name}"
  | noColumn name sql offset => s!"no such column: {name} in {sql} at offset {offset}"
  | columnType className index name =>
    s!"Invalid column type {className} at index: {index}, name: {name}"
  | badText index cause => s!"Conversion error from type Text at index: {index}, {cause.message}"

namespace Query

def tableName : String := "blocked_addresses"

def entriesSql : String :=
  "SELECT id, pattern, is_regex, test_mode, updated_at FROM blocked_addresses ORDER BY id"

def fingerprintSql : String := "SELECT COUNT(*), MAX(updated_at) FROM blocked_addresses"

/-- Where a column is in the table, under which name, and where the query asks for it. -/
structure Column where
  index : Nat
  name : String

def column (t : Table) (sql name : String) (offset : Nat) : Except QueryError Column :=
  match t.columnIndex? name with
  | some i => .ok ⟨i, t.columns[i]?.getD name⟩
  | none => .error (.noColumn name sql offset)

def Column.cell (c : Column) (r : Row) : Cell := r.cells[c.index]?.getD .null

def asInteger (index : Nat) (c : Column) (r : Row) : Except QueryError Int :=
  match c.cell r with
  | .integer i => .ok i
  | cell => .error (.columnType cell.className index c.name)

def asText (index : Nat) (c : Column) (r : Row) : Except QueryError String :=
  match c.cell r with
  | .text bytes => match Text.Utf8.decode bytes with
    | .ok s => .ok s
    | .error e => .error (.badText index e)
  | cell => .error (.columnType cell.className index c.name)

/-- A stamp in seconds or as text; what cannot be read is no error. -/
def stamp : Cell → Option Calendar.Moment
  | .integer seconds => Calendar.Moment.ofSeconds? seconds
  | .text bytes => (Text.Utf8.decode? bytes).bind Calendar.Timestamp.read?
  | _ => none

structure EntryColumns where
  id : Column
  pattern : Column
  isRegex : Column
  testMode : Column
  updatedAt : Column

def entryColumns (t : Table) : Except QueryError EntryColumns := do
  let id ← column t entriesSql "id" 7
  let pattern ← column t entriesSql "pattern" 11
  let isRegex ← column t entriesSql "is_regex" 20
  let testMode ← column t entriesSql "test_mode" 30
  let updatedAt ← column t entriesSql "updated_at" 41
  return ⟨id, pattern, isRegex, testMode, updatedAt⟩

def entryOf (c : EntryColumns) (r : Row) : Except QueryError Entry := do
  let id ← asInteger 0 c.id r
  let pattern ← asText 1 c.pattern r
  let isRegex ← asInteger 2 c.isRegex r
  let testMode ← asInteger 3 c.testMode r
  return ⟨id, pattern, isRegex ≠ 0, testMode ≠ 0, stamp (c.updatedAt.cell r)⟩

/-- A way of getting at the rows. The query asks for the rows by id and says no more: which of
several rows with one id comes first follows from the keys and indexes of the table, which are not
kept here. -/
abbrev RowOrder := EntryColumns → Table → List Row

/-- The order in which a plain table is read: rows with equal ids by age. -/
def byId : RowOrder := fun c t => t.rows.mergeSort fun a b => (c.id.cell a).le (c.id.cell b)

def entries (order : RowOrder) (t : Table) : Except QueryError (List Entry) := do
  let c ← entryColumns t
  (order c t).mapM (entryOf c)

def fingerprint (t : Table) : Except QueryError Fingerprint := do
  let c ← column t fingerprintSql "updated_at" 21
  return ⟨t.rows.length, (Cell.maximum (t.rows.map c.cell)).marker⟩

end Query
end BlocklistSync
