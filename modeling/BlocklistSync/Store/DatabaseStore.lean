import BlocklistSync.Fault
import BlocklistSync.FileTree.Operations
import BlocklistSync.Log
import BlocklistSync.Store.DatabaseImage
import BlocklistSync.Store.Query

/-! The blocklist in a database file, opened read-only. One connection is kept: a query that fails
drops it and the next one opens the file anew, while a connection that cannot be replaced stays. -/
namespace BlocklistSync

/-- A connection holds on to the file that had the path when it was opened; a path that names no
file on disk gives an empty database. -/
inductive Connection
  | file (number : Nat)
  | directory
  | blank
  deriving Repr, DecidableEq

structure DatabaseStore where
  path : String
  held : Option Connection
  deriving Repr, DecidableEq

namespace DatabaseStore

def new (path : String) : DatabaseStore := ⟨path, none⟩

def maxLinks : Nat := 100
def maxPathBytes : Nat := 512

/-- The place that a path names once its links are followed and its double dots are taken back by
name, which works also where directories are missing. -/
def canonical (t : FileTree) (links : Nat) (here : Place) : List String → Option Place
  | [] => some here
  | name :: rest =>
    if name = "." then canonical t links here rest
    else if name = ".." then canonical t links here.dropLast rest
    else if FileTree.maxNameBytes < name.utf8ByteSize then none
    else match t.node? here with
    | some (.file _) => none
    | _ => match t.node? (here ++ [name]) with
      | some (.link target) => match links with
        | 0 => none
        | links + 1 =>
          canonical t links (FileTree.startOf here target) (FileTree.steps target ++ rest)
      | _ => canonical t links (here ++ [name]) rest
  termination_by names => (links, names.length)

/-- Opening looks only at what has the path; what the file holds shows with the first query. -/
def openFile (t : FileTree) (path : String) : Except QueryError Connection :=
  if path.isEmpty || path = ":memory:" then .ok .blank
  else if maxPathBytes < path.utf8ByteSize then .error (.cannotOpen path)
  else match canonical t maxLinks (FileTree.startOf t.home path) (FileTree.steps path) with
    | none => .error (.cannotOpen path)
    | some place => match t.node? place with
      | some (.file number) => .ok (.file number)
      | some .directory => .ok .directory
      | _ => .error (.cannotOpen path)

/-- The database that a file holds; an empty file is an empty database. -/
def databaseIn? : Content → Option Database
  | .database db => some db
  | .bytes bytes => if bytes.isEmpty then some .new else Database.ofBytes? bytes.toArray
  | .program _ | .device _ => none

def tableOf (t : FileTree) : Connection → Except QueryError Table
  | .blank => .error (.noTable Query.tableName)
  | .directory => .error .diskError
  | .file number =>
    match (t.content? number).bind databaseIn? with
    | some db => match db.table? Query.tableName with
      | some stored => .ok stored.table
      | none => .error (.noTable Query.tableName)
    | none => .error .notDatabase

def ask {α : Type} (t : FileTree) (query : Table → Except QueryError α) (c : Connection) :
    Except QueryError α := do query (← tableOf t c)

/-- A connection to a file whose fingerprint can be read. -/
def openChecked (t : FileTree) (path : String) : Except QueryError Connection := do
  let c ← openFile t path
  let _ ← ask t Query.fingerprint c
  return c

def unavailable (e : QueryError) : Fault := .storeUnavailable e.message

def connect (s : DatabaseStore) (t : FileTree) : DatabaseStore × Result Unit :=
  match openChecked t s.path with
  | .ok c => ({ s with held := some c }, .ok ())
  | .error e => (s, .error (unavailable e))

def connectLog (s : DatabaseStore) : Result Unit → Log
  | .ok () => [.info .databaseStore s!"Connected to blocklist store at {s.path}"]
  | .error _ => []

def current (s : DatabaseStore) (t : FileTree) : Except QueryError Connection :=
  match s.held with
  | some c => .ok c
  | none => openChecked t s.path

def query {α : Type} (s : DatabaseStore) (t : FileTree) (q : Table → Except QueryError α) :
    DatabaseStore × Result α :=
  match s.current t with
  | .error e => (s, .error (unavailable e))
  | .ok c =>
    match ask t q c with
    | .ok a => ({ s with held := some c }, .ok a)
    | .error e => ({ s with held := none }, .error (unavailable e))

def fetchEntriesIn (s : DatabaseStore) (order : Query.RowOrder) (t : FileTree) :
    DatabaseStore × Result (List Entry) :=
  s.query t (Query.entries order)

/-- The fetch from a plain table. -/
def fetchEntries (s : DatabaseStore) (t : FileTree) : DatabaseStore × Result (List Entry) :=
  s.fetchEntriesIn Query.byId t

def fetchFingerprint (s : DatabaseStore) (t : FileTree) : DatabaseStore × Result Fingerprint :=
  s.query t Query.fingerprint

/-- A change made by whoever owns the database, in a file that is made if need be. -/
def edit {α : Type} (t : FileTree) (path : String) (f : Database → Option (Database × α)) :
    Option (FileTree × α) := do
  let db ← match t.fileNumber path with
    | .ok number => match t.content? number with
      | some (.database db) => some db
      | some (.bytes []) => some .new
      | _ => none
    | .error _ => some .new
  let (db, a) ← f db
  let t ← (t.write path (.database db)).toOption
  return (t, a)

end DatabaseStore
end BlocklistSync
