import BlocklistSync.FileTree.Operations
import BlocklistSync.Fault
import BlocklistSync.Log
import BlocklistSync.Maps.Compile

/-! Writing the four maps. Each text is staged in a temporary file beside its map; only when all
four are staged are they renamed into place, one after the other. The single file operations are
listed as actions, any of which may be made to fail, and the tree after each of them is kept. -/
namespace BlocklistSync

structure WrittenMap where
  kind : MapKind
  path : String
  bytes : Nat
  lines : Nat
  deriving Repr, DecidableEq

structure WriteReport where
  maps : List WrittenMap
  deriving Repr, DecidableEq

def WriteReport.totalLines (r : WriteReport) : Nat := r.maps.foldl (fun n m => n + m.lines) 0

namespace MapWriter

inductive Operation
  | create
  | fill
  | sync
  | setMode
  | rename
  deriving Repr, DecidableEq

structure Action where
  operation : Operation
  kind : MapKind
  deriving Repr, DecidableEq

def staging (kind : MapKind) : List Action :=
  [⟨.create, kind⟩, ⟨.fill, kind⟩, ⟨.sync, kind⟩, ⟨.setMode, kind⟩]

def plan : List Action := MapKind.all.flatMap staging ++ MapKind.all.map (⟨.rename, ·⟩)

/-- The tree, and the temporary files that are still in it. -/
structure Stage where
  tree : FileTree
  temporaries : List (MapKind × Place)

def temporaryMode : Nat := 0o600
def mapMode : Nat := 0o644

/-- Where the temporary file for a map goes: the map's own directory. -/
def stagingDirectory (path : String) : String :=
  match Path.parent? path with
  | some dir => if dir.isEmpty then "." else dir
  | none => "."

/-- Six digits at least stand between the name of the program and the ending. -/
def temporaryName (n : Nat) : String :=
  let digits := toString n
  ".blocked_recipients." ++ String.ofList (List.replicate (6 - digits.length) '0') ++ digits ++
    ".tmp"

/-- The name is not that of a map. -/
def isUnclaimed (paths : MapPaths) (name : String) : Bool :=
  MapKind.all.all fun kind => (FileTree.steps (paths.get kind)).getLast? != some name

/-- A path in the directory that leads to nothing yet and that has a name of its own; any path with
such a name if there is none. -/
def freshPath? (t : FileTree) (paths : MapPaths) (dir : String) : Option String :=
  let names := (List.range (t.nodes.length + 5)).map temporaryName
  let candidates := (names.filter (isUnclaimed paths)).map (Path.join dir)
  let isVacant path := match t.resolve false path with
    | .ok target => target.node.isNone
    | .error _ => false
  (candidates.find? isVacant).or candidates.head?

def onTemporary (s : Stage) (kind : MapKind) (f : Place → Except IoError Stage) :
    Except IoError Stage :=
  match Keyed.get? kind s.temporaries with
  | some place => f place
  | none => FileTree.fail SystemError.notFound

def changeBody (t : FileTree) (place : Place) (f : FileBody → FileBody) : FileTree :=
  match t.node? place with
  | some (.file number) =>
    match t.body? number with
    | some body => t.setBody number (f body)
    | none => t
  | _ => t

def perform (paths : MapPaths) (maps : CompiledMaps) (s : Stage) (a : Action) :
    Except IoError Stage :=
  match a.operation with
  | .create =>
    match freshPath? s.tree paths (stagingDirectory (paths.get a.kind)) with
    | some path => do
      let target ← s.tree.resolve false path
      let tree ← s.tree.createNew path temporaryMode
      return ⟨tree, Keyed.insert a.kind target.place s.temporaries⟩
    | none => FileTree.fail SystemError.alreadyExists
  | .fill => onTemporary s a.kind fun place =>
    let content := Content.ofText (maps.get a.kind)
    .ok { s with tree := changeBody s.tree place ({ · with content := content }) }
  | .sync => onTemporary s a.kind fun _ => .ok s
  | .setMode => onTemporary s a.kind fun place =>
    .ok { s with tree := changeBody s.tree place ({ · with mode := mapMode }) }
  | .rename => onTemporary s a.kind fun place => do
    let tree ← s.tree.rename place (paths.get a.kind)
    return ⟨tree, Keyed.erase a.kind s.temporaries⟩

/-- How far a list of actions got: the trees after each action that was done, and the action that
failed with its error. -/
structure Progress where
  trees : List FileTree
  stage : Stage
  failure : Option (Action × IoError)

/-- Which actions fail, whatever the tree would say to them. -/
abbrev Faults := Action → Option IoError

def noFaults : Faults := fun _ => none

def run (faults : Faults) (paths : MapPaths) (maps : CompiledMaps) : List Action → Stage → Progress
  | [], s => ⟨[], s, none⟩
  | a :: rest, s =>
    match faults a, perform paths maps s a with
    | some e, _ => ⟨[], s, some (a, e)⟩
    | none, .error e => ⟨[], s, some (a, e)⟩
    | none, .ok s' =>
      let p := run faults paths maps rest s'
      { p with trees := s'.tree :: p.trees }

/-- Removes the temporary files that are left; the trees on the way. -/
def discard (t : FileTree) : List (MapKind × Place) → List FileTree
  | [] => []
  | (_, place) :: rest => t.eraseNode place :: discard (t.eraseNode place) rest

structure Written where
  /-- The trees after each single operation, in order. -/
  trees : List FileTree
  tree : FileTree
  result : Result WriteReport

def report (paths : MapPaths) (maps : CompiledMaps) : WriteReport :=
  ⟨MapKind.all.map fun kind =>
    ⟨kind, paths.get kind, (maps.get kind).utf8ByteSize, lineCount (maps.get kind)⟩⟩

/-- How far the plan gets. -/
def progress (faults : Faults) (t : FileTree) (paths : MapPaths) (maps : CompiledMaps) : Progress :=
  run faults paths maps plan ⟨t, []⟩

def writeWith (faults : Faults) (t : FileTree) (paths : MapPaths) (maps : CompiledMaps) : Written :=
  let p := progress faults t paths maps
  let trees := p.trees ++ discard p.stage.tree p.stage.temporaries
  let result := match p.failure with
    | some (a, e) => .error (.mapWrite (paths.get a.kind) e)
    | none => .ok (report paths maps)
  ⟨trees, trees.getLast?.getD t, result⟩

def write (t : FileTree) (paths : MapPaths) (maps : CompiledMaps) : Written :=
  writeWith noFaults t paths maps

def logLine (m : WrittenMap) : LogLine :=
  .info .writer s!"Wrote map {m.path} (bytes={m.bytes}, lines={m.lines})"

def log : Result WriteReport → Log
  | .ok r => r.maps.map logLine
  | .error _ => []

end MapWriter
end BlocklistSync
