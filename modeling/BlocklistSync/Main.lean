import BlocklistSync.FileTree.Changes
import BlocklistSync.Service

/-! The command line. The daemon works on a copy of the files that its settings name, and what it
changes there is put back on the disk. Programs run if they are scripts. A line of input is a
signal: `refresh` asks for a cycle at once, any other line and the end of the input stop the
daemon. -/
namespace BlocklistSync.CommandLine

/-- The variables in a block of assignments, each ended by a zero byte; those that are no text do
not count. -/
def readEnvironment (block : Bytes) : Environment :=
  let assignments := (block.splitOnP (· = 0)).filterMap fun bytes => do
    let cs := (← Text.Utf8.decode? bytes).toList
    let name := cs.takeWhile (· ≠ '=')
    return (String.ofList name, String.ofList (cs.drop (name.length + 1)))
  fun key => assignments.lookup key

def addFile (t : FileTree) (path : String) (bytes : Array UInt8) : FileTree :=
  let t := (t.makeDirectories ((Path.parent? path).getD "")).1
  let mode := if bytes.toList.take 2 = Text.Utf8.encode "#!" then 0o755 else FileTree.defaultMode
  let added : Except IoError FileTree := do (← t.write path (.bytes bytes.toList)).setMode path mode
  added.toOption.getD t

def fetch (t : FileTree) (path : String) : IO FileTree := do
  try
    return addFile t path (← IO.FS.readBinFile path).data
  catch e =>
    match e with
    | .inappropriateType _ code _ =>
      return if SystemError.isDirectory = code.toNat then (t.makeDirectories path).1 else t
    | _ => return (t.unlink path).toOption.getD t

def namedPaths (s : Settings) : List String :=
  [s.mapDirectory, (Path.parent? s.pidFile).getD ".", s.commands.indexer, s.commands.control,
    s.commands.query] ++
    MapKind.all.map s.mapPaths.get ++ (StoreLocation.ofUrl s.storeUrl).toOption.toList

def environmentFiles : List String → List String
  | [] => ["/" ++ EnvironmentFile.fileName]
  | name :: above =>
    Path.ofParts true ((name :: above).reverse ++ [EnvironmentFile.fileName]) ::
      environmentFiles above

def gather (home : String) (env : Environment) : IO FileTree := do
  let t : FileTree := { Programs.machine with home := FileTree.steps home }
  let t := (t.makeDirectories home).1
  let t ← (environmentFiles t.home.reverse).foldlM fetch t
  let env := EnvironmentFile.load t env
  let t ← (env Settings.documentVariable).toList.foldlM fetch t
  match Settings.fromEnvironment t env with
  | .ok s => (namedPaths s).foldlM fetch t
  | .error _ => return t

def putBack : FileTree.Change → IO Unit
  | .makeDirectory path => IO.FS.createDirAll path
  | .write path bytes mode => do
    let staged := path ++ ".new"
    IO.FS.writeBinFile staged ⟨bytes.toArray⟩
    let rights (shift : Nat) : IO.AccessRight :=
      let bits := mode >>> shift
      ⟨bits &&& 4 != 0, bits &&& 2 != 0, bits &&& 1 != 0⟩
    IO.setAccessRights staged ⟨rights 6, rights 3, rights 0⟩
    IO.FS.rename staged path
  | .remove path => IO.FS.removeFile path

/-- Puts all changes back; one that the disk refuses is reported and the others go on. -/
def putBackAll (before after : FileTree) : IO Unit :=
  (FileTree.changes before after).forM fun change => do
    try putBack change
    catch e => IO.eprintln (toString e)

def printLog (log : Log) : IO Unit := do
  let out ← IO.getStdout
  log.forM fun line => out.putStrLn s!"{line.level.name} {line.area.target}: {line.text}"
  out.flush

/-- The service with its log shown and forgotten. -/
def showLog (s : Service) : IO Service := do
  printLog s.shown
  return { s with host := { s.host with log := [] } }

def isDue (s : Service) (now : Nat) : Bool :=
  s.host.deadline?.all (· ≤ now) || s.host.daemon.trigger.pending

def advance (s : Service) (now : Nat) : IO Service := do
  let t ← match StoreLocation.ofUrl s.settings.storeUrl with
    | .ok path => if isDue s now then fetch s.tree path else pure s.tree
    | .error _ => pure s.tree
  let s := (s.setTree t).passUntil now
  putBackAll t s.tree
  showLog s

def finish (before : FileTree) (e : Exit) : IO UInt32 := do
  putBackAll before e.tree
  printLog e.log
  return e.status.toUInt32

def readSignal : IO (Task (Except IO.Error String)) := do
  IO.asTask (← IO.getStdin).getLine Task.Priority.dedicated

def pause : UInt32 := 50

partial def serve (started : Nat) (signal : Task (Except IO.Error String)) (s : Service) : IO
    UInt32 := do
  let s ← advance s ((← IO.monoMsNow) - started)
  if ← IO.hasFinished signal then
    match signal.get with
    | .ok "refresh\n" => serve started (← readSignal) { s with host := s.host.notify }
    | _ => finish s.tree s.stop
  else
    IO.sleep pause
    serve started signal s

def processId : IO Nat := do
  let status ← IO.FS.readFile "/proc/self/stat"
  return Number.naturalOfDigits (status.toList.takeWhile Char.isDigit)

def run : IO UInt32 := do
  let env := readEnvironment (← IO.FS.readBinFile "/proc/self/environ").data.toList
  let t ← gather (← IO.currentDir).toString env
  match Service.launch t env (← processId) with
  | .error e =>
    IO.eprint e.errors
    finish t e
  | .ok s =>
    IO.eprint s.errors
    putBackAll t s.tree
    serve (← IO.monoMsNow) (← readSignal) s

end BlocklistSync.CommandLine

def main : IO UInt32 := BlocklistSync.CommandLine.run
