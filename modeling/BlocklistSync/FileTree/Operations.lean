import BlocklistSync.FileTree.Resolve

/-! The file operations of the daemon and of whoever works beside it, with the errors that the
system gives a caller who may do anything. -/
namespace BlocklistSync.FileTree

def defaultMode : Nat := 0o644

def fail {α : Type} (code : Int) : Except IoError α := .error (.system code)

def fileNumber (t : FileTree) (path : String) : Except IoError Nat := do
  let target ← t.resolve true path
  match target.node with
  | some (.file number) => return number
  | some _ => fail SystemError.isDirectory
  | none => fail SystemError.notFound

def read (t : FileTree) (path : String) : Except IoError Bytes := do
  let number ← t.fileNumber path
  return ((t.body? number).map (·.content.toBytes)).getD []

def readText (t : FileTree) (path : String) : Except IoError String := do
  let bytes ← t.read path
  match Text.Utf8.decode? bytes with
  | some s => return s
  | none => .error .notText

def pathExists (t : FileTree) (path : String) : Bool :=
  match t.resolve true path with
  | .ok target => target.node.isSome
  | .error _ => false

def isDirectory (t : FileTree) (path : String) : Bool :=
  match t.resolve true path with
  | .ok target => target.node == some .directory
  | .error _ => false

/-- Makes the file or replaces what it holds; its mode stays if it was there. -/
def write (t : FileTree) (path : String) (content : Content) : Except IoError FileTree := do
  if t.asksForDirectory path then fail SystemError.isDirectory
  let target ← t.resolve true path
  match target.node with
  | some (.file number) =>
    let mode := ((t.body? number).map (·.mode)).getD defaultMode
    return t.setBody number ⟨content, mode⟩
  | some _ => fail SystemError.isDirectory
  | none => return t.addFile target.place ⟨content, defaultMode⟩

def setMode (t : FileTree) (path : String) (mode : Nat) : Except IoError FileTree := do
  let target ← t.resolve true path
  match target.node with
  | some (.file number) =>
    return match t.body? number with
      | some b => t.setBody number { b with mode := mode }
      | none => t
  | some _ => return t
  | none => fail SystemError.notFound

def makeDirectory (t : FileTree) (path : String) : Except IoError FileTree := do
  let target ← t.resolve false path
  match target.node with
  | some _ => fail SystemError.alreadyExists
  | none => return t.setNode target.place .directory

def ensureDirectory (t : FileTree) (path : String) : FileTree × Option IoError :=
  match t.makeDirectory path with
  | .ok t => (t, none)
  | .error e => (t, if t.isDirectory path then none else some e)

/-- Makes the directory, and those above it that are missing: a directory that cannot be made for
want of one above it is tried again once that one is there. What was made stays, whatever fails
later. -/
def makeDirectories (t : FileTree) (path : String) : FileTree × Option IoError :=
  let rec make (fuel : Nat) (t : FileTree) (path : String) : FileTree × Option IoError :=
    if path.isEmpty then (t, none)
    else match fuel, t.ensureDirectory path with
      | fuel + 1, (t, some e) =>
        if e.kind ≠ .notFound then (t, some e)
        else match Path.parent? path with
          | none => (t, some (.custom .uncategorized "failed to create whole tree"))
          | some parent =>
            match make fuel t parent with
            | (t, none) => t.ensureDirectory path
            | failed => failed
      | _, ensured => ensured
  make path.length t path

def makeLink (t : FileTree) (path target : String) : Except IoError FileTree := do
  let place ← t.resolve false path
  match place.node with
  | some _ => fail SystemError.alreadyExists
  | none =>
    if Path.endsWithSlash path then fail SystemError.notFound
    else return t.setNode place.place (.link target)

def unlink (t : FileTree) (path : String) : Except IoError FileTree := do
  let target ← t.resolve false path
  match target.node with
  | some .directory => fail SystemError.isDirectory
  | some _ => return t.eraseNode target.place
  | none => fail SystemError.notFound

/-- A new empty file in a directory, which fails if the name is taken. -/
def createNew (t : FileTree) (path : String) (mode : Nat) : Except IoError FileTree := do
  let target ← t.resolve false path
  match target.node with
  | some _ => fail SystemError.alreadyExists
  | none => return t.addFile target.place ⟨.bytes [], mode⟩

/-- Gives the file at `place` the name `path`, in the place of a file or link that has it. -/
def rename (t : FileTree) (place : Place) (path : String) : Except IoError FileTree := do
  let target ← t.resolve false path
  if !endsInName path then fail SystemError.busy
  else if Path.endsWithSlash path then fail SystemError.notDirectory
  else if target.node = some .directory then fail SystemError.isDirectory
  else match t.node? place with
    | some node =>
      return if target.place = place then t else (t.eraseNode place).setNode target.place node
    | none => fail SystemError.notFound

/-- Removes whatever has the name, with all below it; tells whether anything had. -/
def removeAll (t : FileTree) (path : String) : FileTree × Bool :=
  match t.resolve false path with
  | .ok ⟨place, some _⟩ =>
    ({ t with nodes := t.nodes.filter fun (p, _) => !place.isPrefixOf p }, true)
  | _ => (t, false)

end BlocklistSync.FileTree
