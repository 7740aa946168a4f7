import BlocklistSync.FileTree.Basic

/-! From a path to a place in the tree. Links on the way are followed, at most forty of them; the
last name may be missing, so that something can be made there. -/
namespace BlocklistSync.FileTree

def maxLinks : Nat := 40
def maxNameBytes : Nat := 255
def maxPathBytes : Nat := 4095

/-- What a path leads to: `node` is none where nothing is yet. -/
structure Target where
  place : Place
  node : Option Node

def steps (path : String) : List String := (Path.splitSlashes path).filter (· ≠ "")

def startOf (here : Place) (path : String) : Place := if Path.isAbsolute path then [] else here

/-- How far a path leads without a link being followed. -/
inductive Stretch
  | ended (result : Except Int Target)
  /-- To a link in the directory `here`, with the names that come after it. -/
  | link (here : Place) (target : String) (rest : List String)

/-- Follows `names` from the directory `here` up to the first link that is to be followed. A link in
last place is such only if `follow`; `directory` says that the path ends in a slash, after which
only a directory will do. -/
def stretch (t : FileTree) (here : Place) (follow directory : Bool) : List String → Stretch
  | [] => .ended (.ok ⟨here, some .directory⟩)
  | name :: rest =>
    if name = "." then stretch t here follow directory rest
    else if name = ".." then stretch t here.dropLast follow directory rest
    else if maxNameBytes < name.utf8ByteSize then .ended (.error SystemError.nameTooLong)
    else
      let place := here ++ [name]
      match t.node? place with
      | none =>
        .ended (if rest.isEmpty then .ok ⟨place, none⟩ else .error SystemError.notFound)
      | some .directory => stretch t place follow directory rest
      | some (.file number) =>
        .ended (if rest.isEmpty && !directory then .ok ⟨place, some (.file number)⟩
          else .error SystemError.notDirectory)
      | some (.link target) =>
        if rest.isEmpty && !directory && !follow then .ended (.ok ⟨place, some (.link target)⟩)
        else .link here target rest

/-- Follows `names` and the links among them, at most `links` of these. -/
def walk (t : FileTree) (links : Nat) (here : Place) (follow directory : Bool)
    (names : List String) :
    Except Int Target :=
  match t.stretch here follow directory names with
  | .ended result => result
  | .link here target rest =>
    match links with
    | 0 => .error SystemError.tooManyLinks
    | links + 1 =>
      if target.isEmpty then .error SystemError.notFound
      else
        walk t links (startOf here target) follow
          (directory || (rest.isEmpty && Path.endsWithSlash target)) (steps target ++ rest)

/-- The place of a path, with the failures that need no look at what stands there. -/
def resolve (t : FileTree) (follow : Bool) (path : String) : Except IoError Target :=
  if path.toList.contains '\x00' then .error .nulInPath
  else if path.isEmpty then .error (.system SystemError.notFound)
  else if maxPathBytes < path.utf8ByteSize then .error (.system SystemError.nameTooLong)
  else
    match walk t maxLinks (startOf t.home path) follow (Path.endsWithSlash path) (steps path) with
    | .ok target => .ok target
    | .error code => .error (.system code)

/-- The way comes to a last name with a slash after it, be it one of the path or of a link in last
place. `directory` says that there is such a slash after `names`. -/
def lastHasSlash (t : FileTree) (links : Nat) (here : Place) (directory : Bool)
    (names : List String) : Bool :=
  if directory then
    match names.getLast?, walk t links here true true names.dropLast with
    | some name, .ok ⟨_, some .directory⟩ => name ≠ "." && name ≠ ".."
    | _, _ => false
  else match t.stretch here true false names with
    | .ended _ => false
    | .link here target rest =>
      match links with
      | 0 => false
      | links + 1 => !target.isEmpty &&
          lastHasSlash t links (startOf here target) (rest.isEmpty && Path.endsWithSlash target)
            (steps target ++ rest)

/-- The last name of a path has a slash after it, so that no file can be opened there to be
written. -/
def asksForDirectory (t : FileTree) (path : String) : Bool :=
  !path.toList.contains '\x00' && path.utf8ByteSize ≤ maxPathBytes &&
    t.lastHasSlash maxLinks (startOf t.home path) (Path.endsWithSlash path) (steps path)

/-- The path ends in a name, and not in a dot, two dots or the root. -/
def endsInName (path : String) : Bool :=
  match (steps path).getLast? with
  | some name => name ≠ "." && name ≠ ".."
  | none => false

end BlocklistSync.FileTree
