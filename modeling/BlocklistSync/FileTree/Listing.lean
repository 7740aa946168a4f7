import BlocklistSync.FileTree.Operations

/-! Listings of a directory: everything below it, each directory before what it holds. -/
namespace BlocklistSync.FileTree

inductive ListedKind
  | directory
  | link (target : String)
  | file (mode : Nat) (bytes : Bytes)
  deriving DecidableEq

structure Listed where
  path : String
  kind : ListedKind

def placeLe (a b : Place) : Bool :=
  compare (a.map Text.Utf8.encode) (b.map Text.Utf8.encode) != .gt

def listedKind (t : FileTree) : Node → ListedKind
  | .directory => .directory
  | .link target => .link target
  | .file number =>
    match t.body? number with
    | some b => .file b.mode b.content.toBytes
    | none => .file 0 []

/-- What stands at a place, as a listing shows it. -/
def sight? (t : FileTree) (p : Place) : Option ListedKind := (t.node? p).map t.listedKind

/-- Everything below the directory in order of names by bytes; nothing if there is no such
directory. -/
def list (t : FileTree) (path : String) : List Listed :=
  match t.resolve true path with
  | .ok ⟨place, some .directory⟩ =>
    let below := t.nodes.filter fun (p, _) => place.isPrefixOf p && p ≠ place
    let base := Path.ofParts (Path.isAbsolute path) (Path.dropDots (Path.splitSlashes path))
    (below.mergeSort fun a b => placeLe a.1 b.1).map fun (p, n) =>
      ⟨Path.join base ("/".intercalate (p.drop place.length)), t.listedKind n⟩
  | _ => []

end BlocklistSync.FileTree
