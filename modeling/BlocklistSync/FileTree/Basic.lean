import BlocklistSync.Keyed
import BlocklistSync.Path
import BlocklistSync.SystemError
import BlocklistSync.Store.Database

/-! A tree of directories, symbolic links and files, as the daemon's file operations see it. A file
has a number of its own: it lives on under that number when its name is removed or taken by
another. -/
namespace BlocklistSync

/-- Programs that come with the system, not as scripts. -/
inductive SystemProgram
  | shell
  | tool (name : String)
  deriving Repr, DecidableEq

/-- Files without an end or without contents, which swallow what is written. -/
inductive Device
  | null
  | zero
  deriving Repr, DecidableEq

inductive Content
  | bytes (bytes : Bytes)
  | database (db : Database)
  | program (program : SystemProgram)
  | device (device : Device)

def Content.toBytes : Content → Bytes
  | .bytes b => b
  | .database db => db.toBytes
  | .program _ => [0x7f]
  | .device _ => []

def Content.ofText (s : String) : Content := .bytes (Text.Utf8.encode s)

structure FileBody where
  content : Content
  mode : Nat

inductive Node
  | directory
  | link (target : String)
  | file (number : Nat)
  deriving Repr, DecidableEq

def Node.number? : Node → Option Nat
  | .file number => some number
  | .directory | .link _ => none

abbrev Place := List String

structure FileTree where
  nodes : List (Place × Node)
  bodies : List (Nat × FileBody)
  /-- Where relative paths start. -/
  home : Place

namespace FileTree

def node? (t : FileTree) (p : Place) : Option Node :=
  if p = [] then some .directory else Keyed.get? p t.nodes

def setNode (t : FileTree) (p : Place) (n : Node) : FileTree :=
  { t with nodes := Keyed.insert p n t.nodes }

def eraseNode (t : FileTree) (p : Place) : FileTree :=
  { t with nodes := Keyed.erase p t.nodes }

def body? (t : FileTree) (number : Nat) : Option FileBody := Keyed.get? number t.bodies

def content? (t : FileTree) (number : Nat) : Option Content := (t.body? number).map FileBody.content

def setBody (t : FileTree) (number : Nat) (b : FileBody) : FileTree :=
  { t with bodies := Keyed.insert number b t.bodies }

/-- Every number that a name in the tree leads to, or that a file has been kept under. -/
def numbers (t : FileTree) : List Nat :=
  (t.nodes.filterMap fun (_, n) => n.number?) ++ t.bodies.map (·.1)

/-- A number that no file has had. -/
def freshNumber (t : FileTree) : Nat := t.numbers.foldr (fun k n => max (k + 1) n) 0

def addFile (t : FileTree) (p : Place) (b : FileBody) : FileTree :=
  (t.setNode p (.file t.freshNumber)).setBody t.freshNumber b

def fileAt? (t : FileTree) (p : Place) : Option FileBody :=
  match t.node? p with
  | some (.file number) => t.body? number
  | _ => none

theorem node?_setNode (t : FileTree) (p q : Place) (n : Node) (hp : p ≠ []) :
    (t.setNode p n).node? q = if q = p then some n else t.node? q := by
  by_cases hq : q = []
  · subst hq
    simp [node?, hp.symm]
  · simp [node?, setNode, hq, Keyed.get?_insert]

theorem node?_eraseNode (t : FileTree) (p q : Place) (hp : p ≠ []) :
    (t.eraseNode p).node? q = if q = p then none else t.node? q := by
  by_cases hq : q = []
  · subst hq
    simp [node?, hp.symm]
  · simp [node?, eraseNode, hq, Keyed.get?_erase]

@[simp] theorem body?_setBody (t : FileTree) (k m : Nat) (b : FileBody) :
    (t.setBody k b).body? m = if m = k then some b else t.body? m := Keyed.get?_insert ..

@[simp] theorem node?_setBody (t : FileTree) (k : Nat) (b : FileBody) (p : Place) :
    (t.setBody k b).node? p = t.node? p := rfl

end FileTree
end BlocklistSync
