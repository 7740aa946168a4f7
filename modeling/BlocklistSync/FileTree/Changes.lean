import BlocklistSync.FileTree.Operations

/-! What sets two trees apart, as changes that turn the one into the other. Links do not count. -/
namespace BlocklistSync.FileTree

inductive Change
  | makeDirectory (path : String)
  | write (path : String) (bytes : Bytes) (mode : Nat)
  | remove (path : String)
  deriving Repr, DecidableEq

def pathOf (p : Place) : String := Path.ofParts true p

/-- What a change from `before` to `after` makes at a place that `after` has. -/
def made? (before after : FileTree) (p : Place) : Node → Option Change
  | .directory =>
    if before.node? p = some .directory then none else some (.makeDirectory (pathOf p))
  | .link _ => none
  | .file _ => do
    let new ← after.fileAt? p
    let isOld := (before.fileAt? p).any fun old =>
      old.content.toBytes = new.content.toBytes && old.mode = new.mode
    if isOld then none else some (.write (pathOf p) new.content.toBytes new.mode)

/-- Directories and files that are new or hold something else, then files that are gone. -/
def changes (before after : FileTree) : List Change :=
  after.nodes.filterMap (fun (p, n) => made? before after p n) ++
    before.nodes.filterMap fun (p, _) =>
      if (before.fileAt? p).isSome && (after.node? p).isNone then some (.remove (pathOf p))
      else none

end BlocklistSync.FileTree
