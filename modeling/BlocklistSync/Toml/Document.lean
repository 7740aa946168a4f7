import BlocklistSync.Toml.Parser

/-! The table that a document's statements build. A header opens a table once; what came before
under its name is taken over only if other headers implied it. -/
namespace BlocklistSync.Toml

/-- The tables closed so far, and the one that assignments now go to. -/
structure Building where
  root : Entries
  path : Keys
  isElement : Bool
  current : Entries

namespace Building

def start : Building := ⟨[], [], false, []⟩

/-- Puts the open table in its place. -/
def close (b : Building) : Option Entries :=
  match b.path.getLast? with
  | none => some b.current
  | some last =>
    within false (fun _ es =>
      match b.isElement, findItem last es with
      | true, some (.groups elements) => some (setItem last (.groups (elements ++ [b.current])) es)
      | true, none => some (setItem last (.groups [b.current]) es)
      | false, none => some (setItem last (.group false false b.current) es)
      | _, _ => none) b.path.dropLast false b.root

/-- The entries that a header may take over: those of a table that is only implied. -/
def implied? : Option Item → Option Entries
  | none => some []
  | some (.group true false entries) => some entries
  | some _ => none

/-- The item at a path, through the last elements of arrays of tables. -/
def itemAt? : Keys → Entries → Option Item
  | [], _ => none
  | [k], es => findItem k es
  | k :: ks, es =>
    match findItem k es with
    | some (.group _ _ inner) => itemAt? ks inner
    | some (.groups elements) => itemAt? ks (elements.getLast?.getD [])
    | _ => none

def eraseItem (k : String) (es : Entries) : Entries := es.filter (·.1 ≠ k)

def step (b : Building) : Statement → Option Building
  | .assign ks v => do
    let es ← assign ks v b.current
    return { b with current := es }
  | .table ks => do
    let root ← b.close
    let last ← ks.getLast?
    let taken ← implied? (itemAt? ks root)
    let root ← within false (fun _ es => some (eraseItem last es)) ks.dropLast false root
    return ⟨root, ks, false, taken⟩
  | .tableOfArray ks => do
    let root ← b.close
    let root ← within false (fun _ es => some es) ks.dropLast false root
    match itemAt? ks root with
    | none | some (.groups _) => return ⟨root, ks, true, []⟩
    | some _ => none

end Building

def document? (text : String) : Option (List (String × Value)) := do
  let statements ← parse? text
  let b ← statements.foldlM Building.step Building.start
  let es ← b.close
  return entriesToValues es

end BlocklistSync.Toml
