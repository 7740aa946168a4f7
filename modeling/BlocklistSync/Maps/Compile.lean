import BlocklistSync.Maps.Kind

/-! Compilation of the blocklist into the texts of the four maps. The entries are sorted first, so
that the texts depend on the set of rules and not on the order in which the store lists them. -/
namespace BlocklistSync

structure CompiledMaps where
  texts : PerMap String
  patternEntries : Nat
  totalEntries : Nat
  deriving Repr, DecidableEq

def CompiledMaps.get (maps : CompiledMaps) (kind : MapKind) : String := maps.texts.get kind

def sortedEntries (entries : List Entry) : List Entry := entries.mergeSort Entry.le

theorem sortedEntries_perm (entries : List Entry) : (sortedEntries entries).Perm entries :=
  List.mergeSort_perm ..

def mapText (kind : MapKind) (entries : List Entry) : String :=
  String.join ((entries.filter (MapKind.ofEntry · = kind)).map (kind.render ·.pattern))

def compile (entries : List Entry) : CompiledMaps where
  texts := PerMap.ofFn fun kind => mapText kind (sortedEntries entries)
  patternEntries := entries.countP (·.isRegex)
  totalEntries := entries.length

theorem get_compile (entries : List Entry) (kind : MapKind) :
    (compile entries).get kind = mapText kind (sortedEntries entries) := by
  simp [compile, CompiledMaps.get]

/-- Lines that end in a newline, and what follows the last newline if anything does. -/
def lineCount (text : String) : Nat :=
  let cs := text.toList
  cs.count '\n' + if cs.getLast?.all (· = '\n') then 0 else 1

end BlocklistSync
