import BlocklistSync.Path
import BlocklistSync.Store.Entry

/-! The four recipient maps and where they live. -/
namespace BlocklistSync

/-- One map for each choice of mode and of matching. -/
inductive MapKind
  | enforceLiteral
  | enforcePattern
  | testLiteral
  | testPattern
  deriving Repr, DecidableEq

namespace MapKind

def all : List MapKind := [enforceLiteral, enforcePattern, testLiteral, testPattern]

theorem mem_all (kind : MapKind) : kind ∈ all := by cases kind <;> decide

def ofEntry (e : Entry) : MapKind :=
  match e.testMode, e.isRegex with
  | false, false => enforceLiteral
  | false, true => enforcePattern
  | true, false => testLiteral
  | true, true => testPattern

def isPattern : MapKind → Bool
  | enforcePattern | testPattern => true
  | enforceLiteral | testLiteral => false

theorem isPattern_ofEntry (e : Entry) : (ofEntry e).isPattern = e.isRegex := by
  unfold ofEntry
  cases e.testMode <;> cases e.isRegex <;> rfl

/-- The line of a map for one pattern, which stands in it verbatim. -/
def render (kind : MapKind) (pattern : String) : String :=
  if kind.isPattern then s!"/{pattern}/ REJECT\n" else s!"{pattern} REJECT\n"

end MapKind

/-- One value for each map. -/
structure PerMap (α : Type) where
  enforceLiteral : α
  enforcePattern : α
  testLiteral : α
  testPattern : α
  deriving Repr, DecidableEq

namespace PerMap

def get {α : Type} (m : PerMap α) : MapKind → α
  | .enforceLiteral => m.enforceLiteral
  | .enforcePattern => m.enforcePattern
  | .testLiteral => m.testLiteral
  | .testPattern => m.testPattern

def ofFn {α : Type} (f : MapKind → α) : PerMap α :=
  ⟨f .enforceLiteral, f .enforcePattern, f .testLiteral, f .testPattern⟩

@[simp] theorem get_ofFn {α : Type} (f : MapKind → α) (kind : MapKind) :
    (ofFn f).get kind = f kind := by
  cases kind <;> rfl

@[ext] theorem ext {α : Type} {a b : PerMap α} (h : ∀ kind, a.get kind = b.get kind) : a = b := by
  cases a; cases b
  simpa [get] using And.intro (h .enforceLiteral)
    (And.intro (h .enforcePattern) (And.intro (h .testLiteral) (h .testPattern)))

end PerMap

abbrev MapPaths := PerMap String

def MapKind.fileName : MapKind → String
  | .enforceLiteral => "blocked_recipients"
  | .enforcePattern => "blocked_recipients.pattern"
  | .testLiteral => "blocked_recipients_test"
  | .testPattern => "blocked_recipients_test.pattern"

def MapPaths.inDir (dir : String) : MapPaths := PerMap.ofFn fun kind => Path.join dir kind.fileName

end BlocklistSync
