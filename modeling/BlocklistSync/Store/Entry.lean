import BlocklistSync.Calendar.Moment
import BlocklistSync.Text.Utf8

/-! Rules of the blocklist, and the cheap marker by which a change of the list is noticed. -/
namespace BlocklistSync

structure Entry where
  id : Int
  pattern : String
  isRegex : Bool
  testMode : Bool
  updatedAt : Option Calendar.Moment
  deriving Repr, DecidableEq

namespace Entry

/-- A new entry is in test mode, so that its effect can be watched before anything is rejected. -/
def new (id : Int) (pattern : String) (isRegex : Bool) : Entry :=
  ⟨id, pattern, isRegex, true, none⟩

def enforced (e : Entry) : Entry := { e with testMode := false }

/-- Ascending bytes of the pattern, then ascending ids. -/
def le (a b : Entry) : Bool :=
  match compare (Text.Utf8.encode a.pattern) (Text.Utf8.encode b.pattern) with
  | .lt => true
  | .gt => false
  | .eq => a.id ≤ b.id

end Entry

/-- The number of rows and the rendered maximum of their stamps. Only equality counts. -/
structure Fingerprint where
  rowCount : Nat
  newest : Option String
  deriving Repr, DecidableEq

def Fingerprint.toText (f : Fingerprint) : String :=
  let newest := f.newest.getD "-"
  s!"({f.rowCount}, {newest})"

end BlocklistSync
