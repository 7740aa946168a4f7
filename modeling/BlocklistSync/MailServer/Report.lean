import BlocklistSync.Fault

/-! What came of handing the maps to the mail server. -/
namespace BlocklistSync

inductive StepOutcome
  | done
  | skipped (why : String)
  | failed (fault : Fault)
  deriving Repr, DecidableEq

def StepOutcome.isFailed : StepOutcome → Bool
  | .failed _ => true
  | _ => false

structure ApplyReport where
  indexing : List (String × StepOutcome)
  reload : StepOutcome
  deriving Repr, DecidableEq

namespace ApplyReport

def failures (r : ApplyReport) : Nat :=
  r.indexing.countP (·.2.isFailed) + r.reload.isFailed.toNat

def isSuccess (r : ApplyReport) : Bool := r.failures == 0

end ApplyReport
end BlocklistSync
