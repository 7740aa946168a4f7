import BlocklistSync.Duration

/-! Delays between the tries of a store call: the first is `initial`, each failure doubles the next
one, and none exceeds `ceiling`. There is no last try. -/
namespace BlocklistSync

structure Backoff where
  initial : Duration
  ceiling : Duration
  current : Duration
  /-- Failures since the last reset. -/
  attempts : UInt64

namespace Backoff

/-- An initial delay above the ceiling is cut to it. -/
def new (initial ceiling : Duration) : Backoff :=
  let first := initial.min ceiling
  ⟨first, ceiling, first, 0⟩

/-- Counts a failure; the delay to wait after it is `current` before. -/
def failed (b : Backoff) : Backoff :=
  { b with current := b.current.double.min b.ceiling, attempts := b.attempts + 1 }

def reset (b : Backoff) : Backoff := { b with current := b.initial, attempts := 0 }

@[simp] theorem initial_failed (b : Backoff) : b.failed.initial = b.initial := rfl
@[simp] theorem ceiling_failed (b : Backoff) : b.failed.ceiling = b.ceiling := rfl
@[simp] theorem attempts_failed (b : Backoff) : b.failed.attempts = b.attempts + 1 := rfl
@[simp] theorem attempts_reset (b : Backoff) : b.reset.attempts = 0 := rfl
@[simp] theorem reset_failed (b : Backoff) : b.failed.reset = b.reset := rfl
@[simp] theorem reset_reset (b : Backoff) : b.reset.reset = b.reset := rfl

/-- The failures that are logged as warnings: the first, second, fourth, eighth and so on. -/
def isLoud (attempt : UInt64) : Bool := attempt != 0 && attempt &&& (attempt - 1) == 0

end Backoff
end BlocklistSync
