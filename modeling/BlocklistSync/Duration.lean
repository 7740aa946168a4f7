import BlocklistSync.Number.Binary64
import BlocklistSync.Number.Shortest

/-! Lengths of time, exact to the nanosecond, up to the longest that 64 bits of seconds can hold. -/
namespace BlocklistSync

def nanosPerSecond : Nat := 1000000000
def nanosPerMilli : Nat := 1000000

/-- Nanoseconds in the longest duration, one less than `2 ^ 64` seconds. -/
def Duration.limit : Nat := UInt64.size * nanosPerSecond - 1

structure Duration where
  nanos : Nat
  nanos_le : nanos ≤ Duration.limit

namespace Duration

instance : DecidableEq Duration := fun a b =>
  if h : a.nanos = b.nanos then isTrue (by cases a; cases b; simp_all)
  else isFalse fun e => h (e ▸ rfl)

instance : Repr Duration := ⟨fun d _ => repr d.nanos⟩

@[ext] theorem ext {a b : Duration} (h : a.nanos = b.nanos) : a = b := by
  cases a; cases b; simp_all

/-- Longer lengths saturate. -/
def ofNanos (n : Nat) : Duration := ⟨min n limit, Nat.min_le_right ..⟩

def ofMillis (ms : UInt64) : Duration :=
  ⟨ms.toNat * nanosPerMilli, by
    have := ms.toNat_lt
    simp only [limit, nanosPerMilli, nanosPerSecond, UInt64.size]
    omega⟩

def ofSeconds (s : Nat) : Duration := ofNanos (s * nanosPerSecond)

instance : Inhabited Duration := ⟨ofNanos 0⟩

def seconds (d : Duration) : Nat := d.nanos / nanosPerSecond

def subsecond (d : Duration) : Nat := d.nanos % nanosPerSecond

def ceilMillis (d : Duration) : Nat := (d.nanos + nanosPerMilli - 1) / nanosPerMilli

protected def min (a b : Duration) : Duration := if a.nanos ≤ b.nanos then a else b

protected def max (a b : Duration) : Duration := if a.nanos ≤ b.nanos then b else a

def double (d : Duration) : Duration := ofNanos (2 * d.nanos)

@[simp] theorem nanos_ofNanos (n : Nat) : (ofNanos n).nanos = min n limit := rfl

@[simp] theorem nanos_ofMillis (ms : UInt64) : (ofMillis ms).nanos = ms.toNat * nanosPerMilli := rfl

@[simp] theorem nanos_min (a b : Duration) : (a.min b).nanos = Nat.min a.nanos b.nanos := by
  simp only [Duration.min, Nat.min_def]
  split <;> rfl

@[simp] theorem nanos_max (a b : Duration) : (a.max b).nanos = Nat.max a.nanos b.nanos := by
  simp only [Duration.max, Nat.max_def]
  split <;> rfl

@[simp] theorem nanos_double (d : Duration) : d.double.nanos = min (2 * d.nanos) limit := rfl

inductive SecondsError
  | negative
  | outOfRange
  deriving Repr, DecidableEq

def SecondsError.message : SecondsError → String
  | .negative => "cannot convert float seconds to Duration: value is negative"
  | .outOfRange => "cannot convert float seconds to Duration: value is either too big or NaN"

/-- A number of seconds, rounded to the nearest nanosecond, a tie to the even one. -/
def ofBinarySeconds : Number.Binary64 → Except SecondsError Duration
  | .nan => .error .outOfRange
  | .infinite true => .error .negative
  | .infinite false => .error .outOfRange
  | .finite negative mantissa exponent =>
    let (n, d) := Number.scaleBy mantissa 1 exponent
    if negative && mantissa != 0 then .error .negative
    else if UInt64.size * d ≤ n then .error .outOfRange
    else .ok (ofNanos (Number.roundHalfEven (n * nanosPerSecond) d))

/-- Digits after the point, `width` of them less the trailing zeros. -/
def fractionText (width n : Nat) : String :=
  let digits := (Nat.toDigits 10 (Nat.pow 10 width + n)).drop 1
  let kept := (digits.reverse.dropWhile (· = '0')).reverse
  if kept.isEmpty then "" else "." ++ String.ofList kept

/-- In the largest unit of which there is at least one, with as many decimals as it takes. -/
def toText (d : Duration) : String :=
  let inUnit (width : Nat) (name : String) :=
    s!"{d.nanos / Nat.pow 10 width}{fractionText width (d.nanos % Nat.pow 10 width)}{name}"
  if nanosPerSecond ≤ d.nanos then inUnit 9 "s"
  else if nanosPerMilli ≤ d.nanos then inUnit 6 "ms"
  else if 1000 ≤ d.nanos then inUnit 3 "µs"
  else inUnit 0 "ns"

end Duration
end BlocklistSync
