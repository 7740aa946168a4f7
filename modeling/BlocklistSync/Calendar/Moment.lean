import BlocklistSync.Calendar.Date

/-! Moments to the nanosecond, without a time zone. -/
namespace BlocklistSync.Calendar

/-- Nanoseconds from a whole second on belong to a leap second, which follows `second`. -/
structure Moment where
  dayNumber : Int
  second : Nat
  nanos : Nat
  deriving Repr, DecidableEq

def leapNanos : Nat := 1000000000

def secondsPerDay : Nat := 86400

namespace Moment

def epoch : Moment := ⟨0, 0, 0⟩

def firstYear : Int := -262143
def lastYear : Int := 262142

/-- The dates that moments are kept for. -/
def InRange (dayNumber : Int) : Prop :=
  firstYear ≤ (Date.ofNumber dayNumber).year ∧ (Date.ofNumber dayNumber).year ≤ lastYear

instance (n : Int) : Decidable (InRange n) := inferInstanceAs (Decidable (_ ∧ _))

def ofSeconds (seconds : Int) (nanos : Nat) : Moment :=
  ⟨seconds / secondsPerDay, (seconds % secondsPerDay).toNat, nanos⟩

def ofSeconds? (seconds : Int) : Option Moment :=
  if InRange (seconds / secondsPerDay) then some (ofSeconds seconds 0) else none

/-- Seconds since the start of 1970, a leap second counted with the second before it. -/
def toSeconds (m : Moment) : Int := m.dayNumber * secondsPerDay + m.second

def addSeconds (m : Moment) (seconds : Int) : Moment := ofSeconds (m.toSeconds + seconds) m.nanos

instance : Ord Moment where
  compare a b :=
    (compare a.dayNumber b.dayNumber).then
      ((compare a.second b.second).then (compare a.nanos b.nanos))

def padded (width n : Nat) : String :=
  let digits := toString n
  String.ofList (List.replicate (width - digits.length) '0') ++ digits

/-- Four digits; years that need more, or stand before the year 0, carry a sign. -/
def yearText (year : Int) : String :=
  if 0 ≤ year && year ≤ 9999 then padded 4 year.toNat
  else (if year < 0 then "-" else "+") ++ padded 4 year.natAbs

/-- No fraction, or three, six or nine digits, the fewest that are exact. -/
def fractionText (nanos : Nat) : String :=
  if nanos = 0 then ""
  else if nanos % 1000000 = 0 then "." ++ padded 3 (nanos / 1000000)
  else if nanos % 1000 = 0 then "." ++ padded 6 (nanos / 1000)
  else "." ++ padded 9 nanos

def toText (m : Moment) : String :=
  let d := Date.ofNumber m.dayNumber
  let (second, nanos) :=
    if leapNanos ≤ m.nanos then (m.second % 60 + 1, m.nanos - leapNanos)
      else (m.second % 60, m.nanos)
  s!"{yearText d.year}-{padded 2 d.month}-{padded 2 d.day} " ++
    s!"{padded 2 (m.second / 3600)}:{padded 2 (m.second / 60 % 60)}:{padded 2 second}" ++
    fractionText nanos

end Moment
end BlocklistSync.Calendar
