import BlocklistSync.Number.Binary64

/-! Decimal text of a binary number: the fewest digits that read back as the same number, and of
those the digits nearest to it, always written positionally. -/
namespace BlocklistSync.Number

/-- The numbers that round to the same double as `value / unit`: those between `low / unit` and
`high / unit`, the ends included when `closed`. -/
structure Neighbourhood where
  value : Nat
  low : Nat
  high : Nat
  unit : Nat
  closed : Bool

namespace Neighbourhood

/-- Below a power of two the next double is only half as far. -/
def ofFinite (mantissa : Nat) (exponent : Int) : Neighbourhood :=
  let narrow := mantissa = Nat.pow 2 52 && Binary64.minExponent < exponent
  let (n, d) := scaleBy 1 1 (exponent - 2)
  ⟨4 * mantissa * n, (4 * mantissa - if narrow then 1 else 2) * n, (4 * mantissa + 2) * n, d,
    mantissa % 2 == 0⟩

/-- `count * 10 ^ place` reads back as the number. -/
def holds (b : Neighbourhood) (count : Nat) (place : Int) : Bool :=
  let (n, d) := if 0 ≤ place then (count * Nat.pow 10 place.toNat, 1)
    else (count, Nat.pow 10 (-place).toNat)
  let x := n * b.unit
  if b.closed then b.low * d ≤ x && x ≤ b.high * d else b.low * d < x && x < b.high * d

def decimalLength (n : Nat) : Nat := if n = 0 then 0 else (Nat.toDigits 10 n).length

/-- The place of the first significant digit. -/
def leadingPlace (b : Neighbourhood) : Int :=
  if b.unit ≤ b.value then (decimalLength (b.value / b.unit) : Int) - 1
  else -(decimalLength ((b.unit + b.value - 1) / b.value - 1) : Int)

/-- Of the two multiples of `10 ^ place` around the number, the one that reads back; of both the
nearer, a tie upwards. -/
def onGrid? (b : Neighbourhood) (place : Int) : Option Nat :=
  let (n, d) := if 0 ≤ place then (b.value, b.unit * Nat.pow 10 place.toNat)
    else (b.value * Nat.pow 10 (-place).toNat, b.unit)
  let down := n / d
  let upNearer := d ≤ 2 * (n % d)
  match 0 < down && b.holds down place, b.holds (down + 1) place with
  | true, true => some (if upNearer then down + 1 else down)
  | true, false => some down
  | false, true => some (down + 1)
  | false, false => none

def shortest (b : Neighbourhood) : Nat × Int :=
  let place (digits : Nat) : Int := b.leadingPlace - digits
  match (List.range 18).findSome? fun k => (b.onGrid? (place k)).map (·, place k) with
  | some r => r
  | none => (b.value, 0)

end Neighbourhood

/-- `count * 10 ^ place` without an exponent. -/
def positional (count : Nat) (place : Int) : String :=
  let digits := Nat.toDigits 10 count
  if 0 ≤ place then String.ofList (digits ++ List.replicate place.toNat '0')
  else
    let after := (-place).toNat
    let padded := List.replicate (after + 1 - digits.length) '0' ++ digits
    let whole := padded.take (padded.length - after)
    let fraction := (padded.drop (padded.length - after)).reverse.dropWhile (· = '0') |>.reverse
    String.ofList (if fraction.isEmpty then whole else whole ++ '.' :: fraction)

def Binary64.toText : Binary64 → String
  | .finite negative 0 _ => if negative then "-0" else "0"
  | .finite negative m e =>
    let (count, place) := (Neighbourhood.ofFinite m e).shortest
    (if negative then "-" else "") ++ positional count place
  | .infinite negative => if negative then "-inf" else "inf"
  | .nan => "NaN"

end BlocklistSync.Number
