import BlocklistSync.Number.Decimal

/-! Double-width binary numbers, kept as exact mantissa and exponent. Reading a decimal rounds to
the nearest, a tie to the even mantissa. -/
namespace BlocklistSync.Number

/-- A finite number is `mantissa * 2 ^ exponent` with the sign apart, so that zero has two forms. -/
inductive Binary64
  | finite (negative : Bool) (mantissa : Nat) (exponent : Int)
  | infinite (negative : Bool)
  | nan
  deriving Repr, DecidableEq

/-- The nearest integer to `num / den`, a tie to the even one. -/
def roundHalfEven (num den : Nat) : Nat :=
  let q := num / den
  let r := num % den
  if 2 * r < den then q else if den < 2 * r then q + 1 else q + q % 2

theorem roundHalfEven_within_half (num den : Nat) (h : 0 < den) :
    2 * num ≤ (2 * roundHalfEven num den + 1) * den ∧
      2 * roundHalfEven num den * den ≤ 2 * num + den := by
  have split_num := Nat.div_add_mod num den
  have rest_lt := Nat.mod_lt num h
  have parity := Nat.mod_two_eq_zero_or_one (num / den)
  simp only [roundHalfEven]
  generalize num / den = q at *
  generalize num % den = r at *
  subst split_num
  rcases parity with even | odd
  · rw [even]
    split <;> (try split) <;>
      simp only [Nat.add_mul, Nat.mul_add, Nat.mul_assoc, Nat.mul_comm den q] <;> omega
  · rw [odd]
    split <;> (try split) <;>
      simp only [Nat.add_mul, Nat.mul_add, Nat.mul_assoc, Nat.mul_comm den q] <;> omega

/-- `num / den` times `2 ^ shift`, as a quotient. -/
def scaleBy (num den : Nat) (shift : Int) : Nat × Nat :=
  if 0 ≤ shift then (num * Nat.pow 2 shift.toNat, den)
  else (num, den * Nat.pow 2 (-shift).toNat)

namespace Binary64

def minExponent : Int := -1074
def maxExponent : Int := 971
def mantissaLimit : Nat := Nat.pow 2 53

def zero (negative : Bool) : Binary64 := .finite negative 0 minExponent

/-- The exponent at which `num / den` has a mantissa of full width, but no less than the
smallest. -/
def exponentFor (num den : Nat) : Int :=
  let guess : Int := (num.log2 : Int) - den.log2 - 53
  let (n, d) := scaleBy num den (-guess)
  max minExponent (if mantissaLimit * d ≤ n then guess + 1 else guess)

def ofRatio (negative : Bool) (num den : Nat) : Binary64 :=
  if num = 0 then zero negative
  else
    let e := exponentFor num den
    let (n, d) := scaleBy num den (-e)
    let m := roundHalfEven n d
    let (m, e) := if m = mantissaLimit then (m / 2, e + 1) else (m, e)
    if maxExponent < e then .infinite negative else .finite negative m e

/-- Powers of ten far outside the range are settled without computing them. -/
def ofDecimal (d : Decimal) : Binary64 :=
  let size : Int := (Nat.toDigits 10 d.coefficient).length + d.exponent
  if d.coefficient = 0 || size < -400 then zero d.negative
  else if 400 < size then .infinite d.negative
  else if 0 ≤ d.exponent then ofRatio d.negative (d.coefficient * Nat.pow 10 d.exponent.toNat) 1
  else ofRatio d.negative d.coefficient (Nat.pow 10 (-d.exponent).toNat)

def ofDecimalText : DecimalText → Binary64
  | .number d => ofDecimal d
  | .infinity negative => .infinite negative
  | .notANumber => .nan

def read (s : String) : Except DecimalError Binary64 := (readDecimal s).map ofDecimalText

def ofInt (i : Int) : Binary64 := ofRatio (i < 0) i.natAbs 1

def compareScaled (a : Int) (x : Int) (b : Int) (y : Int) : Ordering :=
  let low := min x y
  compare (a * Nat.pow 2 (x - low).toNat) (b * Nat.pow 2 (y - low).toNat)

def signed (negative : Bool) (m : Nat) : Int := if negative then -(m : Int) else m

/-- Exact order; a number that is none stands below all others. -/
def order : Binary64 → Binary64 → Ordering
  | .finite s m e, .finite t n f => compareScaled (signed s m) e (signed t n) f
  | .infinite s, .infinite t => compare t.toNat s.toNat
  | .infinite s, .finite .. => if s then .lt else .gt
  | .finite .., .infinite t => if t then .gt else .lt
  | .nan, .nan => .eq
  | .nan, _ => .lt
  | _, .nan => .gt

def orderInt (x : Binary64) (i : Int) : Ordering :=
  match x with
  | .finite s m e => compareScaled (signed s m) e i 0
  | .infinite s => if s then .lt else .gt
  | .nan => .lt

end Binary64
end BlocklistSync.Number
