import BlocklistSync.Text.Classes

/-! Decimal numbers as written: a sign, a coefficient and a power of ten, or one of the words for
infinity and for no number. -/
namespace BlocklistSync.Number

/-- The value `coefficient * 10 ^ exponent`, negated if `negative`. -/
structure Decimal where
  negative : Bool
  coefficient : Nat
  exponent : Int
  deriving Repr, DecidableEq

inductive DecimalText
  | number (value : Decimal)
  | infinity (negative : Bool)
  | notANumber
  deriving Repr, DecidableEq

inductive DecimalError
  | empty
  | invalid
  deriving Repr, DecidableEq

def DecimalError.message : DecimalError → String
  | .empty => "cannot parse float from empty string"
  | .invalid => "invalid float literal"

def naturalOfDigits (cs : List Char) : Nat :=
  cs.foldl (fun n c => n * 10 + Text.digitValue c) 0

def takeSign : List Char → Bool × List Char
  | '-' :: rest => (true, rest)
  | '+' :: rest => (false, rest)
  | cs => (false, cs)

/-- `whole` before the point, `fraction` after it, scaled by a power of ten. -/
def Decimal.ofParts (negative : Bool) (whole fraction : List Char) (exponent : Int) : Decimal :=
  ⟨negative, naturalOfDigits (whole ++ fraction), exponent - fraction.length⟩

def readExponent? : List Char → Option Int
  | [] => some 0
  | c :: rest =>
    if c = 'e' || c = 'E' then
      let (negative, digits) := takeSign rest
      if digits.isEmpty || !digits.all Text.isDigit then none
      else some (if negative then -(naturalOfDigits digits : Int) else naturalOfDigits digits)
    else none

/-- Digits with an optional point, at least one digit in all, then an optional exponent. -/
def readMagnitude? (negative : Bool) (cs : List Char) : Option Decimal := do
  let whole := cs.takeWhile Text.isDigit
  let afterWhole := cs.dropWhile Text.isDigit
  let (fraction, rest) := match afterWhole with
    | '.' :: more => (more.takeWhile Text.isDigit, more.dropWhile Text.isDigit)
    | _ => ([], afterWhole)
  guard (!(whole.isEmpty && fraction.isEmpty))
  return .ofParts negative whole fraction (← readExponent? rest)

def readDecimal (s : String) : Except DecimalError DecimalText :=
  if s.isEmpty then .error .empty
  else
    let (negative, cs) := takeSign s.toList
    let word := String.ofList (cs.map Char.toLower)
    if word = "inf" || word = "infinity" then .ok (.infinity negative)
    else if word = "nan" then .ok .notANumber
    else match readMagnitude? negative cs with
      | some d => .ok (.number d)
      | none => .error .invalid

end BlocklistSync.Number
