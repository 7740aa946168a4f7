import BlocklistSync.Calendar.Moment
import BlocklistSync.Number.Decimal

/-! Moments read from text: the internet date-time form with a zone, and the plain forms with a
blank or a `T` between date and time. The plain forms are lax about widths and white space. -/
namespace BlocklistSync.Calendar.Timestamp
open BlocklistSync.Text BlocklistSync.Number

abbrev Reader (α : Type) := List Char → Option (α × List Char)

def exactDigits (n : Nat) : Reader Nat := fun cs =>
  let digits := cs.take n
  if digits.length = n && digits.all isDigit then some (naturalOfDigits digits, cs.drop n) else none

def someDigits (n : Nat) : Reader Nat := fun cs =>
  let digits := (cs.take n).takeWhile isDigit
  if digits.isEmpty then none else some (naturalOfDigits digits, cs.drop digits.length)

def literal (c : Char) : Reader Unit
  | d :: rest => if d = c then some ((), rest) else none
  | [] => none

/-- The fraction of a second in nanoseconds; digits past the ninth are dropped. -/
def fraction : Reader Nat
  | '.' :: rest =>
    let digits := rest.takeWhile isDigit
    if digits.isEmpty then none
    else
      let kept := digits.take 9
      some (naturalOfDigits kept * Nat.pow 10 (9 - kept.length), rest.dropWhile isDigit)
  | cs => some (0, cs)

/-- Clock readings of one day; the second 60 is a leap second. -/
structure TimeOfDay where
  hour : Nat
  minute : Nat
  second : Nat
  nanos : Nat
  deriving Repr, DecidableEq

def TimeOfDay.Valid (t : TimeOfDay) : Prop := t.hour ≤ 23 ∧ t.minute ≤ 59 ∧ t.second ≤ 60

instance (t : TimeOfDay) : Decidable t.Valid := inferInstanceAs (Decidable (_ ∧ _ ∧ _))

def moment? (d : Date) (t : TimeOfDay) : Option Moment :=
  if d.Valid ∧ t.Valid ∧ Moment.firstYear ≤ d.year ∧ d.year ≤ Moment.lastYear then
    let (second, nanos) := if t.second = 60 then (59, t.nanos + leapNanos) else (t.second, t.nanos)
    some ⟨d.number, t.hour * 3600 + t.minute * 60 + second, nanos⟩
  else none

def zone : Reader Int
  | [] => none
  | sign :: cs =>
    if sign = 'Z' || sign = 'z' then some (0, cs)
    else do
      let negative ← if sign = '-' || sign = '−' then some true
        else if sign = '+' then some false else none
      let (hours, cs) ← exactDigits 2 cs
      let ((), cs) ← literal ':' cs
      let (minutes, cs) ← exactDigits 2 cs
      guard (hours ≤ 23 && minutes ≤ 59)
      let ahead : Int := hours * 3600 + minutes * 60
      return (if negative then -ahead else ahead, cs)

def zoned? (cs : List Char) : Option Moment := do
  let (year, cs) ← exactDigits 4 cs
  let ((), cs) ← literal '-' cs
  let (month, cs) ← exactDigits 2 cs
  let ((), cs) ← literal '-' cs
  let (day, cs) ← exactDigits 2 cs
  let cs ← match cs with
    | c :: rest => if c = 'T' || c = 't' || c = ' ' then some rest else none
    | [] => none
  let (hour, cs) ← exactDigits 2 cs
  let ((), cs) ← literal ':' cs
  let (minute, cs) ← exactDigits 2 cs
  let ((), cs) ← literal ':' cs
  let (second, cs) ← exactDigits 2 cs
  let (nanos, cs) ← fraction cs
  let (ahead, cs) ← zone cs
  guard cs.isEmpty
  let m ← moment? ⟨year, month, day⟩ ⟨hour, minute, second, nanos⟩
  return m.addSeconds (-ahead)

def skipBlanks (cs : List Char) : List Char := cs.dropWhile isBlank

/-- A year with a sign may have any number of digits, one without at most four. -/
def laxYear (cs : List Char) : Option (Int × List Char) :=
  match skipBlanks cs with
  | '-' :: rest => (someDigits rest.length rest).map fun (n, r) => (-(n : Int), r)
  | '+' :: rest => (someDigits rest.length rest).map fun (n, r) => ((n : Int), r)
  | rest => (someDigits 4 rest).map fun (n, r) => ((n : Int), r)

def laxField (cs : List Char) : Option (Nat × List Char) := someDigits 2 (skipBlanks cs)

/-- What stands between date and time. -/
inductive Separator
  | blank
  | letter
  deriving Repr, DecidableEq

def Separator.skip : Separator → Reader Unit
  | .blank, cs => some ((), skipBlanks cs)
  | .letter, cs => literal 'T' cs

def plain? (separator : Separator) (cs : List Char) : Option Moment := do
  let (year, cs) ← laxYear cs
  let ((), cs) ← literal '-' cs
  let (month, cs) ← laxField cs
  let ((), cs) ← literal '-' cs
  let (day, cs) ← laxField cs
  let ((), cs) ← separator.skip cs
  let (hour, cs) ← laxField cs
  let ((), cs) ← literal ':' cs
  let (minute, cs) ← laxField cs
  let ((), cs) ← literal ':' cs
  let (second, cs) ← laxField cs
  let (nanos, cs) ← fraction cs
  guard cs.isEmpty
  moment? ⟨year, month, day⟩ ⟨hour, minute, second, nanos⟩

def read? (s : String) : Option Moment :=
  let cs := trimChars s.toList
  zoned? cs <|> plain? .blank cs <|> plain? .letter cs

end BlocklistSync.Calendar.Timestamp
