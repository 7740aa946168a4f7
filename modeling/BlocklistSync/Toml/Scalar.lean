import BlocklistSync.Calendar.Date
import BlocklistSync.Toml.Strings

/-! Numbers, truth values, dates and times of TOML. -/
namespace BlocklistSync.Toml
open BlocklistSync.Text BlocklistSync.Number

/-- Digits, an underscore allowed between two of them; the underscores are dropped. -/
def digitRun (isDigit : Char → Bool) : List Char → Option (List Char × List Char)
  | [] => none
  | c :: rest =>
    if !isDigit c then none
    else
      let rec more (c : Char) : List Char → Option (List Char × List Char)
        | [] => some ([c], [])
        | '_' :: d :: rest => do
          guard (isDigit d)
          let (ds, rest) ← more d rest
          return (c :: ds, rest)
        | d :: rest =>
          if d = '_' then none
          else if isDigit d then (more d rest).map fun (ds, rest) => (c :: ds, rest)
          else some ([c], d :: rest)
      more c rest

/-- A decimal number has no zero in front of other digits. -/
def decimalRun : List Char → Option (List Char × List Char)
  | '0' :: rest => some (['0'], rest)
  | cs => digitRun isDigit cs

def int64Min : Int := -Nat.pow 2 63
def int64Max : Int := Nat.pow 2 63 - 1

def radixInteger (radix : Nat) (cs : List Char) : Option (Value × List Char) := do
  let isDigit := fun c => (hexValue? c).any (· < radix)
  let (digits, rest) ← digitRun isDigit cs
  let n := digits.foldl (fun n c => n * radix + (hexValue? c).getD 0) 0
  guard ((n : Int) ≤ int64Max)
  return (.integer n, rest)

def integer? : Reader Value
  | '0' :: 'x' :: rest => radixInteger 16 rest
  | '0' :: 'o' :: rest => radixInteger 8 rest
  | '0' :: 'b' :: rest => radixInteger 2 rest
  | cs => do
    let (negative, cs) := takeSign cs
    let (digits, rest) ← decimalRun cs
    let n : Int := naturalOfDigits digits
    let i := if negative then -n else n
    guard (int64Min ≤ i && i ≤ int64Max)
    return (.integer i, rest)

def exponentPart (cs : List Char) : Option (Int × List Char) :=
  match cs with
  | c :: rest =>
    if c = 'e' || c = 'E' then do
      let (negative, cs) := takeSign rest
      let (digits, rest) ← digitRun isDigit cs
      let n : Int := naturalOfDigits digits
      return (if negative then -n else n, rest)
    else none
  | [] => none

def fractionPart : List Char → Option (List Char × List Char)
  | '.' :: rest => digitRun isDigit rest
  | _ => none

/-- A number with a fraction, an exponent or both. One beyond the largest finite number is refused,
one below the smallest is minus infinity. -/
def decimalFloat? (cs : List Char) : Option (Value × List Char) := do
  let (negative, cs) := takeSign cs
  let (whole, afterWhole) ← decimalRun cs
  let (decimal, rest) ← match fractionPart afterWhole with
    | some (fraction, rest) => match exponentPart rest with
      | some (e, rest) => some (Decimal.ofParts negative whole fraction e, rest)
      | none => some (Decimal.ofParts negative whole fraction 0, rest)
    | none => (exponentPart afterWhole).map fun (e, rest) =>
      (Decimal.ofParts negative whole [] e, rest)
  let x := Binary64.ofDecimal decimal
  guard (x ≠ .infinite false)
  return (.float x, rest)

def specialFloat? (cs : List Char) : Option (Value × List Char) :=
  let (negative, cs) := takeSign cs
  match cs with
  | 'i' :: 'n' :: 'f' :: rest => some (.float (.infinite negative), rest)
  | 'n' :: 'a' :: 'n' :: rest => some (.float .nan, rest)
  | _ => none

def boolean? : Reader Value
  | 't' :: 'r' :: 'u' :: 'e' :: rest => some (.boolean true, rest)
  | 'f' :: 'a' :: 'l' :: 's' :: 'e' :: rest => some (.boolean false, rest)
  | _ => none

def fixedNumber (width : Nat) (least most : Nat) (cs : List Char) : Option (Nat × List Char) := do
  let digits := cs.take width
  guard (digits.length = width && digits.all isDigit)
  let n := naturalOfDigits digits
  guard (least ≤ n && n ≤ most)
  return (n, cs.drop width)

def symbol (c : Char) : List Char → Option (List Char)
  | d :: rest => if c = d then some rest else none
  | [] => none

def skipDate (cs : List Char) : Option (List Char) := do
  let (year, cs) ← fixedNumber 4 0 9999 cs
  let cs ← symbol '-' cs
  let (month, cs) ← fixedNumber 2 1 12 cs
  let cs ← symbol '-' cs
  let (_, cs) ← fixedNumber 2 1 (Calendar.daysInMonth year month) cs
  return cs

def skipTime (cs : List Char) : Option (List Char) := do
  let (_, cs) ← fixedNumber 2 0 23 cs
  let cs ← symbol ':' cs
  let (_, cs) ← fixedNumber 2 0 59 cs
  let cs ← symbol ':' cs
  let (_, cs) ← fixedNumber 2 0 60 cs
  match cs with
  | '.' :: rest =>
    if (rest.takeWhile isDigit).isEmpty then return cs else return rest.dropWhile isDigit
  | _ => return cs

def skipZone : List Char → Option (List Char)
  | [] => none
  | c :: rest =>
    if c = 'Z' || c = 'z' then some rest
    else if c = '+' || c = '-' then do
      let (_, cs) ← fixedNumber 2 0 23 rest
      let cs ← symbol ':' cs
      let (_, cs) ← fixedNumber 2 0 59 cs
      return cs
    else none

def dateTime? (cs : List Char) : Option (Value × List Char) :=
  let taken (rest : List Char) : Value × List Char :=
    (.dateTime (String.ofList (cs.take (cs.length - rest.length))), rest)
  match skipDate cs with
  | some afterDate =>
    let afterTime := match afterDate with
      | c :: rest => if c = 'T' || c = 't' || c = ' ' then skipTime rest else none
      | [] => none
    match afterTime with
    | some rest => some (taken ((skipZone rest).getD rest))
    | none => some (taken afterDate)
  | none => (skipTime cs).map taken

def number? (cs : List Char) : Option (Value × List Char) :=
  dateTime? cs <|> decimalFloat? cs <|> specialFloat? cs <|> integer? cs

end BlocklistSync.Toml
