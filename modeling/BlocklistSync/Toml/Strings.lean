import BlocklistSync.Toml.Blank

/-! Quoted strings of TOML: on one line or several, with escapes or taken literally. -/
namespace BlocklistSync.Toml

def hexValue? (c : Char) : Option Nat :=
  if '0' ≤ c && c ≤ '9' then some (c.toNat - '0'.toNat)
  else if 'a' ≤ c && c ≤ 'f' then some (c.toNat - 'a'.toNat + 10)
  else if 'A' ≤ c && c ≤ 'F' then some (c.toNat - 'A'.toNat + 10)
  else none

def hexNumber? (cs : List Char) : Option Nat :=
  cs.foldlM (fun n c => (hexValue? c).map (n * 16 + ·)) 0

/-- A character given by its code point in `width` hexadecimal digits. -/
def codePoint (width : Nat) (cs : List Char) : Option (Char × List Char) := do
  let digits := cs.take width
  guard (digits.length = width)
  let n ← hexNumber? digits
  guard (n.isValidChar)
  return (Char.ofNat n, cs.drop width)

/-- What follows a backslash. -/
def escape : List Char → Option (Char × List Char)
  | 'b' :: rest => some ('\x08', rest)
  | 'f' :: rest => some ('\x0c', rest)
  | 'n' :: rest => some ('\n', rest)
  | 'r' :: rest => some ('\r', rest)
  | 't' :: rest => some ('\t', rest)
  | '"' :: rest => some ('"', rest)
  | '\\' :: rest => some ('\\', rest)
  | 'u' :: rest => codePoint 4 rest
  | 'U' :: rest => codePoint 8 rest
  | _ => none

def basicBody : Nat → List Char → Option (List Char × List Char)
  | 0, _ => none
  | _, '"' :: rest => some ([], rest)
  | fuel + 1, '\\' :: rest => do
    let (c, rest) ← escape rest
    let (cs, rest) ← basicBody fuel rest
    return (c :: cs, rest)
  | fuel + 1, c :: rest => do
    guard (isPlain c)
    let (cs, rest) ← basicBody fuel rest
    return (c :: cs, rest)
  | _, [] => none

def literalBody (cs : List Char) : Option (List Char × List Char) :=
  match cs.dropWhile fun c => isPlain c && c ≠ '\'' with
  | '\'' :: rest => some (cs.takeWhile fun c => isPlain c && c ≠ '\'', rest)
  | _ => none

/-- The end of a string on several lines: up to two quotes of its own, then three that close it. -/
def closing? (quote : Char) (cs : List Char) : Option (List Char × List Char) :=
  let run := (cs.takeWhile (· = quote)).length
  if run < 3 then none
  else
    let own := min (run - 3) 2
    some (List.replicate own quote, cs.drop (own + 3))

/-- Skips blanks and line ends, but no carriage return that stands alone. -/
def skipBreaks : List Char → List Char
  | '\r' :: '\n' :: rest => skipBreaks rest
  | c :: rest => if isSpace c || c = '\n' then skipBreaks rest else c :: rest
  | [] => []

def multilineBody (quote : Char) (escapes : Bool) : Nat → List Char → Option (List Char × List Char)
  | 0, _ => none
  | fuel + 1, cs =>
    match closing? quote cs with
    | some r => some r
    | none => match cs with
      | [] => none
      | c :: rest =>
        if escapes && c = '\\' then
          match afterNewline? (skipSpaces rest) with
          | some _ =>
            multilineBody quote escapes fuel (skipBreaks rest)
          | none => do
            let (c, rest) ← escape rest
            let (cs, rest) ← multilineBody quote escapes fuel rest
            return (c :: cs, rest)
        else match afterNewline? cs with
          | some rest => do
            let (cs, rest) ← multilineBody quote escapes fuel rest
            return ('\n' :: cs, rest)
          | none => do
            guard (isPlain c)
            let (cs, rest) ← multilineBody quote escapes fuel rest
            return (c :: cs, rest)

/-- A line end right after the opening quotes does not count. -/
def dropFirstNewline (cs : List Char) : List Char := (afterNewline? cs).getD cs

def inline? : Reader String
  | '"' :: rest => (basicBody (rest.length + 1) rest).map fun (cs, rest) => (String.ofList cs, rest)
  | '\'' :: rest => (literalBody rest).map fun (cs, rest) => (String.ofList cs, rest)
  | _ => none

def string? : Reader String := fun cs =>
  let several (quote : Char) (rest : List Char) : Option (String × List Char) :=
    (multilineBody quote (quote = '"') (rest.length + 1) (dropFirstNewline rest)).map
      fun (cs, rest) => (String.ofList cs, rest)
  match cs with
  | '"' :: '"' :: '"' :: rest => several '"' rest
  | '\'' :: '\'' :: '\'' :: rest => several '\'' rest
  | cs => inline? cs

end BlocklistSync.Toml
