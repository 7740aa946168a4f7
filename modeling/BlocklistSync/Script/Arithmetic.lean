/-! Whole-number expressions in scripts. Operators come in ranks, the loosest first; those of one
rank group from the left. -/
namespace BlocklistSync.Script.Arithmetic

inductive Token
  | number (n : Int)
  | symbol (text : String)

abbrev Rank := List (String × (Int → Int → Option Int))

def ofBool (b : Bool) : Option Int := some (if b then 1 else 0)

def ranks : List Rank :=
  [[("||", fun a b => ofBool (a ≠ 0 || b ≠ 0))],
   [("&&", fun a b => ofBool (a ≠ 0 && b ≠ 0))],
   [("==", fun a b => ofBool (a = b)), ("!=", fun a b => ofBool (a ≠ b))],
   [("<=", fun a b => ofBool (a ≤ b)), (">=", fun a b => ofBool (b ≤ a)),
    ("<", fun a b => ofBool (a < b)), (">", fun a b => ofBool (b < a))],
   [("+", fun a b => some (a + b)), ("-", fun a b => some (a - b))],
   [("*", fun a b => some (a * b)), ("/", fun a b => if b = 0 then none else some (a.tdiv b)),
    ("%", fun a b => if b = 0 then none else some (a.tmod b))]]

def symbols : List String :=
  ["||", "&&", "==", "!=", "<=", ">=", "<", ">", "+", "-", "*", "/", "%", "(", ")", "!"]

/-- A name stands for the number that it has. -/
def tokens (number : String → Int) : Nat → List Char → Option (List Token)
  | _, [] => some []
  | 0, _ => none
  | fuel + 1, c :: rest =>
    let run (p : Char → Bool) : List Char := (c :: rest).takeWhile p
    if c = ' ' || c = '\t' || c = '\n' then tokens number fuel rest
    else if c.isDigit then
      let digits := run Char.isDigit
      let n := digits.foldl (fun n d => n * 10 + (d.toNat - '0'.toNat)) 0
      (tokens number fuel ((c :: rest).drop digits.length)).map (Token.number n :: ·)
    else if c.isAlpha || c = '_' then
      let name := run fun d => d.isAlphanum || d = '_'
      (tokens number fuel ((c :: rest).drop name.length)).map
        (Token.number (number (String.ofList name)) :: ·)
    else match symbols.find? fun s => s.toList.isPrefixOf (c :: rest) with
      | some s => (tokens number fuel ((c :: rest).drop s.length)).map (Token.symbol s :: ·)
      | none => none

mutual

/-- The value in front whose operators bind at least as the given ranks do. -/
def operand (fuel : Nat) (rs : List Rank) (ts : List Token) : Option (Int × List Token) :=
  match fuel with
  | 0 => none
  | fuel + 1 =>
    match rs, ts with
    | r :: tighter, ts => do
      let (a, ts) ← operand fuel tighter ts
      further fuel r tighter a ts
    | [], .number n :: ts => some (n, ts)
    | [], .symbol "-" :: ts => (operand fuel [] ts).map fun (n, ts) => (-n, ts)
    | [], .symbol "!" :: ts => (operand fuel [] ts).map fun (n, ts) => (if n = 0 then 1 else 0, ts)
    | [], .symbol "(" :: ts =>
      match operand fuel ranks ts with
      | some (n, .symbol ")" :: ts) => some (n, ts)
      | _ => none
    | [], _ => none

/-- Goes on with operators of the rank, the value so far to their left. -/
def further (fuel : Nat) (r : Rank) (tighter : List Rank) (a : Int) (ts : List Token) :
    Option (Int × List Token) :=
  match fuel with
  | 0 => none
  | fuel + 1 =>
    match ts with
    | .symbol s :: rest =>
      match r.lookup s with
      | some f => do
        let (b, rest) ← operand fuel tighter rest
        further fuel r tighter (← f a b) rest
      | none => some (a, ts)
    | _ => some (a, ts)

end

/-- The value of a whole text; none if it is no expression or divides by zero. -/
def evaluate? (number : String → Int) (text : String) : Option Int := do
  let ts ← tokens number (text.length + 1) text.toList
  match ← operand (20 * (ts.length + 1)) ranks ts with
  | (n, []) => some n
  | _ => none

end BlocklistSync.Script.Arithmetic
