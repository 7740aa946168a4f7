import BlocklistSync.Script.Syntax

/-! Reading of shell scripts. -/
namespace BlocklistSync.Script

/-- The text still to read and the number of the line it starts on. -/
structure Source where
  rest : List Char
  line : Nat

namespace Source

def drop (s : Source) (n : Nat) : Source :=
  ⟨s.rest.drop n, s.line + (s.rest.take n).count '\n'⟩

def isBlank (c : Char) : Bool := c = ' ' || c = '\t'

/-- Blanks, joined lines and a comment do not count. -/
def skipBlanks (s : Source) : Source :=
  let rec go (fuel : Nat) (s : Source) : Source :=
    match fuel, s.rest with
    | fuel + 1, '\\' :: '\n' :: _ => go fuel (s.drop 2)
    | fuel + 1, c :: _ =>
      if isBlank c then go fuel (s.drop 1)
      else if c = '#' then ⟨s.rest.dropWhile (· ≠ '\n'), s.line⟩
      else s
    | _, _ => s
  go s.rest.length s

def skipLines (s : Source) : Source :=
  let rec go (fuel : Nat) (s : Source) : Source :=
    let s := s.skipBlanks
    match fuel, s.rest with
    | fuel + 1, '\n' :: _ => go fuel (s.drop 1)
    | _, _ => s
  go s.rest.length s

def isDelimiter (c : Char) : Bool :=
  isBlank c || c = '\n' || c = ';' || c = '&' || c = '|' || c = '<' || c = '>' || c = '(' || c = ')'

def ahead (s : Source) : String := String.ofList (s.rest.takeWhile fun c => !isDelimiter c)

end Source

def isNameChar (c : Char) : Bool := c.isAlphanum || c = '_'

def isSpecialParameter (c : Char) : Bool :=
  c.isDigit || c = '*' || c = '@' || c = '#' || c = '?' || c = '$'

def reservedEnds : List String := ["then", "else", "elif", "fi", "esac", "do", "done", "\x7d"]

/-- The text in front of the parenthesis that closes `depth` others and itself. -/
def upToClosing : Nat → List Char → Option (List Char)
  | _, [] => none
  | 0, ')' :: _ => some []
  | depth + 1, ')' :: rest => (upToClosing depth rest).map (')' :: ·)
  | depth, '(' :: rest => (upToClosing (depth + 1) rest).map ('(' :: ·)
  | depth, c :: rest => (upToClosing depth rest).map (c :: ·)

def isBackquote (c : Char) : Bool := c.toNat = 0x60

/-- The text up to a closing backquote without its escapes, and the number of characters it
takes. -/
def upToBackquote : List Char → Option (List Char × Nat)
  | [] => none
  | '\\' :: c :: rest =>
    (upToBackquote rest).map fun (inner, n) =>
      (if isBackquote c || c = '\\' || c = '$' then c :: inner else '\\' :: c :: inner, n + 2)
  | c :: rest =>
    if isBackquote c then some ([], 0)
      else (upToBackquote rest).map fun (inner, n) => (c :: inner, n + 1)

def braced (cs : List Char) : List Char × List Char :=
  match cs with
  | c :: rest => if isSpecialParameter c then ([c], rest)
      else (cs.takeWhile isNameChar, cs.dropWhile isNameChar)
  | [] => ([], [])

def editOf? : List Char → Option (Edit × List Char)
  | ':' :: '-' :: w => some (.replaceMissing true, w)
  | ':' :: '+' :: w => some (.replacePresent true, w)
  | '-' :: w => some (.replaceMissing false, w)
  | '+' :: w => some (.replacePresent false, w)
  | '#' :: '#' :: w => some (.dropFront true, w)
  | '#' :: w => some (.dropFront false, w)
  | '%' :: '%' :: w => some (.dropBack true, w)
  | '%' :: w => some (.dropBack false, w)
  | _ => none

def assignment? (w : Word) : Option (String × Word) :=
  let rec go (name : List Char) : Word → Option (String × Word)
    | .text [c] false :: rest =>
      if c = '=' && !name.isEmpty then some (String.ofList name.reverse, rest)
      else if isNameChar c then go (c :: name) rest
      else none
    | _ => none
  go [] w

mutual

def dollar (fuel : Nat) (inQuotes : Bool) (s : Source) : Option (Piece × Source) :=
  match fuel with
  | 0 => none
  | fuel + 1 =>
    let quoted (cs : List Char) : Option Word := (doubleQuoted fuel ⟨cs ++ ['"'], s.line⟩).map (·.1)
    let command (_ : Unit) : Option (Piece × Source) := do
      let (c, s) ← list fuel (s.drop 1)
      guard (s.rest.head? = some ')')
      some (.output c inQuotes, s.drop 1)
    match s.rest with
    | '(' :: '(' :: rest =>
      match upToClosing 0 rest with
      | none => none
      | some inner =>
        if rest[inner.length + 1]? = some ')' then do
          some (.arithmetic (← quoted inner) inQuotes, s.drop (inner.length + 4))
        else command ()
    | '(' :: _ => command ()
    | '\x7b' :: rest =>
      let inner := rest.takeWhile (· ≠ '\x7d')
      let after := s.drop (inner.length + 2)
      match inner with
      | '#' :: name@(_ :: _) => some (.edited (String.ofList name) .size [] inQuotes, after)
      | _ =>
        let (name, tail) := braced inner
        if tail.isEmpty then some (.variable (String.ofList name) inQuotes, after)
        else do
          let (edit, operand) ← editOf? tail
          some (.edited (String.ofList name) edit (← quoted operand) inQuotes, after)
    | c :: rest =>
      if isSpecialParameter c then some (.variable c.toString inQuotes, s.drop 1)
      else if isNameChar c then
        let name := (c :: rest).takeWhile isNameChar
        some (.variable (String.ofList name) inQuotes, s.drop name.length)
      else some (.text ['$'] inQuotes, s)
    | [] => some (.text ['$'] inQuotes, s)

def backquoted (fuel : Nat) (inQuotes : Bool) (s : Source) : Option (Piece × Source) :=
  match fuel with
  | 0 => none
  | fuel + 1 => do
    let (inner, size) ← upToBackquote (s.rest.drop 1)
    let (c, left) ← list fuel ⟨inner, s.line⟩
    guard left.rest.isEmpty
    some (.output c inQuotes, s.drop (size + 2))

def doubleQuoted (fuel : Nat) (s : Source) : Option (Word × Source) :=
  match fuel with
  | 0 => none
  | fuel + 1 => match s.rest with
    | '"' :: _ => some ([], s.drop 1)
    | '\\' :: c :: _ => do
      let kept := if c = '"' || c = '\\' || c = '$' || isBackquote c then [c]
        else if c = '\n' then [] else ['\\', c]
      let (w, s) ← doubleQuoted fuel (s.drop 2)
      some (.text kept true :: w, s)
    | '$' :: _ => do
      let (p, s) ← dollar fuel true (s.drop 1)
      let (w, s) ← doubleQuoted fuel s
      some (p :: w, s)
    | c :: _ =>
      if isBackquote c then do
        let (p, s) ← backquoted fuel true s
        let (w, s) ← doubleQuoted fuel s
        some (p :: w, s)
      else do
        let (w, s) ← doubleQuoted fuel (s.drop 1)
        some (.text [c] true :: w, s)
    | [] => none

def word (fuel : Nat) (s : Source) : Option (Word × Source) :=
  match fuel with
  | 0 => none
  | fuel + 1 => match s.rest with
    | [] => some ([], s)
    | '\'' :: rest => do
      let inner := rest.takeWhile (· ≠ '\'')
      guard (inner.length < rest.length)
      let (w, s) ← word fuel (s.drop (inner.length + 2))
      some (.text inner true :: w, s)
    | '"' :: _ => do
      let (inner, s) ← doubleQuoted fuel (s.drop 1)
      let (w, s) ← word fuel s
      some (.text [] true :: inner ++ w, s)
    | '\\' :: c :: _ => do
      let (w, s) ← word fuel (s.drop 2)
      some (if c = '\n' then w else .text [c] true :: w, s)
    | '$' :: _ => do
      let (p, s) ← dollar fuel false (s.drop 1)
      let (w, s) ← word fuel s
      some (p :: w, s)
    | c :: _ =>
      if Source.isDelimiter c then some ([], s)
      else if isBackquote c then do
        let (p, s) ← backquoted fuel false s
        let (w, s) ← word fuel s
        some (p :: w, s)
      else do
        let (w, s) ← word fuel (s.drop 1)
        some (.text [c] false :: w, s)

def redirect (fuel : Nat) (stream : Option Nat) (s : Source) : Option (Redirect × Source) :=
  match fuel with
  | 0 => none
  | fuel + 1 =>
    let toFile (mode : RedirectMode) (default n : Nat) : Option (Redirect × Source) := do
      let (w, s) ← word fuel (s.drop n).skipBlanks
      guard (!w.isEmpty)
      some (.file (stream.getD default) mode w, s)
    match s.rest with
    | '>' :: '>' :: _ => toFile .append 1 2
    | '>' :: '&' :: c :: _ => do
      guard c.isDigit
      some (.copy (stream.getD 1) (c.toNat - '0'.toNat), s.drop 3)
    | '>' :: _ => toFile .replace 1 1
    | '<' :: _ => toFile .read 0 1
    | _ => none

def redirects (fuel : Nat) (s : Source) : Option (List Redirect × Source) :=
  match fuel with
  | 0 => none
  | fuel + 1 =>
    let s := s.skipBlanks
    let next (stream : Option Nat) (n : Nat) : Option (List Redirect × Source) := do
      let (r, s) ← redirect fuel stream (s.drop n)
      let (rs, s) ← redirects fuel s
      some (r :: rs, s)
    match s.rest with
    | '>' :: _ => next none 0
    | '<' :: _ => next none 0
    | c :: '>' :: _ => if c.isDigit then next (some (c.toNat - '0'.toNat)) 1 else some ([], s)
    | _ => some ([], s)

def simpleParts (fuel : Nat) (s : Source) : Option (List Word × List Redirect × Source) :=
  match fuel with
  | 0 => none
  | fuel + 1 => do
    let (rs, s) ← redirects fuel s
    let (w, s) ← word fuel s
    if w.isEmpty then some ([], rs, s)
    else
      let (ws, more, s) ← simpleParts fuel s
      some (w :: ws, rs ++ more, s)

def simple (fuel : Nat) (s : Source) : Option (Command × Source) :=
  match fuel with
  | 0 => none
  | fuel + 1 => do
    let line := s.line
    let (ws, rs, s) ← simpleParts fuel s
    guard (!(ws.isEmpty && rs.isEmpty))
    let assigned := (ws.map assignment?).takeWhile Option.isSome
    some (.simple line (assigned.filterMap id) (ws.drop assigned.length) rs, s)

def alternatives (fuel : Nat) (s : Source) : Option (List (List Word × Command) × Source) :=
  match fuel with
  | 0 => none
  | fuel + 1 =>
    let s := s.skipLines
    if s.ahead = "esac" then some ([], s.drop 4)
    else do
      let s := if s.rest.head? = some '(' then (s.drop 1).skipBlanks else s
      let (ps, s) ← patterns fuel s
      let (c, s) ← list fuel s
      let s := s.skipLines
      match s.rest with
      | ';' :: ';' :: _ => do
        let (more, s) ← alternatives fuel (s.drop 2)
        some ((ps, c) :: more, s)
      | _ => do
        guard (s.ahead = "esac")
        some ([(ps, c)], s.drop 4)

def patterns (fuel : Nat) (s : Source) : Option (List Word × Source) :=
  match fuel with
  | 0 => none
  | fuel + 1 => do
    let (w, s) ← word fuel s.skipBlanks
    let s := s.skipBlanks
    match s.rest with
    | '|' :: _ => do
      let (ws, s) ← patterns fuel (s.drop 1)
      some (w :: ws, s)
    | ')' :: _ => some ([w], s.drop 1)
    | _ => none

def branches (fuel : Nat) (condition : Command) (s : Source) : Option (Command × Source) :=
  match fuel with
  | 0 => none
  | fuel + 1 => do
    let (yes, s) ← list fuel s
    let s := s.skipLines
    if s.ahead = "else" then
      let (no, s) ← list fuel (s.drop 4)
      let s := s.skipLines
      guard (s.ahead = "fi")
      some (.branch condition yes no, s.drop 2)
    else if s.ahead = "elif" then
      let (c, s) ← list fuel (s.drop 4)
      let s := s.skipLines
      guard (s.ahead = "then")
      let (no, s) ← branches fuel c (s.drop 4)
      some (.branch condition yes no, s)
    else
      guard (s.ahead = "fi")
      some (.branch condition yes .nothing, s.drop 2)

def doBlock (fuel : Nat) (s : Source) : Option (Command × Source) :=
  match fuel with
  | 0 => none
  | fuel + 1 => do
    let s := s.skipLines
    guard (s.ahead = "do")
    let (body, s) ← list fuel (s.drop 2)
    let s := s.skipLines
    guard (s.ahead = "done")
    some (body, s.drop 4)

def command (fuel : Nat) (s : Source) : Option (Command × Source) :=
  match fuel with
  | 0 => none
  | fuel + 1 =>
    let s := s.skipBlanks
    let withRedirects (c : Command) (isolated : Bool) (s : Source) : Option (Command × Source) := do
      let (rs, s) ← redirects fuel s
      some (.group c rs isolated, s)
    match s.rest with
    | '(' :: _ => do
      let (c, s) ← list fuel (s.drop 1)
      let s := s.skipLines
      guard (s.rest.head? = some ')')
      withRedirects c true (s.drop 1)
    | _ =>
      if s.ahead = "\x7b" then do
        let (c, s) ← list fuel (s.drop 1)
        let s := s.skipLines
        guard (s.ahead = "\x7d")
        withRedirects c false (s.drop 1)
      else if s.ahead = "if" then do
        let (c, s) ← list fuel (s.drop 2)
        let s := s.skipLines
        guard (s.ahead = "then")
        let (c, s) ← branches fuel c (s.drop 4)
        withRedirects c false s
      else if s.ahead = "case" then do
        let (w, s) ← word fuel (s.drop 4).skipBlanks
        let s := s.skipLines
        guard (s.ahead = "in")
        let (alts, s) ← alternatives fuel (s.drop 2)
        withRedirects (.choose w alts) false s
      else if s.ahead = "while" then do
        let (c, s) ← list fuel (s.drop 5)
        let (body, s) ← doBlock fuel s
        withRedirects (.whilst c body) false s
      else if s.ahead = "until" then do
        let (c, s) ← list fuel (s.drop 5)
        let (body, s) ← doBlock fuel s
        withRedirects (.whilst (.negation c) body) false s
      else if s.ahead = "for" then do
        let s := (s.drop 3).skipBlanks
        let name := s.ahead
        let s := (s.drop name.length).skipLines
        let (ws, _, s) ← if s.ahead = "in" then simpleParts fuel (s.drop 2)
          else some ([[.variable "@" true]], [], s)
        let s := if s.rest.head? = some ';' then s.drop 1 else s
        let (body, s) ← doBlock fuel s
        withRedirects (.each name ws body) false s
      else if s.ahead = "!" then do
        let (c, s) ← pipeline fuel (s.drop 1)
        some (.negation c, s)
      else simple fuel s

def pipeline (fuel : Nat) (s : Source) : Option (Command × Source) :=
  match fuel with
  | 0 => none
  | fuel + 1 => do
    let (c, s) ← command fuel s
    let s := s.skipBlanks
    match s.rest with
    | '|' :: '|' :: _ => some (c, s)
    | '|' :: _ => do
      let (d, s) ← pipeline fuel (s.drop 1).skipLines
      some (.pipe c d, s)
    | _ => some (c, s)

/-- Pipelines joined from the left by `&&` and `||`. -/
def joined (fuel : Nat) (left : Command) (s : Source) : Option (Command × Source) :=
  match fuel with
  | 0 => none
  | fuel + 1 =>
    let s := s.skipBlanks
    match s.rest with
    | '&' :: '&' :: _ => do
      let (c, s) ← pipeline fuel (s.drop 2).skipLines
      joined fuel (.both left c) s
    | '|' :: '|' :: _ => do
      let (c, s) ← pipeline fuel (s.drop 2).skipLines
      joined fuel (.either left c) s
    | _ => some (left, s)

/-- Commands up to the end of the text or to a word or bracket that ends their block. -/
def list (fuel : Nat) (s : Source) : Option (Command × Source) :=
  match fuel with
  | 0 => none
  | fuel + 1 =>
    let s := s.skipLines
    match s.rest with
    | [] => some (.nothing, s)
    | ')' :: _ => some (.nothing, s)
    | ';' :: ';' :: _ => some (.nothing, s)
    | _ =>
      if reservedEnds.contains s.ahead then some (.nothing, s)
      else do
        let (c, s) ← pipeline fuel s
        let (c, s) ← joined fuel c s
        let s := s.skipBlanks
        match s.rest with
        | ';' :: ';' :: _ => some (c, s)
        | ';' :: _ => do
          let (d, s) ← list fuel (s.drop 1)
          some (.sequence c d, s)
        | '&' :: _ => do
          let (d, s) ← list fuel (s.drop 1)
          some (.sequence (.background c) d, s)
        | '\n' :: _ => do
          let (d, s) ← list fuel s
          some (.sequence c d, s)
        | _ => some (c, s)

end

def parse? (text : String) : Option Command := do
  let cs := text.toList
  let (c, s) ← list (20 * cs.length + 40) ⟨cs, 1⟩
  guard s.rest.isEmpty
  return c

end BlocklistSync.Script
