import BlocklistSync.FileTree.Operations
import BlocklistSync.Settings.Environment
import BlocklistSync.Text.Classes

/-! Files with values for environment variables, one assignment a line. A value may stand in single
or double quotes, may go on over several lines within them, and may refer to other variables outside
single quotes. A variable that has a value keeps it, and a line that does not read ends the file. -/
namespace BlocklistSync.EnvironmentFile

def fileName : String := ".env"

/-! Lines. -/

/-- Where in a line's value a reader is, as far as it matters to the question where the line
ends. -/
inductive Spot
  | bare
  | blank
  | escape
  | single (escaped : Bool)
  | double (escaped : Bool)
  deriving Repr, DecidableEq

def Spot.enter : Char → Spot
  | '\\' => .escape
  | '"' => .double false
  | '\'' => .single false
  | _ => .bare

def Spot.after (p : Spot) (c : Char) : Spot :=
  match p with
  | .bare => if Text.isBlank c && c ≠ '\n' && c ≠ '\r' then .blank else .enter c
  | .blank => .enter c
  | .escape => .bare
  | .single true => .single false
  | .single false => if c = '\\' then .single true else if c = '\'' then .bare else .single false
  | .double true => .double false
  | .double false => if c = '\\' then .double true else if c = '"' then .bare else .double false

/-- The text up to a comment, which needs a blank before it, or else the place at the end. -/
def scan (p : Spot) (seen : List Char) : List Char → Sum (List Char) Spot
  | [] => .inr p
  | c :: cs => if p = .blank && c = '#' then .inl seen.reverse else scan (p.after c) (c :: seen) cs

def dropLineEnd (line : List Char) : List Char :=
  match line.reverse with
  | '\n' :: '\r' :: rest => rest.reverse
  | '\n' :: rest => rest.reverse
  | _ => line

/-- A line of the file, or none where it is broken. -/
abbrev Line := Option (List Char)

/-- Joins physical lines, each with its newline, as long as a quote is open; `before` and `p` stand
for the lines of the quote so far. -/
def joinLines (before : List Char) (p : Spot) : List Line → List Line
  | [] => if p = .bare then [] else [none]
  | none :: _ => [none]
  | some line :: rest =>
    let all := before ++ line
    if (all.dropWhile Text.isBlank).head? = some '#' then joinLines [] .bare rest
    else match scan p [] line with
      | .inl kept => some (before ++ kept) :: joinLines [] .bare rest
      | .inr .bare => some (dropLineEnd all) :: joinLines [] .bare rest
      | .inr p => joinLines all p rest

def byteLinesFrom (line : Bytes) : Bytes → List Bytes
  | [] => if line.isEmpty then [] else [line]
  | b :: bs => if b = 10 then (line ++ [b]) :: byteLinesFrom [] bs
      else byteLinesFrom (line ++ [b]) bs

def withoutMark : Bytes → Bytes
  | 0xef :: 0xbb :: 0xbf :: rest => rest
  | bytes => bytes

def linesOf (bytes : Bytes) : List Line :=
  joinLines [] .bare <|
    (byteLinesFrom [] (withoutMark bytes)).map fun line =>
      (Text.Utf8.decode? line).map String.toList

/-! Values. -/

inductive Mode
  | plain
  | escaped
  | single
  /-- After a dollar sign, with the name so far. -/
  | name (name : List Char)
  /-- After a dollar sign and a brace. -/
  | braced (name : List Char)
  /-- After the value: only blanks and a comment may follow. -/
  | after
  deriving Repr, DecidableEq

structure Value where
  mode : Mode
  /-- Within double quotes. -/
  inDouble : Bool
  text : List Char

namespace Value

def push (v : Value) (c : Char) : Value := { v with mode := .plain, text := v.text ++ [c] }

def resolve (env : Environment) (v : Value) (name : List Char) : Value :=
  { v with mode := .plain, text := v.text ++ ((env (String.ofList name)).getD "").toList }

def plain (v : Value) (c : Char) : Value :=
  if c = '$' then { v with mode := .name [] }
  else if c = '\\' then { v with mode := .escaped }
  else if v.inDouble then if c = '"' then { v with inDouble := false } else v.push c
  else if c = '\'' then { v with mode := .single }
  else if c = '"' then { v with inDouble := true }
  else if c = ' ' || c = '\t' then { v with mode := .after }
  else v.push c

def escapable (c : Char) : Option Char :=
  if c = 'n' then some '\n'
  else if c = '\\' || c = '\'' || c = '"' || c = '$' || c = ' ' then some c
  else none

/-- Takes one character; `some` with true says that a comment begins, none that the value is
broken. -/
def take (env : Environment) (v : Value) (c : Char) : Option (Value × Bool) :=
  match v.mode with
  | .plain => some (v.plain c, false)
  | .escaped => (escapable c).map fun c => (v.push c, false)
  | .single =>
    some (if c = '\'' then { v with mode := .plain } else { v.push c with mode := .single }, false)
  | .name name =>
    if Text.isAlphanumeric c then some ({ v with mode := .name (name ++ [c]) }, false)
    else if c = '\x7b' && name.isEmpty then some ({ v with mode := .braced [] }, false)
    else if c = '$' then some ({ v.resolve env name with mode := .name [] }, false)
    else some ((v.resolve env name).push c, false)
  | .braced name =>
    if c = '\x7d' then some (v.resolve env name, false)
    else some ({ v with mode := .braced (name ++ [c]) }, false)
  | .after =>
    if c = ' ' || c = '\t' then some (v, false) else if c = '#' then some (v, true) else none

def takeAll (env : Environment) (v : Value) : List Char → Option Value
  | [] => some v
  | c :: cs =>
    match v.take env c with
    | none => none
    | some (v, true) => some v
    | some (v, false) => takeAll env v cs

/-- The text of a value whose quotes and braces are closed. -/
def finish? (env : Environment) (v : Value) : Option String :=
  match v.mode with
  | .single | .braced _ => none
  | .name name => if v.inDouble then none else some (String.ofList (v.resolve env name).text)
  | .plain | .escaped | .after => if v.inDouble then none else some (String.ofList v.text)

end Value

def readValue? (env : Environment) (cs : List Char) : Option String := do
  let v ← Value.takeAll env ⟨.plain, false, []⟩ cs
  v.finish? env

/-! Assignments. -/

def skipBlanks (cs : List Char) : List Char := cs.dropWhile Text.isBlank

def isKeyStart (c : Char) : Bool := c.isAlpha || c = '_'

def isKeyPart (c : Char) : Bool := c.isAlphanum || c = '_' || c = '.'

def readKey? (cs : List Char) : Option (String × List Char) :=
  if cs.head?.any isKeyStart then
    some (String.ofList (cs.takeWhile isKeyPart), skipBlanks (cs.dropWhile isKeyPart))
  else none

def readEqual? : List Char → Option (List Char)
  | '=' :: cs => some cs
  | _ => none

/-- The word `export` may stand before a key, and may be one. -/
def readTarget? (cs : List Char) : Option (String × List Char) := do
  let (key, rest) ← readKey? cs
  match readEqual? rest with
  | some rest => return (key, rest)
  | none =>
    guard (key = "export")
    let (key, rest) ← readKey? rest
    return (key, ← readEqual? rest)

def isVoid (cs : List Char) : Bool := cs.isEmpty || cs.head? = some '#'

/-- The assignment of a line: `none` for a broken line, `some none` for one without any. -/
def readLine? (env : Environment) (line : List Char) : Option (Option (String × String)) :=
  let cs := Text.trimChars line
  if isVoid cs then some none
  else do
    let (key, rest) ← readTarget? cs
    let rest := skipBlanks rest
    if isVoid rest then return some (key, "")
    else return some (key, ← readValue? env rest)

def assign (env : Environment) (key value : String) : Environment :=
  fun k => match env k with
    | some v => some v
    | none => if k = key then some value else none

def extend (env : Environment) : List Line → Environment
  | [] => env
  | none :: _ => env
  | some line :: rest =>
    match readLine? env line with
    | none => env
    | some none => extend env rest
    | some (some (key, value)) => extend (assign env key value) rest

/-- The file of the working directory or of the nearest directory above it that has one. -/
def find? (t : FileTree) : List String → Option Bytes
  | [] => (t.read ("/" ++ fileName)).toOption
  | name :: above =>
    let path := Path.ofParts true (((name :: above).reverse) ++ [fileName])
    match t.fileNumber path with
    | .ok _ => (t.read path).toOption
    | .error e => if e.kind = .notFound || e.kind = .isADirectory then find? t above else none

def load (t : FileTree) (env : Environment) : Environment :=
  match find? t t.home.reverse with
  | some bytes => extend env (linesOf bytes)
  | none => env

end BlocklistSync.EnvironmentFile
