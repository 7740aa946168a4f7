import BlocklistSync.Toml.Value

/-! White space, comments and line ends of TOML. -/
namespace BlocklistSync.Toml

def isSpace (c : Char) : Bool := c = ' ' || c = '\t'

/-- Allowed in comments; in strings, too, save their own delimiters. -/
def isPlain (c : Char) : Bool := c = '\t' || (0x20 ≤ c.toNat && c.toNat ≠ 0x7f)

def skipSpaces (cs : List Char) : List Char := cs.dropWhile isSpace

def skipComment : List Char → List Char
  | '#' :: rest => rest.dropWhile isPlain
  | cs => cs

/-- What follows a line end. -/
def afterNewline? : List Char → Option (List Char)
  | '\n' :: rest => some rest
  | '\r' :: '\n' :: rest => some rest
  | _ => none

/-- The rest of a line that may hold only a comment. -/
def lineEnd? (cs : List Char) : Option (List Char) :=
  match skipComment (skipSpaces cs) with
  | [] => some []
  | rest => afterNewline? rest

/-- Skips spaces, line ends, and comments that end in a line end. -/
def skipLines : Nat → List Char → List Char
  | 0, cs => cs
  | fuel + 1, cs =>
    let cs := skipSpaces cs
    match afterNewline? (skipComment cs) with
    | some rest => skipLines fuel rest
    | none => cs

def skipBlankLines (cs : List Char) : List Char := skipLines cs.length cs

end BlocklistSync.Toml
