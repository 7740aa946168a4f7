/-! Shell scripts, as far as the programs beside the daemon are written in them. -/
namespace BlocklistSync.Script

inductive RedirectMode
  | read
  | replace
  | append
  deriving Repr, DecidableEq

/-- What is done to the value of a parameter before it is used. -/
inductive Edit
  | size
  /-- The operand takes the place of a missing value, and of an empty one if `orEmpty`. -/
  | replaceMissing (orEmpty : Bool)
  | replacePresent (orEmpty : Bool)
  /-- What the operand covers at an end of the value is dropped, as little or as much as may be. -/
  | dropFront (longest : Bool)
  | dropBack (longest : Bool)
  deriving Repr, DecidableEq

mutual

/-- Part of a word. What stands in quotes is taken as it is; elsewhere values are split at
blanks. -/
inductive Piece
  | text (chars : List Char) (inQuotes : Bool)
  | variable (name : String) (inQuotes : Bool)
  | edited (name : String) (edit : Edit) (operand : List Piece) (inQuotes : Bool)
  | arithmetic (expression : List Piece) (inQuotes : Bool)
  | output (command : Command) (inQuotes : Bool)

inductive Redirect
  | file (stream : Nat) (mode : RedirectMode) (target : List Piece)
  | copy (stream source : Nat)

inductive Command
  | nothing
  | simple (line : Nat) (assignments : List (String × List Piece)) (words : List (List Piece))
      (redirects : List Redirect)
  | pipe (left right : Command)
  | both (left right : Command)
  | either (left right : Command)
  | sequence (left right : Command)
  | negation (command : Command)
  /-- Isolated from the rest, which does not look at how it ends. -/
  | background (command : Command)
  | branch (condition yes no : Command)
  | choose (word : List Piece) (cases : List (List (List Piece) × Command))
  | each (name : String) (words : List (List Piece)) (body : Command)
  | whilst (condition body : Command)
  /-- In braces, or in parentheses and so isolated from the rest. -/
  | group (body : Command) (redirects : List Redirect) (isolated : Bool)

end

abbrev Word := List Piece

end BlocklistSync.Script
