import BlocklistSync.Number.Binary64

/-! Values of a TOML document. -/
namespace BlocklistSync.Toml

/-- Dates and times are kept as written: no setting is one. -/
inductive Value
  | string (s : String)
  | integer (i : Int)
  | float (x : Number.Binary64)
  | boolean (b : Bool)
  | dateTime (written : String)
  | array (items : List Value)
  | table (entries : List (String × Value))

/-- Keys lead from a table into the tables below it. -/
abbrev Keys := List String

inductive Statement
  | assign (keys : Keys) (value : Value)
  | table (keys : Keys)
  | tableOfArray (keys : Keys)

/-- A reader takes what it reads off the front of the text. -/
abbrev Reader (α : Type) := List Char → Option (α × List Char)

end BlocklistSync.Toml
