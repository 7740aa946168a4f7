/-! The lines of a text. A newline ends a line, and a carriage return before it belongs to the
ending. -/
namespace BlocklistSync.Text

def dropReturn (line : List Char) : List Char :=
  if line.getLast? = some '\r' then line.dropLast else line

/-- The lines after `line`, the part of one that was read already; the last may lack its newline. -/
def linesFrom (line : List Char) : List Char → List (List Char)
  | [] => if line.isEmpty then [] else [line]
  | c :: cs => if c = '\n' then dropReturn line :: linesFrom [] cs else linesFrom (line ++ [c]) cs

def lines (s : String) : List String := (linesFrom [] s.toList).map String.ofList

end BlocklistSync.Text
