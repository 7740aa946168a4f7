/-! Paths as text. Joining inserts one slash where it is needed and normalises nothing; splitting
drops empty parts and single dots, save a dot that leads a relative path. -/
namespace BlocklistSync.Path

def isAbsolute (path : String) : Bool := path.toList.head? == some '/'

def endsWithSlash (path : String) : Bool := path.toList.getLast? == some '/'

/-- The file `name` in the directory `dir`; an absolute name stands for itself. -/
def join (dir name : String) : String :=
  if isAbsolute name then name
  else if dir.isEmpty || endsWithSlash dir then dir ++ name
  else dir ++ "/" ++ name

def dropDots : List String → List String
  | [] => []
  | part :: rest => if part = "" || part = "." then dropDots rest else part :: dropDots rest

def splitSlashes (path : String) : List String := (path.toList.splitOn '/').map String.ofList

def parts (path : String) : List String :=
  match splitSlashes path with
  | "." :: rest => "." :: dropDots rest
  | all => dropDots all

def ofParts (absolute : Bool) (names : List String) : String :=
  (if absolute then "/" else "") ++ "/".intercalate names

def parent? (path : String) : Option String :=
  match (parts path).reverse with
  | [] => none
  | _ :: above => some (ofParts (isAbsolute path) above.reverse)

end BlocklistSync.Path
