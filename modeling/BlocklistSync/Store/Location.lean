import BlocklistSync.Fault
import BlocklistSync.Log
import BlocklistSync.Text.Quoted

/-! Where the blocklist is kept: a URL with the scheme of the database, or a bare path. -/
namespace BlocklistSync.StoreLocation

/-- The text before the first `://` and the text after it. -/
def splitScheme : List Char → Option (List Char × List Char)
  | ':' :: '/' :: '/' :: rest => some ([], rest)
  | c :: rest => (splitScheme rest).map fun (scheme, path) => (c :: scheme, path)
  | [] => none

def scheme : List Char := "sqlite".toList

/-- The path of the database file. -/
def ofUrl (url : String) : Result String :=
  let path : Result (List Char) := match splitScheme url.toList with
    | none => .ok url.toList
    | some (s, rest) =>
      if s = scheme then .ok rest
      else
        let shown := Text.quoted (String.ofList s)
        .error (.configuration s!"unsupported store scheme {shown} in {Text.quoted url}")
  match path with
  | .error e => .error e
  | .ok [] => .error (.configuration s!"no database path in {Text.quoted url}")
  | .ok cs => .ok (String.ofList cs)

def log : Result String → Log
  | .ok path => [.info .setup s!"Using SQLite store at {path}"]
  | .error _ => []

end BlocklistSync.StoreLocation
