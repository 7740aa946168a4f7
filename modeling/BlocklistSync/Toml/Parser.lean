import BlocklistSync.Toml.Scalar

/-! From the text of a TOML document to its statements. Containers nest at most 79 deep, and a key
has fewer than 80 parts. -/
namespace BlocklistSync.Toml

def maxDepth : Nat := 80

def isBareKey (c : Char) : Bool := c.isAlphanum || c = '_' || c = '-'

def simpleKey? (cs : List Char) : Option (String × List Char) :=
  match cs with
  | c :: _ =>
    if c = '"' || c = '\'' then inline? cs
    else
      let name := cs.takeWhile isBareKey
      if name.isEmpty then none else some (String.ofList name, cs.dropWhile isBareKey)
  | [] => none

def dottedKeys : Nat → List Char → Option (Keys × List Char)
  | 0, _ => none
  | fuel + 1, cs => do
    let (k, cs) ← simpleKey? (skipSpaces cs)
    match skipSpaces cs with
    | '.' :: rest => do
      let (ks, rest) ← dottedKeys fuel rest
      return (k :: ks, rest)
    | rest => return ([k], rest)

def keys? (cs : List Char) : Option (Keys × List Char) := dottedKeys (maxDepth - 1) cs

/-- Entries of one table, each with the tables that its dotted keys stand for. A group remembers
whether only dotted keys or the headers of others made it. -/
inductive Item
  | value (v : Value)
  | group (implicit dotted : Bool) (entries : List (String × Item))
  | groups (elements : List (List (String × Item)))

abbrev Entries := List (String × Item)

def findItem (k : String) (es : Entries) : Option Item := es.lookup k

def setItem (k : String) (item : Item) (es : Entries) : Entries :=
  if es.any (·.1 == k) then es.map fun (j, i) => if j == k then (j, item) else (j, i)
  else es ++ [(k, item)]

/-- Changes the entries that `ks` lead to, making what is missing; of an array of tables the last
element counts. The change learns whether dotted keys made the table. -/
def within (dotted : Bool) (f : Bool → Entries → Option Entries) :
    Keys → Bool → Entries → Option Entries
  | [], madeDotted, es => f madeDotted es
  | k :: ks, _, es =>
    match findItem k es with
    | none => do
      let inner ← within dotted f ks dotted []
      return setItem k (.group true dotted inner) es
    | some (.value _) => none
    | some (.groups elements) => do
      let last ← elements.getLast?
      let inner ← within dotted f ks false last
      return setItem k (.groups (elements.dropLast ++ [inner])) es
    | some (.group implicit madeDotted inner) => do
      guard (!dotted || implicit)
      let inner ← within dotted f ks madeDotted inner
      return setItem k (.group implicit madeDotted inner) es

/-- One assignment. Keys with dots reach only tables that dotted keys made, and nothing is assigned
twice. -/
def assign (keys : Keys) (v : Value) (es : Entries) : Option Entries := do
  let last ← keys.getLast?
  let path := keys.dropLast
  within true (fun madeDotted es => do
    guard (madeDotted ≠ path.isEmpty)
    guard ((findItem last es).isNone)
    return setItem last (.value v) es) path false es

mutual

def Item.toValue : Item → Value
  | .value v => v
  | .group _ _ entries => .table (entriesToValues entries)
  | .groups elements => .array (elementsToValues elements)

def entriesToValues : List (String × Item) → List (String × Value)
  | [] => []
  | (k, item) :: rest => (k, item.toValue) :: entriesToValues rest

def elementsToValues : List (List (String × Item)) → List Value
  | [] => []
  | es :: rest => .table (entriesToValues es) :: elementsToValues rest

end

/-- The table that a list of assignments between braces spells. -/
def inlineTable? (assignments : List (Keys × Value)) : Option Value := do
  let es ← assignments.foldlM (fun es (ks, v) => assign ks v es) []
  return .table (entriesToValues es)

mutual

def value? : Nat → Nat → List Char → Option (Value × List Char)
  | 0, _, _ => none
  | fuel + 1, depth, cs =>
    match cs with
    | [] => none
    | '[' :: rest =>
      if maxDepth ≤ depth + 1 then none
      else (items? fuel (depth + 1) rest).map fun (vs, rest) => (.array vs, rest)
    | '{' :: rest =>
      if maxDepth ≤ depth + 1 then none
      else match skipSpaces rest with
        | '}' :: rest => some (.table [], rest)
        | _ => do
          let (pairs, rest) ← assignments? fuel (depth + 1) rest
          return (← inlineTable? pairs, rest)
    | c :: _ =>
      if c = '"' || c = '\'' then (string? cs).map fun (s, rest) => (.string s, rest)
      else boolean? cs <|> number? cs

/-- The items of an array up to its closing bracket; a comma may follow the last. -/
def items? : Nat → Nat → List Char → Option (List Value × List Char)
  | 0, _, _ => none
  | fuel + 1, depth, cs =>
    match skipBlankLines cs with
    | ']' :: rest => some ([], rest)
    | cs => do
      let (v, rest) ← value? fuel depth cs
      match skipBlankLines rest with
      | ',' :: rest => do
        let (vs, rest) ← items? fuel depth rest
        return (v :: vs, rest)
      | ']' :: rest => return ([v], rest)
      | _ => none

def assignments? : Nat → Nat → List Char → Option (List (Keys × Value) × List Char)
  | 0, _, _ => none
  | fuel + 1, depth, cs => do
    let (ks, rest) ← keys? cs
    match rest with
    | '=' :: rest => do
      let (v, rest) ← value? fuel depth (skipSpaces rest)
      match skipSpaces rest with
      | ',' :: rest => do
        let (pairs, rest) ← assignments? fuel depth rest
        return ((ks, v) :: pairs, rest)
      | '}' :: rest => return ([(ks, v)], rest)
      | _ => none
    | _ => none

end

/-- A statement and the rest of its line. -/
def statement? (cs : List Char) : Option (Statement × List Char) :=
  match cs with
  | '[' :: '[' :: rest => do
    let (ks, rest) ← keys? rest
    match rest with
    | ']' :: ']' :: rest => return (.tableOfArray ks, ← lineEnd? rest)
    | _ => none
  | '[' :: rest => do
    let (ks, rest) ← keys? rest
    match rest with
    | ']' :: rest => return (.table ks, ← lineEnd? rest)
    | _ => none
  | cs => do
    let (ks, rest) ← keys? cs
    match rest with
    | '=' :: rest => do
      let (v, rest) ← value? (2 * rest.length + 2) 0 (skipSpaces rest)
      return (.assign ks v, ← lineEnd? rest)
    | _ => none

def statements? : Nat → List Char → Option (List Statement)
  | 0, cs => if (skipSpaces cs).isEmpty then some [] else none
  | fuel + 1, cs =>
    match skipSpaces cs with
    | [] => some []
    | cs => match lineEnd? cs with
      | some rest => statements? fuel rest
      | none => do
        let (s, rest) ← statement? cs
        let ss ← statements? fuel rest
        return s :: ss

/-- A mark of the byte order may stand in front. -/
def parse? (text : String) : Option (List Statement) :=
  let cs := match text.toList with
    | c :: rest => if c.toNat = 0xfeff then rest else c :: rest
    | [] => []
  statements? (cs.length + 1) cs

end BlocklistSync.Toml
