import BlocklistSync.Text.Classes
import BlocklistSync.Text.CaseTable

/-! Lower-casing of text in any script. One letter needs its neighbours: a capital sigma that ends a
word becomes the final sigma. -/
namespace BlocklistSync.Text

def lowerPoint (n : Nat) : Nat :=
  match lowerRuns.find? fun (first, last, stride, _) => first ≤ n && n ≤ last && (n - first) %
    stride == 0 with
  | some (_, _, _, shift) => (n + shift : Int).toNat
  | none => n

/-- Some cased letter stands in front, looking past the points that the search skips. -/
def casedAhead (cs : List Char) : Bool :=
  match cs.dropWhile (inRanges caseSkippedRanges) with
  | c :: _ => inRanges casedRanges c
  | [] => false

/-- `before` holds the characters already passed, the nearest first. -/
def lowerFrom (before : List Char) : List Char → List Char
  | [] => []
  | c :: rest =>
    let low :=
      if c.toNat < 0x80 then [c.toLower]
      else if c = 'Σ' then [if casedAhead before && !casedAhead rest then 'ς' else 'σ']
      else if c = 'İ' then ['i', Char.ofNat 0x307]
      else [Char.ofNat (lowerPoint c.toNat)]
    low ++ lowerFrom (c :: before) rest

def lower (s : String) : String := String.ofList (lowerFrom [] s.toList)

end BlocklistSync.Text
