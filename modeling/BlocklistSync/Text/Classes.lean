import BlocklistSync.Text.AlphanumericTable
import BlocklistSync.Text.PrintableTable

/-! Classes of characters that the daemon's texts depend on: white space around a value, letters and
digits of a name, and characters that a quoted value shows as themselves. -/
namespace BlocklistSync.Text

def inRanges (ranges : List (Nat × Nat)) (c : Char) : Bool :=
  ranges.any fun (first, last) => first ≤ c.toNat && c.toNat ≤ last

/-- White space in the sense of the character database, of which core's `Char.isWhitespace` is a
part. -/
def isBlank (c : Char) : Bool :=
  inRanges [(0x9, 0xd), (0x20, 0x20), (0x85, 0x85), (0xa0, 0xa0), (0x1680, 0x1680),
    (0x2000, 0x200a), (0x2028, 0x2029), (0x202f, 0x202f), (0x205f, 0x205f), (0x3000, 0x3000)] c

/-- Shown as itself inside quotes. -/
def isShown (c : Char) : Bool :=
  if c.toNat < 0x7f then 0x20 ≤ c.toNat
  else !inRanges unprintableRanges c && !inRanges extenderRanges c

def isDigit (c : Char) : Bool := '0' ≤ c && c ≤ '9'

/-- Letters and digits of all scripts. -/
def isAlphanumeric (c : Char) : Bool :=
  if c.toNat < 0x80 then c.isAlphanum else inRanges alphanumericRanges c

def digitValue (c : Char) : Nat := c.toNat - '0'.toNat

def trimChars (cs : List Char) : List Char :=
  ((cs.dropWhile isBlank).reverse.dropWhile isBlank).reverse

/-- The text without the white space at its two ends. -/
def trim (s : String) : String := String.ofList (trimChars s.toList)

end BlocklistSync.Text
