import BlocklistSync.Text.Classes

/-! Values quoted inside messages: between double quotes, with escapes for the quote, the backslash
and everything that has no glyph of its own. -/
namespace BlocklistSync.Text.Quoted

def hexDigits (n : Nat) : List Char := Nat.toDigits 16 n

def escape (c : Char) : List Char :=
  if c = '\x00' then ['\\', '0']
  else if c = '\t' then ['\\', 't']
  else if c = '\r' then ['\\', 'r']
  else if c = '\n' then ['\\', 'n']
  else if c = '"' || c = '\\' then ['\\', c]
  else if isShown c then [c]
  else ['\\', 'u', '\x7b'] ++ hexDigits c.toNat ++ ['\x7d']

def encode (cs : List Char) : List Char := '"' :: cs.flatMap escape ++ ['"']

end Quoted

def quoted (s : String) : String := String.ofList (Quoted.encode s.toList)

end BlocklistSync.Text
