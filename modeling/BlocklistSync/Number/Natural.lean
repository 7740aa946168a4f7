import BlocklistSync.Text.Classes

/-! Natural numbers read from decimal text, with a ceiling. Reading goes digit by digit, so of two
faults the one further left is reported. -/
namespace BlocklistSync.Number

inductive NaturalError
  | empty
  | invalidDigit
  | tooLarge
  deriving Repr, DecidableEq

def NaturalError.message : NaturalError → String
  | .empty => "cannot parse integer from empty string"
  | .invalidDigit => "invalid digit found in string"
  | .tooLarge => "number too large to fit in target type"

def digitsUpTo (ceiling : Nat) : Nat → List Char → Except NaturalError Nat
  | value, [] => .ok value
  | value, c :: rest =>
    if !Text.isDigit c then .error .invalidDigit
    else
      let next := value * 10 + Text.digitValue c
      if ceiling < next then .error .tooLarge else digitsUpTo ceiling next rest

/-- An optional plus sign, then digits whose value is at most `ceiling`. -/
def readNatural (ceiling : Nat) (s : String) : Except NaturalError Nat :=
  match s.toList with
  | [] => .error .empty
  | ['+'] => .error .invalidDigit
  | '+' :: digits => digitsUpTo ceiling 0 digits
  | digits => digitsUpTo ceiling 0 digits

theorem digitsUpTo_le {ceiling value n : Nat} {cs : List Char} (h : value ≤ ceiling)
    (read : digitsUpTo ceiling value cs = .ok n) : n ≤ ceiling := by
  induction cs generalizing value with
  | nil => simp only [digitsUpTo, Except.ok.injEq] at read; omega
  | cons c rest ih =>
    simp only [digitsUpTo] at read
    split at read
    · cases read
    · split at read
      · cases read
      · exact ih (by omega) read

theorem readNatural_le {ceiling n : Nat} {s : String} (read : readNatural ceiling s = .ok n) :
    n ≤ ceiling := by
  simp only [readNatural] at read
  split at read
  · cases read
  · cases read
  · exact digitsUpTo_le (Nat.zero_le _) read
  · exact digitsUpTo_le (Nat.zero_le _) read

end BlocklistSync.Number
