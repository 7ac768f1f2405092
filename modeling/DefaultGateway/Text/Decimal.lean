/-!
Whole numbers in decimal text.

Reading takes an optional sign and at least one digit, with any number of leading zeros, and
nothing else; `readDigits_toDigits` says that it takes back what printing writes.
-/

namespace DefaultGateway.Text

def readDigits (l : List Char) : Option Nat :=
  if l ≠ [] ∧ l.all Char.isDigit then some (Nat.ofDigitChars 10 l 0) else none

/-- A natural number below `bound`, perhaps after a plus sign. -/
def readNatural (bound : Nat) (l : List Char) : Option Nat :=
  (readDigits (match l with | '+' :: digits => digits | _ => l)).filter (· < bound)

/-- An integer of at least `-bound` and below `bound`, perhaps after a sign. -/
def readInteger (bound : Nat) (l : List Char) : Option Int :=
  match l with
  | '-' :: digits => ((readDigits digits).filter (· ≤ bound)).map fun n => -(n : Int)
  | _ => (readNatural bound l).map Int.ofNat

theorem readDigits_toDigits (n : Nat) : readDigits (Nat.toDigits 10 n) = some n := by
  have digits : (Nat.toDigits 10 n).all Char.isDigit := by
    simpa using fun c member => Nat.isDigit_of_mem_toDigits (by decide) (by decide) member
  simp [readDigits, digits, Nat.toDigits_ne_nil, Nat.ofDigitChars_toDigits]

end DefaultGateway.Text
