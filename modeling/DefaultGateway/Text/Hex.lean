/-!
Hexadecimal digits.
-/

namespace DefaultGateway.Text

/-- The value of a hexadecimal digit of either case. -/
def hexDigitValue? (c : Char) : Option Nat :=
  if c.isDigit then some (c.toNat - '0'.toNat)
  else if 'a' ≤ c ∧ c ≤ 'f' then some (c.toNat - 'a'.toNat + 10)
  else if 'A' ≤ c ∧ c ≤ 'F' then some (c.toNat - 'A'.toNat + 10)
  else none

def readHex (l : List Char) : Option Nat :=
  (l.mapM hexDigitValue?).map fun digits => digits.foldl (fun n digit => n * 16 + digit) 0

def charOfCode? (code : Nat) : Option Char :=
  if code.isValidChar then some (.ofNat code) else none

/-- The hexadecimal digits of a number, in lower case. -/
def hexDigits (n : Nat) : List Char := Nat.toDigits 16 n

end DefaultGateway.Text
