/-!
White space, and texts without the white space at their ends.
-/

namespace DefaultGateway.Text

def isBlank (c : Char) : Bool :=
  c == ' ' || (0x9 ≤ c.toNat && c.toNat ≤ 0xd) ||
    [0x85, 0xa0, 0x1680, 0x2028, 0x2029, 0x202f, 0x205f, 0x3000].contains c.toNat ||
    (0x2000 ≤ c.toNat && c.toNat ≤ 0x200a)

/-- Characters from the first that is not blank to the last. -/
def trimChars (l : List Char) : List Char :=
  ((l.dropWhile isBlank).reverse.dropWhile isBlank).reverse

def trim (s : String) : String := .ofList (trimChars s.toList)

theorem isBlank_of_isWhitespace {c : Char} (white : c.isWhitespace) : isBlank c := by
  have cases : c = ' ' ∨ c = '\t' ∨ c = '\r' ∨ c = '\n' := by
    simpa [Char.isWhitespace, or_assoc] using white
  rcases cases with rfl | rfl | rfl | rfl <;> decide

end DefaultGateway.Text
