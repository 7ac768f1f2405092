import DefaultGateway.Text.Decimal
import DefaultGateway.Text.Hex

/-!
# Numerals at the front of a text

The digits of a number are read off the front of a text when what follows begins with no digit.
-/

namespace DefaultGateway.Text

/-- What reads back every single value of a list reads back the list. -/
theorem mapM_map_eq_some {α β : Type} {write : α → β} {read : β → Option α} {l : List α}
    (inverse : ∀ a ∈ l, read (write a) = some a) : (l.map write).mapM read = some l := by
  induction l with
  | nil => rfl
  | cons a l inductionHypothesis =>
      have later := inductionHypothesis fun b member => inverse b (List.mem_cons_of_mem a member)
      simp [inverse a List.mem_cons_self, later]

/-! ## Decimal digits -/

/-- A text that does not go on with a digit. -/
def EndsDigits (rest : List Char) : Prop := ∀ c ∈ rest.head?, c.isDigit = false

theorem endsDigits_cons {c : Char} (other : c.isDigit = false) (rest : List Char) :
    EndsDigits (c :: rest) := by
  intro d first
  cases first
  exact other

variable {digits rest : List Char}

theorem takeWhile_isDigit_append
    (allDigits : ∀ c ∈ digits, c.isDigit = true) (ends : EndsDigits rest) :
    (digits ++ rest).takeWhile Char.isDigit = digits := by
  rw [List.takeWhile_append_of_pos allDigits]
  cases rest with
  | nil => simp
  | cons c later =>
      rw [List.takeWhile_cons, if_neg (by simp [ends c rfl]), List.append_nil]

theorem dropWhile_isDigit_append
    (allDigits : ∀ c ∈ digits, c.isDigit = true) (ends : EndsDigits rest) :
    (digits ++ rest).dropWhile Char.isDigit = rest := by
  rw [List.dropWhile_append_of_pos allDigits]
  cases rest with
  | nil => rfl
  | cons c later => rw [List.dropWhile_cons, if_neg (by simp [ends c rfl])]

theorem isDigit_of_mem_toDigits {n : Nat} {c : Char} (member : c ∈ Nat.toDigits 10 n) :
    c.isDigit = true := Nat.isDigit_of_mem_toDigits (by decide) (by decide) member

/-- A number other than zero is written without a zero in front. -/
theorem head?_toDigits {n : Nat} (positive : 0 < n) : (Nat.toDigits 10 n).head? ≠ some '0' := by
  induction n using Nat.strongRecOn with
  | ind n inductionHypothesis =>
      by_cases small : n < 10
      · rw [Nat.toDigits_of_lt_base small]
        simp only [List.head?_cons, ne_eq, Option.some.injEq, Nat.digitChar_eq_zero]
        omega
      · have large : 10 ≤ n := by omega
        rw [Nat.toDigits_of_base_le (by decide) large, List.head?_append, Option.or_of_isSome]
        · exact inductionHypothesis (n / 10) (by omega) (by omega)
        · simp [Nat.toDigits_ne_nil]

/-! ## Hexadecimal digits -/

theorem hexDigitValue?_digitChar {n : Nat} (small : n < 16) :
    hexDigitValue? (Nat.digitChar n) = some n := by
  have all : ∀ n : Fin 16, hexDigitValue? (Nat.digitChar n) = some n.val := by decide
  exact all ⟨n, small⟩

theorem readHex_append_singleton {l : List Char} {c : Char} {n digit : Nat}
    (front : readHex l = some n) (last : hexDigitValue? c = some digit) :
    readHex (l ++ [c]) = some (n * 16 + digit) := by
  obtain ⟨values, found, folded⟩ := Option.map_eq_some_iff.1 front
  rw [readHex, List.mapM_append, found]
  simp [last, ← folded]

theorem readHex_hexDigits (n : Nat) : readHex (hexDigits n) = some n := by
  induction n using Nat.strongRecOn with
  | ind n inductionHypothesis =>
      rw [hexDigits]
      by_cases small : n < 16
      · rw [Nat.toDigits_of_lt_base small]
        simp [readHex, hexDigitValue?_digitChar small]
      · have large : 16 ≤ n := by omega
        rw [Nat.toDigits_of_base_le (by decide) large]
        have front : readHex (Nat.toDigits 16 (n / 16)) = some (n / 16) :=
          inductionHypothesis (n / 16) (by omega)
        have last := hexDigitValue?_digitChar (Nat.mod_lt n (by decide : 0 < 16))
        rw [readHex_append_singleton front last]
        congr 1
        omega

/-- A mark that is no digit does not occur among hexadecimal digits. -/
theorem not_mem_hexDigits {c : Char} (mark : hexDigitValue? c = none) (n : Nat) :
    c ∉ hexDigits n := by
  induction n using Nat.strongRecOn with
  | ind n inductionHypothesis =>
      rw [hexDigits]
      have apart {digit : Nat} (small : digit < 16) : c ≠ Nat.digitChar digit := by
        rintro rfl
        rw [hexDigitValue?_digitChar small] at mark
        cases mark
      by_cases small : n < 16
      · rw [Nat.toDigits_of_lt_base small, List.mem_singleton]
        exact apart small
      · have large : 16 ≤ n := by omega
        rw [Nat.toDigits_of_base_le (by decide) large, List.mem_append, List.mem_singleton, not_or]
        exact ⟨inductionHypothesis (n / 16) (by omega), apart (Nat.mod_lt n (by decide))⟩

end DefaultGateway.Text
