import DefaultGateway.Instant.Text
import DefaultGateway.Proofs.Numerals
import Mathlib.Algebra.Group.Nat.Defs

/-!
# An instant is read back from its text

Main statement: `ofText?_text`. What is written has neither white space nor an offset, so each
part is read up to the mark that follows it.
-/

namespace DefaultGateway.Instant

open Text

/-! ## Numbers with zeros in front -/

theorem padded_ne_nil (width n : Nat) : padded width n ≠ [] := by
  simp [padded, Nat.toDigits_ne_nil]

theorem isDigit_of_mem_padded {width n : Nat} {c : Char} (member : c ∈ padded width n) :
    c.isDigit = true := by
  rcases List.mem_append.1 member with zero | digit
  · rw [List.eq_of_mem_replicate zero]
    rfl
  · exact isDigit_of_mem_toDigits digit

theorem padded_eq_cons (width n : Nat) :
    ∃ c later, padded width n = c :: later ∧ c.isDigit = true := by
  obtain ⟨c, later, written⟩ := List.exists_cons_of_ne_nil (padded_ne_nil width n)
  exact ⟨c, later, written, isDigit_of_mem_padded (written ▸ List.mem_cons_self)⟩

theorem ofDigitChars_padded (width n : Nat) : Nat.ofDigitChars 10 (padded width n) 0 = n := by
  rw [padded, Nat.ofDigitChars_append, Nat.ofDigitChars_replicate_zero, Nat.mul_zero,
    Nat.ofDigitChars_ten_toDigits]

theorem length_padded {width n : Nat} (wide : 0 < width) (fits : n < 10 ^ width) :
    (padded width n).length = width := by
  have short : (Nat.toDigits 10 n).length ≤ width :=
    (Nat.length_toDigits_le_iff (by decide) wide).2 fits
  rw [padded, List.length_append, List.length_replicate]
  omega

theorem isBlank_of_isDigit {c : Char} (digit : c.isDigit = true) : isBlank c = false := by
  have range : 48 ≤ c.toNat ∧ c.toNat ≤ 57 := by
    simp only [Char.isDigit, ge_iff_le, Bool.and_eq_true, decide_eq_true_eq,
      UInt32.le_iff_toNat_le] at digit
    exact digit
  have noSpace : c ≠ ' ' := by
    rintro rfl
    cases digit
  simp [isBlank, noSpace]
  omega

variable {l rest : List Char}

theorem skipBlank_cons {c : Char} (solid : isBlank c = false) (rest : List Char) :
    skipBlank (c :: rest) = c :: rest := by
  rw [skipBlank, List.dropWhile_cons, if_neg (by simp [solid])]

theorem skipBlank_padded (width n : Nat) (rest : List Char) :
    skipBlank (padded width n ++ rest) = padded width n ++ rest := by
  obtain ⟨c, later, written, digit⟩ := padded_eq_cons width n
  rw [written, List.cons_append, skipBlank_cons (isBlank_of_isDigit digit)]

theorem readNumber_padded {width n : Nat} (wide : 0 < width) (fits : n < 10 ^ width)
    (rest : List Char) : readNumber width (padded width n ++ rest) = some (n, rest) := by
  have filled := length_padded wide fits
  have front : (padded width n ++ rest).take width = padded width n := by
    rw [List.take_append_of_le_length (by omega), List.take_of_length_le (by omega)]
  have digits : (padded width n).takeWhile Char.isDigit = padded width n := by
    have ends : EndsDigits [] := by simp [EndsDigits]
    simpa using takeWhile_isDigit_append (fun _ => isDigit_of_mem_padded) ends
  rw [readNumber, skipBlank_padded, front, digits]
  simp [padded_ne_nil, ofDigitChars_padded]

theorem readMark_cons {mark : Char} (solid : isBlank mark = false) (rest : List Char) :
    readMark mark (mark :: rest) = some rest := by
  simp [readMark, skipBlank_cons solid]

theorem readMarked_cons {mark : Char} (solid : isBlank mark = false) {n : Nat} (fits : n < 100)
    (rest : List Char) : readMarked mark (mark :: (padded 2 n ++ rest)) = some (n, rest) := by
  rw [readMarked, readMark_cons solid]
  exact readNumber_padded (by decide) fits rest

/-! ## Years -/

theorem signed_padded (n : Nat) (toYear : Nat → Int) (ends : EndsDigits rest) :
    readYear.signed (padded 4 n ++ rest) toYear = some (toYear n, rest) := by
  have digits : (padded 4 n ++ rest).takeWhile Char.isDigit = padded 4 n :=
    takeWhile_isDigit_append (fun _ => isDigit_of_mem_padded) ends
  rw [readYear.signed, digits]
  simp [padded_ne_nil, ofDigitChars_padded]

/-- A year without a sign has four digits. -/
theorem readYear_unsigned {n : Nat} (fits : n < 10 ^ 4) (rest : List Char) :
    readYear (padded 4 n ++ rest) = some ((n : Int), rest) := by
  have number := readNumber_padded (by decide) fits rest
  have noSign {sign : Char} (other : sign.isDigit = false) (later : List Char) :
      padded 4 n ++ rest ≠ sign :: later := by
    intro same
    obtain ⟨c, more, written, digit⟩ := padded_eq_cons 4 n
    rw [written] at same
    cases same
    rw [digit] at other
    cases other
  unfold readYear
  rw [skipBlank_padded]
  split
  · exact absurd ‹_› (noSign (by decide) _)
  · exact absurd ‹_› (noSign (by decide) _)
  · rw [number]
    rfl

theorem readYear_yearChars (year : Int) (ends : EndsDigits rest) :
    readYear (yearChars year ++ rest) = some (year, rest) := by
  by_cases plain : 0 ≤ year ∧ year ≤ 9999
  · rw [yearChars, if_pos plain, readYear_unsigned (by omega), Int.toNat_of_nonneg plain.1]
  · by_cases negative : year < 0
    · have size : -(year.natAbs : Int) = year := by omega
      rw [yearChars, if_neg plain, if_pos negative, List.cons_append, readYear,
        skipBlank_cons (by decide)]
      simp only [signed_padded _ _ ends, size]
    · have size : (year.natAbs : Int) = year := by omega
      rw [yearChars, if_neg plain, if_neg negative, List.cons_append, readYear,
        skipBlank_cons (by decide)]
      simp only [signed_padded _ _ ends, Int.ofNat_eq_natCast, size]

/-! ## The fraction of a second -/

theorem readFraction_padded {width n : Nat} (wide : 0 < width ∧ width ≤ 9)
    (fits : n < 10 ^ width) (ends : EndsDigits rest) :
    readFraction ('.' :: (padded width n ++ rest)) = some (n * 10 ^ (9 - width), rest) := by
  have filled := length_padded wide.1 fits
  have cut : EndsDigits (rest.take (9 - width)) := by
    cases rest with
    | nil => simpa using ends
    | cons c later =>
        cases 9 - width with
        | zero => simp [EndsDigits]
        | succ room => exact endsDigits_cons (ends c rfl) (later.take room)
  have digits : ((padded width n ++ rest).take 9).takeWhile Char.isDigit = padded width n := by
    rw [List.take_append, List.take_of_length_le (by omega), filled]
    exact takeWhile_isDigit_append (fun _ => isDigit_of_mem_padded) cut
  have later : (padded width n ++ rest).dropWhile Char.isDigit = rest :=
    dropWhile_isDigit_append (fun _ => isDigit_of_mem_padded) ends
  simp [readFraction, digits, later, padded_ne_nil, filled, ofDigitChars_padded]

/-- The fraction is read back from three digits, from six or from nine. -/
theorem readFraction_fractionChars {nanosecond : Nat} (fits : nanosecond < 1000000000)
    (ends : EndsDigits rest) (noPoint : rest.head? ≠ some '.') :
    readFraction (fractionChars nanosecond ++ rest) = some (nanosecond, rest) := by
  by_cases zero : nanosecond = 0
  · rw [fractionChars, if_pos zero, List.nil_append, zero]
    unfold readFraction
    split
    · exact absurd rfl noPoint
    · rfl
  · by_cases milli : nanosecond % 1000000 = 0
    · have whole : nanosecond / 1000000 * 10 ^ (9 - 3) = nanosecond := by omega
      rw [fractionChars, if_neg zero, if_pos milli, List.cons_append,
        readFraction_padded (by decide) (by omega) ends, whole]
    · by_cases micro : nanosecond % 1000 = 0
      · have whole : nanosecond / 1000 * 10 ^ (9 - 6) = nanosecond := by omega
        rw [fractionChars, if_neg zero, if_neg milli, if_pos micro, List.cons_append,
          readFraction_padded (by decide) (by omega) ends, whole]
      · have whole : nanosecond * 10 ^ (9 - 9) = nanosecond := by omega
        rw [fractionChars, if_neg zero, if_neg milli, if_neg micro, List.cons_append,
          readFraction_padded (by decide) (by omega) ends, whole]

/-! ## The whole of an instant -/

theorem day_le (year : Int) (month : Nat) : daysInMonth year month ≤ 31 := by
  unfold daysInMonth
  split <;> try decide
  split <;> decide

theorem isDate_bounds {year : Int} {month day : Nat} (date : isDate year month day = true) :
    month < 100 ∧ day < 100 := by
  have ⟨positive, last⟩ : 1 ≤ day ∧ day ≤ daysInMonth year month := by
    simp only [isDate, Bool.and_eq_true, decide_eq_true_eq] at date
    exact ⟨date.1.2, date.2⟩
  refine ⟨?_, by have := day_le year month; omega⟩
  by_cases early : month < 100
  · exact early
  · have none : daysInMonth year month = 0 := by
      unfold daysInMonth
      split <;> omega
    omega

theorem isTime_bounds {hour minute second nanosecond : Nat}
    (time : isTime hour minute second nanosecond = true) :
    hour < 24 ∧ minute < 60 ∧ second ≤ 60 ∧ nanosecond < 1000000000 := by
  simpa [isTime, and_assoc] using time

/-- Clocks of universal time show the fields of the instant itself. -/
theorem ofLocal?_self (t : Instant) :
    ofLocal? t.year t.month t.day t.hour t.minute t.second t.nanosecond 0 = some t := by
  have ⟨hour, minute, _, _⟩ := isTime_bounds t.timeValid
  have early : ¬((t.hour : Int) * 60 + t.minute - 0 < 0) := by omega
  have late : ¬((t.hour : Int) * 60 + t.minute - 0 ≥ 1440) := by omega
  have minutes : (((t.hour : Int) * 60 + t.minute - 0) % 1440).toNat = t.hour * 60 + t.minute := by
    omega
  have hours : (t.hour * 60 + t.minute) / 60 = t.hour := by omega
  have left : (t.hour * 60 + t.minute) % 60 = t.minute := by omega
  simp only [ofLocal?, t.dateValid, Bool.not_true, Bool.false_eq_true, if_false, if_neg early,
    if_neg late, minutes, hours, left, ofFields?, dif_pos, t.timeValid]

theorem readChars_toChars (t : Instant) : readChars t.toChars = some t := by
  have ⟨month, day⟩ := isDate_bounds t.dateValid
  have ⟨hour, minute, second, nanosecond⟩ := isTime_bounds t.timeValid
  have fraction : readFraction (fractionChars t.nanosecond ++ ['Z']) =
      some (t.nanosecond, ['Z']) :=
    readFraction_fractionChars nanosecond (endsDigits_cons (by decide) _) (by simp)
  have offset : readOffset (skipBlank ['Z']) = some (0, []) := by decide
  have accepted : ¬((0 : Int).natAbs ≥ 1440 ∨ (!(skipBlank []).isEmpty) = true ∨
      (!isTime t.hour t.minute t.second t.nanosecond) = true) := by
    simp [t.timeValid, skipBlank]
  simp only [toChars, readChars, List.append_assoc, List.cons_append]
  rw [readYear_yearChars t.year (endsDigits_cons (by decide) _)]
  simp only [Option.bind_eq_bind, Option.bind_some,
    readMarked_cons (by decide : isBlank '-' = false) month,
    readMarked_cons (by decide : isBlank '-' = false) day,
    readNumber_padded (by decide) (by omega : t.hour < 10 ^ 2),
    readMarked_cons (by decide : isBlank ':' = false) (by omega : t.minute < 100),
    readMarked_cons (by decide : isBlank ':' = false) (by omega : t.second < 100),
    fraction, offset]
  rw [if_neg accepted, ofLocal?_self]

/-- An instant is read back from its text. -/
theorem ofText?_text (t : Instant) : ofText? t.text = some t := by
  rw [ofText?, text, String.toList_ofList, readChars_toChars]

end DefaultGateway.Instant
