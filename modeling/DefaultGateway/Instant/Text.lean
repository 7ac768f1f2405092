import DefaultGateway.Instant.Basic
import DefaultGateway.Text.Blank
import DefaultGateway.Text.Decimal

/-!
Instants as text in the manner of RFC 3339. What is written is always universal time; what is read
may be the time of any offset, and may have white space where the written form has none.
-/

namespace DefaultGateway.Instant

open Text

/-! ## Writing -/

/-- The digits of a number, with zeros in front up to a width. -/
def padded (width n : Nat) : List Char :=
  let digits := Nat.toDigits 10 n
  List.replicate (width - digits.length) '0' ++ digits

/-- Years of more or less than four digits carry a sign. -/
def yearChars (year : Int) : List Char :=
  if 0 ≤ year ∧ year ≤ 9999 then padded 4 year.toNat
  else (if year < 0 then '-' else '+') :: padded 4 year.natAbs

/-- The fraction of a second to as many thousands as it needs. -/
def fractionChars (nanosecond : Nat) : List Char :=
  if nanosecond = 0 then []
  else if nanosecond % 1000000 = 0 then '.' :: padded 3 (nanosecond / 1000000)
  else if nanosecond % 1000 = 0 then '.' :: padded 6 (nanosecond / 1000)
  else '.' :: padded 9 nanosecond

def toChars (t : Instant) : List Char :=
  yearChars t.year ++ '-' :: padded 2 t.month ++ '-' :: padded 2 t.day ++
    'T' :: padded 2 t.hour ++ ':' :: padded 2 t.minute ++ ':' :: padded 2 t.second ++
    fractionChars t.nanosecond ++ ['Z']

def text (t : Instant) : String := .ofList t.toChars

/-! ## Reading -/

def skipBlank (l : List Char) : List Char := l.dropWhile isBlank

/-- A number of one to `width` digits, perhaps after white space. -/
def readNumber (width : Nat) (l : List Char) : Option (Nat × List Char) :=
  let l := skipBlank l
  let digits := (l.take width).takeWhile Char.isDigit
  if digits.isEmpty then none
  else some (Nat.ofDigitChars 10 digits 0, l.drop digits.length)

/-- A year of up to four digits, or of any number of them after a sign. -/
def readYear (l : List Char) : Option (Int × List Char) :=
  match skipBlank l with
  | '-' :: rest => signed rest fun n => -(n : Int)
  | '+' :: rest => signed rest Int.ofNat
  | rest => (readNumber 4 rest).map fun (n, rest) => ((n : Int), rest)
where
  signed (l : List Char) (toYear : Nat → Int) : Option (Int × List Char) :=
    let digits := l.takeWhile Char.isDigit
    if digits.isEmpty then none
    else some (toYear (Nat.ofDigitChars 10 digits 0), l.drop digits.length)

/-- What is left after a mark, perhaps after white space. -/
def readMark (mark : Char) (l : List Char) : Option (List Char) :=
  match skipBlank l with
  | c :: rest => if c = mark then some rest else none
  | [] => none

def readMarked (mark : Char) (l : List Char) : Option (Nat × List Char) :=
  (readMark mark l).bind (readNumber 2)

/-- The nanoseconds after a point, if there is a point; digits beyond the ninth are passed over. -/
def readFraction : List Char → Option (Nat × List Char)
  | '.' :: rest =>
    let digits := (rest.take 9).takeWhile Char.isDigit
    if digits.isEmpty then none
    else
      some (Nat.ofDigitChars 10 digits 0 * Nat.pow 10 (9 - digits.length),
        rest.dropWhile Char.isDigit)
  | l => some (0, l)

def digitBelow? (bound : Nat) (c : Char) : Option Nat :=
  if c.isDigit then some (c.toNat - '0'.toNat) |>.filter (· < bound) else none

/-- Hours and minutes of an offset, in minutes. -/
def readSpan (l : List Char) : Option (Nat × List Char) :=
  match l with
  | h :: i :: rest => do
    let tens ← digitBelow? 10 h
    let ones ← digitBelow? 10 i
    match rest.dropWhile fun c => c == ':' || isBlank c with
    | m :: n :: rest => do
      let minuteTens ← digitBelow? 6 m
      let minuteOnes ← digitBelow? 10 n
      some ((tens * 10 + ones) * 60 + minuteTens * 10 + minuteOnes, rest)
    | _ => none
  | _ => none

/-- The offset from universal time in minutes, less than a day. -/
def readOffset (l : List Char) : Option (Int × List Char) :=
  match l with
  | 'Z' :: rest | 'z' :: rest => some (0, rest)
  | '+' :: rest => (readSpan rest).map fun (n, rest) => ((n : Int), rest)
  | '-' :: rest | '\u2212' :: rest => (readSpan rest).map fun (n, rest) => (-(n : Int), rest)
  | u :: t :: c :: rest =>
    if u.toUpper = 'U' ∧ t.toUpper = 'T' ∧ c.toUpper = 'C' then some (0, rest) else none
  | _ => none

def readChars (l : List Char) : Option Instant := do
  let (year, l) ← readYear l
  let (month, l) ← readMarked '-' l
  let (day, l) ← readMarked '-' l
  let l ← match l with
    | 'T' :: rest | 't' :: rest | ' ' :: rest => some rest
    | _ => none
  let (hour, l) ← readNumber 2 l
  let (minute, l) ← readMarked ':' l
  let (second, l) ← readMarked ':' l
  let (nanosecond, l) ← readFraction l
  let (offset, l) ← readOffset (skipBlank l)
  if offset.natAbs ≥ 1440 ∨ !(skipBlank l).isEmpty ∨ !isTime hour minute second nanosecond then none
  else ofLocal? year month day hour minute second nanosecond offset

def ofText? (text : String) : Option Instant := readChars text.toList

end DefaultGateway.Instant
