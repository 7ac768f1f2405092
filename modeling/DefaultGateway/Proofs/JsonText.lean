import DefaultGateway.Json.Reader
import DefaultGateway.Json.Writer
import DefaultGateway.Proofs.Numerals

/-!
# What is written as JSON is read back

In either layout, the text of a value is read as that value. Left out are numbers that are not
whole, of which the reader keeps the text it finds, and strings without a text, which are written
as something else.
-/

namespace DefaultGateway.Json

open Text

variable {l rest : List Char}

/-! ## White space -/

/-- Nothing but white space. -/
def Blank (l : List Char) : Prop := ∀ c ∈ l, isBlank c = true

theorem skipBlank_append (blank : Blank l) (rest : List Char) :
    skipBlank (l ++ rest) = skipBlank rest :=
  List.dropWhile_append_of_pos blank

theorem skipBlank_cons {c : Char} (solid : isBlank c = false) (rest : List Char) :
    skipBlank (c :: rest) = c :: rest := by
  rw [skipBlank, List.dropWhile_cons, if_neg (by simp [solid])]

theorem skipBlank_skipBlank (l : List Char) : skipBlank (skipBlank l) = skipBlank l := by
  induction l with
  | nil => rfl
  | cons c rest inductionHypothesis =>
      cases blank : isBlank c with
      | true =>
          have skipped : skipBlank (c :: rest) = skipBlank rest := by
            rw [skipBlank, List.dropWhile_cons, if_pos blank, ← skipBlank]
          rw [skipped, inductionHypothesis]
      | false => rw [skipBlank_cons blank, skipBlank_cons blank]

theorem readValue_skipBlank (fuel : Nat) (l : List Char) :
    readValue fuel (skipBlank l) = readValue fuel l := by
  cases fuel with
  | zero => rfl
  | succ fuel => rw [readValue, readValue, skipBlank_skipBlank]

theorem readItems_skipBlank (fuel : Nat) (l : List Char) :
    readItems fuel (skipBlank l) = readItems fuel l := by
  cases fuel with
  | zero => rfl
  | succ fuel => rw [readItems, readItems, readValue_skipBlank]

theorem readFields_skipBlank (fuel : Nat) (l : List Char) :
    readFields fuel (skipBlank l) = readFields fuel l := by
  cases fuel with
  | zero => rfl
  | succ fuel => rw [readFields, readFields, skipBlank_skipBlank]

/-! ## Strings -/

/-- A control character without a letter of its own is written as four digits of its code. -/
theorem control_digits {n : Nat} (control : n < 0x20) :
    (if n < 0x10 then ['0'] else []) ++ hexDigits n =
        [Nat.digitChar (n / 16), Nat.digitChar (n % 16)] ∧
      readHex ['0', '0', Nat.digitChar (n / 16), Nat.digitChar (n % 16)] = some n := by
  have all : ∀ n : Fin 0x20,
      (if n.val < 0x10 then ['0'] else []) ++ hexDigits n.val =
          [Nat.digitChar (n.val / 16), Nat.digitChar (n.val % 16)] ∧
        readHex ['0', '0', Nat.digitChar (n.val / 16), Nat.digitChar (n.val % 16)] =
          some n.val := by
    decide
  exact all ⟨n, control⟩

theorem readCodes_letter {letter c : Char} (other : letter ≠ 'u') (found : escaped? letter = some c)
    (rest : List Char) :
    readCodes ('\\' :: letter :: rest) =
      (readCodes rest).map fun read => (c.toNat :: read.1, read.2) := by
  rw [readCodes]
  · rw [found]
    cases readCodes rest <;> rfl
  · rintro _ _ _ _ _ rfl
    exact absurd rfl other

theorem readCodes_escapeChar (c : Char) (rest : List Char) :
    readCodes (escapeChar c ++ rest) =
      (readCodes rest).map fun read => (c.toNat :: read.1, read.2) := by
  unfold escapeChar
  split
  case h_8 quote backslash _ _ _ _ _ =>
    split
    · rename_i control
      obtain ⟨digits, read⟩ := control_digits control
      rw [List.append_assoc ['\\', 'u', '0', '0'], digits]
      simp only [List.cons_append, List.nil_append, readCodes, read]
      cases readCodes rest <;> rfl
    · rename_i printable
      rw [List.cons_append, List.nil_append, readCodes, if_neg printable]
      · exact fun same => quote same
      · exact fun _ _ _ _ _ same => absurd same backslash
      · exact fun _ _ same => absurd same backslash
  all_goals exact readCodes_letter (by decide) rfl rest

theorem readCodes_flatMap (text rest : List Char) :
    readCodes (text.flatMap escapeChar ++ '"' :: rest) = some (text.map Char.toNat, rest) := by
  induction text with
  | nil => rfl
  | cons c text inductionHypothesis =>
      rw [List.flatMap_cons, List.append_assoc, readCodes_escapeChar, inductionHypothesis]
      rfl

theorem charOfCode?_toNat (c : Char) : charOfCode? c.toNat = some c := by
  have valid : c.toNat.isValidChar := c.valid
  rw [charOfCode?, if_pos valid, Char.ofNat_toNat]

/-- The codes of characters are no halves of surrogate pairs. -/
theorem textOfCodes_map (text : List Char) : textOfCodes (text.map Char.toNat) = some text := by
  induction text with
  | nil => rfl
  | cons c text inductionHypothesis =>
      cases text with
      | nil => simp [textOfCodes, charOfCode?_toNat]
      | cons d text =>
          have apart : ¬(0xd800 ≤ c.toNat ∧ c.toNat < 0xdc00 ∧ 0xdc00 ≤ d.toNat ∧
              d.toNat < 0xe000) := by
            have valid : c.toNat < 0xd800 ∨ 0xdfff < c.toNat ∧ c.toNat < 0x110000 := c.valid
            omega
          rw [List.map_cons] at inductionHypothesis
          simp only [List.map_cons, textOfCodes, if_neg apart, charOfCode?_toNat,
            inductionHypothesis]
          rfl

/-- A string is read back after its opening quote. -/
theorem readString_literal (text : String) (rest : List Char) :
    readString (text.toList.flatMap escapeChar ++ '"' :: rest) = some (some text, rest) := by
  simp only [readString, readCodes_flatMap, Option.map_some, textOfCodes_map, String.ofList_toList]

/-! ## Numbers -/

/-- What may follow a number: neither a digit nor anything else that would belong to it. -/
structure EndsNumber (rest : List Char) : Prop where
  digits : EndsDigits rest
  fraction : rest.head? ≠ some '.'
  exponent : rest.head? ≠ some 'e' ∧ rest.head? ≠ some 'E'

theorem readWhole_toDigits (n : Nat) (ends : EndsDigits rest) :
    readWhole (Nat.toDigits 10 n ++ rest) = some (Nat.toDigits 10 n, rest) := by
  have digits : readDigits (Nat.toDigits 10 n ++ rest) = some (Nat.toDigits 10 n, rest) := by
    rw [readDigits, takeWhile_isDigit_append (fun _ => isDigit_of_mem_toDigits) ends,
      dropWhile_isDigit_append (fun _ => isDigit_of_mem_toDigits) ends]
    simp [Nat.toDigits_ne_nil]
  have leading : ¬(1 < (Nat.toDigits 10 n).length ∧ (Nat.toDigits 10 n).head? = some '0') := by
    rintro ⟨long, zero⟩
    by_cases positive : 0 < n
    · exact head?_toDigits positive zero
    · obtain rfl : n = 0 := by omega
      exact absurd long (by decide)
  simp only [readWhole, digits, if_neg leading]

theorem readFraction_of_ends (ends : EndsNumber rest) : readFraction rest = some ([], rest) := by
  unfold readFraction
  split
  · exact absurd rfl ends.fraction
  · rfl

theorem readExponent_of_ends (ends : EndsNumber rest) : readExponent rest = some ([], rest) := by
  cases rest with
  | nil => rfl
  | cons c later =>
      have other : ¬(c = 'e' ∨ c = 'E') := by
        simpa [not_or] using ends.exponent
      simp only [readExponent, if_neg other]

/-- Digits without sign, fraction and exponent are a number that is not negative. -/
theorem readNumber_toDigits (n : Nat) (ends : EndsNumber rest) :
    readNumber (Nat.toDigits 10 n ++ rest) = some (.integer n, rest) := by
  have whole := readWhole_toDigits n ends.digits
  have fraction := readFraction_of_ends ends
  have exponent := readExponent_of_ends ends
  unfold readNumber
  split
  rename_i sign digits parted
  split at parted
  · -- The first digit is no sign.
    rename_i later signed
    have first : (Nat.toDigits 10 n).head? = some '-' := by
      cases written : Nat.toDigits 10 n with
      | nil => exact absurd written Nat.toDigits_ne_nil
      | cons c more =>
          rw [written] at signed
          cases signed
          rfl
    exact absurd (isDigit_of_mem_toDigits (List.mem_of_mem_head? first)) (by decide)
  · cases parted
    simp [whole, fraction, exponent]

theorem readNumber_writeInteger (n : Int) (ends : EndsNumber rest) :
    readNumber (writeInteger n ++ rest) = some (.integer n, rest) := by
  cases n with
  | ofNat n => exact readNumber_toDigits n ends
  | negSucc n =>
      have whole := readWhole_toDigits (n + 1) ends.digits
      have fraction := readFraction_of_ends ends
      have exponent := readExponent_of_ends ends
      simp [writeInteger, readNumber, whole, fraction, exponent, Int.negSucc_eq]

theorem endsNumber_nil : EndsNumber [] := ⟨by simp [EndsDigits], by simp, by simp⟩

theorem endsNumber_cons
    {c : Char} (other : c.isDigit = false) (noPoint : c ≠ '.') (noExponent : c ≠ 'e' ∧ c ≠ 'E') :
    EndsNumber (c :: rest) :=
  ⟨endsDigits_cons other rest, by simpa using noPoint, by simpa using noExponent⟩

theorem endsNumber_comma (rest : List Char) : EndsNumber (',' :: rest) :=
  endsNumber_cons (by decide) (by decide) (by decide)

theorem endsNumber_append (blank : Blank l) (ends : EndsNumber rest) : EndsNumber (l ++ rest) := by
  cases l with
  | nil => exact ends
  | cons c later =>
      have white : c = ' ' ∨ c = '\n' ∨ c = '\t' ∨ c = '\r' := by
        simpa [isBlank, or_assoc] using blank c (by simp)
      rcases white with rfl | rfl | rfl | rfl <;>
        exact endsNumber_cons (by decide) (by decide) (by decide)

/-! ## Layouts -/

/-- Between the parts of a collection there is nothing but white space. -/
structure Layout.Blank (layout : Layout) : Prop where
  beforeEntry : ∀ depth, Json.Blank (layout.beforeEntry depth)
  afterColon : Json.Blank layout.afterColon

theorem Layout.blank_compact : Layout.compact.Blank where
  beforeEntry _ _ member := absurd member (by simp [Layout.compact])
  afterColon _ member := absurd member (by simp [Layout.compact])

theorem Layout.blank_indented : Layout.indented.Blank where
  beforeEntry depth c member := by
    rcases List.mem_cons.1 member with rfl | space
    · decide
    · rw [List.eq_of_mem_replicate space]
      decide
  afterColon c member := by
    rw [List.mem_singleton.1 member]
    decide

/-- Entries with commas between them. -/
def joined (layout : Layout) (depth : Nat) (entries : List (List Char)) : List Char :=
  [','].intercalate (entries.map (layout.beforeEntry depth ++ ·))

theorem joined_singleton (layout : Layout) (depth : Nat) (entry : List Char) :
    joined layout depth [entry] = layout.beforeEntry depth ++ entry := by
  simp [joined]

theorem joined_cons (layout : Layout) (depth : Nat) (entry next : List Char)
    (more : List (List Char)) :
    joined layout depth (entry :: next :: more) =
      layout.beforeEntry depth ++ (entry ++ ',' :: joined layout depth (next :: more)) := by
  rw [joined, List.map_cons, List.intercalate_cons_of_ne_nil (by simp)]
  simp [joined]

theorem enclose_eq
    (layout : Layout) (depth : Nat) (left right : Char) {entries : List (List Char)}
    (someEntry : entries ≠ []) :
    enclose layout depth left right entries =
      left :: (joined layout (depth + 1) entries ++ (layout.beforeEntry depth ++ [right])) := by
  rw [enclose, if_neg (by simpa using someEntry)]
  simp [joined]

/-! ## Values -/

mutual

/-- Whether all numbers in a value are whole, and all strings have texts. -/
def isExact : Json → Bool
  | .decimal _ => false
  | .string text => text.isSome
  | .list items => areExact items
  | .object fields => haveExact fields
  | _ => true

def areExact : List Json → Bool
  | [] => true
  | item :: rest => item.isExact && areExact rest

def haveExact : List (Text × Json) → Bool
  | [] => true
  | (name, value) :: rest => name.isSome && value.isExact && haveExact rest

end

variable {layout : Layout}

/-! ### What the reader does at a first character -/

variable {fuel : Nat}

theorem readValue_string (fuel : Nat) (l : List Char) :
    readValue (fuel + 1) ('"' :: l) =
      (readString l).map fun (text, rest) => (.string text, rest) := rfl

theorem isBlank_of_isDigit {c : Char} (digit : c.isDigit = true) : isBlank c = false := by
  cases blank : isBlank c with
  | false => rfl
  | true =>
      have white : c = ' ' ∨ c = '\n' ∨ c = '\t' ∨ c = '\r' := by
        simpa [isBlank, or_assoc] using blank
      rcases white with rfl | rfl | rfl | rfl <;> cases digit

theorem readValue_number {c : Char} (first : c.isDigit = true ∨ c = '-') (l : List Char) :
    readValue (fuel + 1) (c :: l) = readNumber (c :: l) := by
  have solid : isBlank c = false := by
    rcases first with digit | rfl
    · exact isBlank_of_isDigit digit
    · decide
  rw [readValue, skipBlank_cons solid]
  split
  case h_7 => rfl
  all_goals
    rename_i same
    cases same
    exact absurd first (by decide)

/-- A list that does not end at once is read item by item. -/
theorem readValue_list {c : Char} {later : List Char} (first : skipBlank l = c :: later)
    (goesOn : c ≠ ']') :
    readValue (fuel + 1) ('[' :: l) =
      (readItems fuel l).map fun (items, rest) => (.list items, rest) := by
  rw [← readItems_skipBlank, first, readValue, skipBlank_cons (by decide)]
  simp only [first]
  split
  · rename_i same
    cases same
    exact absurd rfl goesOn
  · rfl

theorem readValue_object {later : List Char} (first : skipBlank l = '"' :: later) :
    readValue (fuel + 1) ('\x7b' :: l) =
      (readFields fuel l).map fun (fields, rest) => (.object fields, rest) := by
  rw [← readFields_skipBlank, first, readValue, skipBlank_cons (by decide)]
  simp only [first]
  rfl

theorem readItems_last {item : Json} {after : List Char}
    (first : readValue fuel l = some (item, after)) (ended : skipBlank after = ']' :: rest) :
    readItems (fuel + 1) l = some ([item], rest) := by
  simp [readItems, first, ended]

theorem readItems_more {item : Json} {after : List Char}
    (first : readValue fuel l = some (item, after)) (goesOn : skipBlank after = ',' :: rest) :
    readItems (fuel + 1) l =
      (readItems fuel rest).map fun (items, rest) => (item :: items, rest) := by
  simp [readItems, first, goesOn]

theorem readFields_last {name : Text} {value : Json} {inName colon inValue after : List Char}
    (opened : skipBlank l = '"' :: inName) (named : readString inName = some (name, colon))
    (parted : skipBlank colon = ':' :: inValue)
    (first : readValue fuel inValue = some (value, after))
    (ended : skipBlank after = '\x7d' :: rest) :
    readFields (fuel + 1) l = some ([(name, value)], rest) := by
  simp [readFields, opened, named, parted, first, ended]

theorem readFields_more {name : Text} {value : Json} {inName colon inValue after : List Char}
    (opened : skipBlank l = '"' :: inName) (named : readString inName = some (name, colon))
    (parted : skipBlank colon = ':' :: inValue)
    (first : readValue fuel inValue = some (value, after))
    (goesOn : skipBlank after = ',' :: rest) :
    readFields (fuel + 1) l =
      (readFields fuel rest).map fun (fields, rest) => ((name, value) :: fields, rest) := by
  simp [readFields, opened, named, parted, first, goesOn]

/-! ### What the writer begins with -/

variable {layout : Layout}

theorem literal_eq (text : String) :
    literal (some text) = '"' :: (text.toList.flatMap escapeChar ++ ['"']) := rfl

/-- A number begins with a digit or a minus sign. -/
theorem writeInteger_eq_cons (n : Int) :
    ∃ c later, writeInteger n = c :: later ∧ (c.isDigit = true ∨ c = '-') := by
  cases n with
  | ofNat n =>
      cases written : Nat.toDigits 10 n with
      | nil => exact absurd written Nat.toDigits_ne_nil
      | cons c later =>
          exact ⟨c, later, written, .inl (isDigit_of_mem_toDigits (written ▸ List.mem_cons_self))⟩
  | negSucc n => exact ⟨'-', _, rfl, .inr rfl⟩

/-- A value begins with something else than white space or the end of a list. -/
theorem writeValue_eq_cons (layout : Layout) (depth : Nat) {v : Json} (exact : v.isExact = true) :
    ∃ c later, writeValue layout depth v = c :: later ∧ isBlank c = false ∧ c ≠ ']' := by
  have enclosed (left right : Char) (entries : List (List Char)) :
      ∃ later, enclose layout depth left right entries = left :: later := by
    unfold enclose
    split
    · exact ⟨_, rfl⟩
    · exact ⟨_, rfl⟩
  cases v with
  | null => exact ⟨'n', _, rfl, by decide, by decide⟩
  | bool value =>
      cases value
      · exact ⟨'f', _, rfl, by decide, by decide⟩
      · exact ⟨'t', _, rfl, by decide, by decide⟩
  | integer n =>
      obtain ⟨c, later, written, first⟩ := writeInteger_eq_cons n
      refine ⟨c, later, by rw [writeValue, written], ?_⟩
      rcases first with digit | rfl
      · refine ⟨isBlank_of_isDigit digit, ?_⟩
        rintro rfl
        cases digit
      · exact ⟨by decide, by decide⟩
  | decimal digits => cases exact
  | string text =>
      refine ⟨'"', (text.getD "\ufffd").toList.flatMap escapeChar ++ ['"'], rfl, ?_, ?_⟩ <;> decide
  | list items =>
      obtain ⟨later, written⟩ := enclosed '[' ']' (writeItems layout (depth + 1) items)
      exact ⟨'[', later, written, by decide, by decide⟩
  | object fields =>
      obtain ⟨later, written⟩ := enclosed '\x7b' '\x7d' (writeFields layout (depth + 1) fields)
      exact ⟨'\x7b', later, written, by decide, by decide⟩

theorem writeField_eq_cons (layout : Layout) (depth : Nat) (name : Text) (value : Json) :
    literal name ++ ':' :: layout.afterColon ++ writeValue layout depth value =
      '"' :: ((name.getD "\ufffd").toList.flatMap escapeChar ++ ['"'] ++ ':' :: layout.afterColon ++
        writeValue layout depth value) := rfl

/-! ### The whole of a value

Each reader goes along with its writer. Its fuel exceeds the length of the text: what stands inside
brackets is shorter by the brackets, and what follows a comma by the comma.
-/

theorem readValue_append (white : Blank l) (fuel : Nat) (rest : List Char) :
    readValue fuel (l ++ rest) = readValue fuel rest := by
  rw [← readValue_skipBlank, skipBlank_append white, readValue_skipBlank]

theorem skipBlank_closing (white : Blank l) {c : Char} (solid : isBlank c = false) :
    skipBlank (l ++ c :: rest) = c :: rest := by
  rw [skipBlank_append white, skipBlank_cons solid]

theorem joined_eq_append (layout : Layout) (depth : Nat) (entry : List Char)
    (more : List (List Char)) :
    ∃ later,
      joined layout depth (entry :: more) = layout.beforeEntry depth ++ (entry ++ later) := by
  cases more with
  | nil => exact ⟨[], by rw [joined_singleton, List.append_nil]⟩
  | cons next more => exact ⟨_, joined_cons layout depth entry next more⟩

/-- What is joined begins with its first entry, after white space. -/
theorem skipBlank_joined (blank : layout.Blank) (depth : Nat) {entry later : List Char} {c : Char}
    (begins : entry = c :: later) (solid : isBlank c = false) (more : List (List Char))
    (rest : List Char) :
    ∃ after, skipBlank (joined layout depth (entry :: more) ++ rest) = c :: after := by
  obtain ⟨others, split⟩ := joined_eq_append layout depth entry more
  refine ⟨later ++ others ++ rest, ?_⟩
  rw [split, begins, List.append_assoc, List.append_assoc, List.cons_append,
    skipBlank_closing (blank.beforeEntry depth) solid, List.append_assoc]

mutual

theorem readValue_writeValue (blank : layout.Blank) :
    ∀ (v : Json) (depth fuel : Nat) (rest : List Char), v.isExact = true → EndsNumber rest →
      (writeValue layout depth v).length < fuel →
      readValue fuel (writeValue layout depth v ++ rest) = some (v, rest)
  | _, _, 0, _, _, _, enough => by cases enough
  | .null, _, _ + 1, _, _, _, _ => rfl
  | .bool true, _, _ + 1, _, _, _, _ => rfl
  | .bool false, _, _ + 1, _, _, _, _ => rfl
  | .integer n, _, fuel + 1, rest, _, ends, _ => by
      obtain ⟨c, later, written, first⟩ := writeInteger_eq_cons n
      rw [writeValue, written, List.cons_append, readValue_number first, ← List.cons_append,
        ← written, readNumber_writeInteger n ends]
  | .decimal _, _, _, _, exact, _, _ => by cases exact
  | .string none, _, _, _, exact, _, _ => by cases exact
  | .string (some text), _, fuel + 1, rest, _, _, _ => by
      rw [writeValue, literal_eq, List.cons_append, readValue_string, List.append_assoc,
        List.cons_append, List.nil_append, readString_literal]
      rfl
  | .list [], _, _ + 1, _, _, _, _ => rfl
  | .list (item :: items), depth, fuel + 1, rest, exact, _, enough => by
      have written :
          writeValue layout depth (.list (item :: items)) =
            '[' :: (joined layout (depth + 1) (writeItems layout (depth + 1) (item :: items)) ++
              (layout.beforeEntry depth ++ [']'])) :=
        enclose_eq layout depth '[' ']' (by simp [writeItems])
      rw [written] at enough ⊢
      have inner := readItems_writeItems blank (item :: items) (depth + 1) fuel
        (layout.beforeEntry depth) rest exact (by simp) (blank.beforeEntry depth) (by
          simp only [List.length_cons, List.length_append] at enough
          omega)
      have exactItem : item.isExact = true := (Bool.and_eq_true_iff.1 exact).1
      obtain ⟨c, later, begins, solid, notEnd⟩ :=
        writeValue_eq_cons layout (depth + 1) exactItem
      obtain ⟨after, first⟩ := skipBlank_joined blank (depth + 1) begins solid
        (writeItems layout (depth + 1) items) (layout.beforeEntry depth ++ ']' :: rest)
      rw [← writeItems] at first
      simp only [List.cons_append, List.append_assoc, List.nil_append]
      rw [readValue_list first notEnd, inner]
      rfl
  | .object [], _, _ + 1, _, _, _, _ => rfl
  | .object ((name, value) :: fields), depth, fuel + 1, rest, exact, _, enough => by
      have written :
          writeValue layout depth (.object ((name, value) :: fields)) =
            '\x7b' :: (joined layout (depth + 1)
                (writeFields layout (depth + 1) ((name, value) :: fields)) ++
              (layout.beforeEntry depth ++ ['\x7d'])) :=
        enclose_eq layout depth '\x7b' '\x7d' (by simp [writeFields])
      rw [written] at enough ⊢
      have inner := readFields_writeFields blank ((name, value) :: fields) (depth + 1) fuel
        (layout.beforeEntry depth) rest exact (by simp) (blank.beforeEntry depth) (by
          simp only [List.length_cons, List.length_append] at enough
          omega)
      obtain ⟨after, first⟩ := skipBlank_joined blank (depth + 1)
        (writeField_eq_cons layout (depth + 1) name value) (by decide)
        (writeFields layout (depth + 1) fields) (layout.beforeEntry depth ++ '\x7d' :: rest)
      rw [← writeFields] at first
      simp only [List.cons_append, List.append_assoc, List.nil_append]
      rw [readValue_object first, inner]
      rfl

theorem readItems_writeItems (blank : layout.Blank) :
    ∀ (items : List Json) (depth fuel : Nat) (closing rest : List Char), areExact items = true →
      items ≠ [] → Blank closing →
      (joined layout depth (writeItems layout depth items)).length + 1 < fuel →
      readItems fuel
          (joined layout depth (writeItems layout depth items) ++ (closing ++ ']' :: rest)) =
        some (items, rest)
  | [], _, _, _, _, _, someItem, _, _ => absurd rfl someItem
  | [item], depth, fuel + 1, closing, rest, exact, _, white, enough => by
      have exactItem : item.isExact = true := (Bool.and_eq_true_iff.1 exact).1
      have ends : EndsNumber (closing ++ ']' :: rest) :=
        endsNumber_append white (endsNumber_cons (by decide) (by decide) (by decide))
      rw [writeItems, writeItems, joined_singleton] at enough ⊢
      rw [List.length_append] at enough
      have first := readValue_writeValue blank item depth fuel _ exactItem ends (by omega)
      rw [← readValue_append (blank.beforeEntry depth), ← List.append_assoc] at first
      exact readItems_last first (skipBlank_closing white (by decide))
  | item :: next :: items, depth, fuel + 1, closing, rest, exact, _, white, enough => by
      have ⟨exactItem, exactItems⟩ := Bool.and_eq_true_iff.1 exact
      have parts :
          joined layout depth (writeItems layout depth (item :: next :: items)) =
            layout.beforeEntry depth ++ (writeValue layout depth item ++
              ',' :: joined layout depth (writeItems layout depth (next :: items))) :=
        joined_cons layout depth _ _ _
      rw [parts] at enough ⊢
      simp only [List.length_append, List.length_cons] at enough
      have later := readItems_writeItems blank (next :: items) depth fuel closing rest exactItems
        (by simp) white (by omega)
      have first := readValue_writeValue blank item depth fuel _ exactItem
        (endsNumber_comma (joined layout depth (writeItems layout depth (next :: items)) ++
          (closing ++ ']' :: rest))) (by omega)
      rw [← readValue_append (blank.beforeEntry depth)] at first
      simp only [List.append_assoc, List.cons_append]
      rw [readItems_more first (skipBlank_cons (by decide) _), later]
      rfl

theorem readFields_writeFields (blank : layout.Blank) :
    ∀ (fields : List (Text × Json)) (depth fuel : Nat) (closing rest : List Char),
      haveExact fields = true → fields ≠ [] → Blank closing →
      (joined layout depth (writeFields layout depth fields)).length + 1 < fuel →
      readFields fuel
          (joined layout depth (writeFields layout depth fields) ++ (closing ++ '\x7d' :: rest)) =
        some (fields, rest)
  | [], _, _, _, _, _, someField, _, _ => absurd rfl someField
  | (none, value) :: _, _, _, _, _, exact, _, _, _ => by cases exact
  | [(some name, value)], depth, fuel + 1, closing, rest, exact, _, white, enough => by
      have exactValue : value.isExact = true := (Bool.and_eq_true_iff.1 exact).1
      have ends : EndsNumber (closing ++ '\x7d' :: rest) :=
        endsNumber_append white (endsNumber_cons (by decide) (by decide) (by decide))
      rw [writeFields, writeFields, joined_singleton] at enough ⊢
      simp only [List.length_append, List.length_cons] at enough
      have first := readValue_writeValue blank value depth fuel _ exactValue ends (by omega)
      rw [← readValue_append blank.afterColon] at first
      simp only [literal_eq, List.append_assoc, List.cons_append, List.nil_append]
      exact readFields_last (skipBlank_closing (blank.beforeEntry depth) (by decide))
        (readString_literal name _) (skipBlank_cons (by decide) _) first
        (skipBlank_closing white (by decide))
  | (some name, value) :: next :: fields, depth, fuel + 1, closing, rest, exact, _, white,
      enough => by
      have ⟨exactValue, exactFields⟩ := Bool.and_eq_true_iff.1 exact
      have parts :
          joined layout depth (writeFields layout depth ((some name, value) :: next :: fields)) =
            layout.beforeEntry depth ++
              (literal (some name) ++ ':' :: layout.afterColon ++ writeValue layout depth value ++
              ',' :: joined layout depth (writeFields layout depth (next :: fields))) :=
        joined_cons layout depth _ _ _
      rw [parts] at enough ⊢
      simp only [List.length_append, List.length_cons] at enough
      have later := readFields_writeFields blank (next :: fields) depth fuel closing rest
        exactFields (by simp) white (by omega)
      have first := readValue_writeValue blank value depth fuel _ exactValue
        (endsNumber_comma (joined layout depth (writeFields layout depth (next :: fields)) ++
          (closing ++ '\x7d' :: rest))) (by omega)
      rw [← readValue_append blank.afterColon] at first
      simp only [literal_eq, List.append_assoc, List.cons_append, List.nil_append]
      rw [readFields_more (skipBlank_closing (blank.beforeEntry depth) (by decide))
        (readString_literal name _) (skipBlank_cons (by decide) _) first
        (skipBlank_cons (by decide) _), later]
      rfl

end

theorem ofChars?_writeValue (blank : layout.Blank) {v : Json} (exact : v.isExact = true) :
    ofChars? (writeValue layout 0 v) = some v := by
  have whole := readValue_writeValue blank v 0 ((writeValue layout 0 v).length + 1) [] exact
    endsNumber_nil (by omega)
  rw [List.append_nil] at whole
  simp [ofChars?, whole, skipBlank]

/-- A value written in one line is read back. -/
theorem parse?_compact {v : Json} (exact : v.isExact = true) : parse? (compact v) = some v := by
  rw [parse?, compact, String.toList_ofList, ofChars?_writeValue Layout.blank_compact exact]

/-- A value written with an entry a line is read back. -/
theorem parse?_pretty {v : Json} (exact : v.isExact = true) : parse? (pretty v) = some v := by
  rw [parse?, pretty, String.toList_ofList, ofChars?_writeValue Layout.blank_indented exact]

end DefaultGateway.Json
