import DefaultGateway.Json.Value
import DefaultGateway.Text.Decimal
import DefaultGateway.Text.Hex

/-!
Reading JSON: exactly the texts of the grammar, with white space around the parts.
-/

namespace DefaultGateway.Json

def isBlank (c : Char) : Bool := c == ' ' || c == '\n' || c == '\t' || c == '\r'

def skipBlank (l : List Char) : List Char := l.dropWhile isBlank

/-! ## Strings -/

/-- What a letter after a backslash stands for. -/
def escaped? : Char → Option Char
  | '"' => some '"'
  | '\\' => some '\\'
  | '/' => some '/'
  | 'b' => some '\x08'
  | 'f' => some '\x0c'
  | 'n' => some '\n'
  | 'r' => some '\r'
  | 't' => some '\t'
  | _ => none

/-- The codes of the rest of a string, up to its closing quote. A code may be half of a surrogate
pair. -/
def readCodes : List Char → Option (List Nat × List Char)
  | '"' :: rest => some ([], rest)
  | '\\' :: 'u' :: a :: b :: c :: d :: rest => do
    let code ← Text.readHex [a, b, c, d]
    let (codes, rest) ← readCodes rest
    some (code :: codes, rest)
  | '\\' :: letter :: rest => do
    let c ← escaped? letter
    let (codes, rest) ← readCodes rest
    some (c.toNat :: codes, rest)
  | c :: rest =>
    if c.toNat < 0x20 then none
    else (readCodes rest).map fun (codes, rest) => (c.toNat :: codes, rest)
  | [] => none

/-- The text of codes in which surrogates stand in pairs. -/
def textOfCodes : List Nat → Option (List Char)
  | [] => some []
  | high :: low :: rest =>
    if 0xd800 ≤ high ∧ high < 0xdc00 ∧ 0xdc00 ≤ low ∧ low < 0xe000 then do
      let c ← Text.charOfCode? (0x10000 + (high - 0xd800) * 0x400 + (low - 0xdc00))
      (textOfCodes rest).map (c :: ·)
    else do
      let c ← Text.charOfCode? high
      (textOfCodes (low :: rest)).map (c :: ·)
  | [code] => (Text.charOfCode? code).map ([·])

/-- Reads a string after its opening quote. -/
def readString (l : List Char) : Option (Text × List Char) :=
  (readCodes l).map fun (codes, rest) => ((textOfCodes codes).map String.ofList, rest)

/-! ## Numbers -/

def readDigits (l : List Char) : Option (List Char × List Char) :=
  let digits := l.takeWhile Char.isDigit
  if digits.isEmpty then none else some (digits, l.dropWhile Char.isDigit)

/-- Digits without a needless zero at the front. -/
def readWhole (l : List Char) : Option (List Char × List Char) :=
  match readDigits l with
  | some (digits, rest) =>
    if 1 < digits.length ∧ digits.head? = some '0' then none else some (digits, rest)
  | none => none

def readFraction : List Char → Option (List Char × List Char)
  | '.' :: rest => (readDigits rest).map fun (digits, rest) => ('.' :: digits, rest)
  | l => some ([], l)

def readExponent (l : List Char) : Option (List Char × List Char) :=
  match l with
  | c :: rest =>
    if c = 'e' ∨ c = 'E' then
      let (sign, rest) := match rest with
        | '+' :: rest => (['+'], rest)
        | '-' :: rest => (['-'], rest)
        | _ => ([], rest)
      (readDigits rest).map fun (digits, rest) => (c :: sign ++ digits, rest)
    else some ([], l)
  | [] => some ([], l)

/-- A number; it is an integer if it has neither fraction nor exponent, and is not a negative
zero. -/
def readNumber (l : List Char) : Option (Json × List Char) := do
  let (sign, l) := match l with
    | '-' :: rest => (['-'], rest)
    | _ => ([], l)
  let (digits, l) ← readWhole l
  let (fraction, l) ← readFraction l
  let (exponent, l) ← readExponent l
  let value := Nat.ofDigitChars 10 digits 0
  if fraction.isEmpty ∧ exponent.isEmpty ∧ (sign.isEmpty ∨ value ≠ 0) then
    some (.integer (if sign.isEmpty then (value : Int) else -(value : Int)), l)
  else some (.decimal (.ofList (sign ++ digits ++ fraction ++ exponent)), l)

/-! ## Values -/

def dropWord (word : List Char) (l : List Char) : Option (List Char) :=
  if word.isPrefixOf l then some (l.drop word.length) else none

mutual

def readValue : Nat → List Char → Option (Json × List Char)
  | 0, _ => none
  | fuel + 1, l =>
    match skipBlank l with
    | '"' :: rest => (readString rest).map fun (text, rest) => (.string text, rest)
    | '[' :: rest =>
      match skipBlank rest with
      | ']' :: rest => some (.list [], rest)
      | rest => (readItems fuel rest).map fun (items, rest) => (.list items, rest)
    | '\x7b' :: rest =>
      match skipBlank rest with
      | '\x7d' :: rest => some (.object [], rest)
      | rest => (readFields fuel rest).map fun (fields, rest) => (.object fields, rest)
    | 'n' :: rest => (dropWord "ull".toList rest).map (.null, ·)
    | 't' :: rest => (dropWord "rue".toList rest).map (.bool true, ·)
    | 'f' :: rest => (dropWord "alse".toList rest).map (.bool false, ·)
    | rest => readNumber rest

def readItems : Nat → List Char → Option (List Json × List Char)
  | 0, _ => none
  | fuel + 1, l => do
    let (item, rest) ← readValue fuel l
    match skipBlank rest with
    | ']' :: rest => some ([item], rest)
    | ',' :: rest => (readItems fuel rest).map fun (items, rest) => (item :: items, rest)
    | _ => none

def readFields : Nat → List Char → Option (List (Text × Json) × List Char)
  | 0, _ => none
  | fuel + 1, l =>
    match skipBlank l with
    | '"' :: rest => do
      let (name, rest) ← readString rest
      match skipBlank rest with
      | ':' :: rest =>
        let (value, rest) ← readValue fuel rest
        match skipBlank rest with
        | '\x7d' :: rest => some ([(name, value)], rest)
        | ',' :: rest =>
          (readFields fuel rest).map fun (fields, rest) => ((name, value) :: fields, rest)
        | _ => none
      | _ => none
    | _ => none

end

def ofChars? (l : List Char) : Option Json :=
  match readValue (l.length + 1) l with
  | some (value, rest) => if (skipBlank rest).isEmpty then some value else none
  | none => none

def parse? (text : String) : Option Json := ofChars? text.toList

end DefaultGateway.Json
