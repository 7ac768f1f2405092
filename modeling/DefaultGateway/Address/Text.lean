import DefaultGateway.Address.Basic
import DefaultGateway.Text.Fields
import DefaultGateway.Text.Hex

/-!
Addresses as text: dotted octets, or groups of hexadecimal digits in which `::` stands for the
longest run of at least two zero groups.
-/

namespace DefaultGateway.Address

open Text

/-- A number of one to three digits below 256 without a leading zero. -/
def readOctet (l : List Char) : Option Nat :=
  if l ≠ [] ∧ l.length ≤ 3 ∧ l.all Char.isDigit ∧ (l.head? ≠ some '0' ∨ l.length = 1) then
    some (Nat.ofDigitChars 10 l 0) |>.filter (· < 256)
  else none

/-- The bits of four octets between dots, the first octet the most significant. -/
def readDotted (l : List Char) : Option Nat :=
  match (splitOn '.' l).mapM readOctet with
  | some [a, b, c, d] => some (((a * 256 + b) * 256 + c) * 256 + d)
  | _ => none

/-- A group of one to four hexadecimal digits. -/
def readGroup (l : List Char) : Option Nat :=
  if l ≠ [] ∧ l.length ≤ 4 then readHex l else none

/-- Groups between colons, of which the last two may be written as four octets. -/
def readGroups : List (List Char) → Option (List Nat)
  | [] => some []
  | [last] =>
    match readDotted last with
    | some bits => some [bits / 65536, bits % 65536]
    | none => (readGroup last).map ([·])
  | field :: fields => do
    let group ← readGroup field
    let groups ← readGroups fields
    some (group :: groups)

/-- The fields of one side of a `::`; nothing there is no field. -/
def sideFields (l : List Char) : List (List Char) :=
  if l = [] then [] else splitOn ':' l

/-- Eight groups; one `::` stands for at least one zero group. -/
def readEight (l : List Char) : Option (List Nat) :=
  match splitPair? ':' ':' l with
  | none => (readGroups (splitOn ':' l)).filter (·.length = 8)
  | some (front, back) => do
    let head ← (sideFields front).mapM readGroup
    let tail ← readGroups (sideFields back)
    if head.length + tail.length ≤ 7 then
      some (head ++ List.replicate (8 - head.length - tail.length) 0 ++ tail)
    else none

/-- The number whose digits to the base 65536 are the groups. -/
def ofGroups (groups : List Nat) : Nat :=
  groups.foldl (fun n group => n * 65536 + group) 0

def readChars (l : List Char) : Option Address :=
  match readDotted l with
  | some bits => some (.v4 (.ofNat 32 bits))
  | none => (readEight l).map fun groups => .v6 (.ofNat 128 (ofGroups groups))

def ofText? (text : String) : Option Address := readChars text.toList

/-- The octets of a word of 32 bits, the first the most significant. -/
def octets (bits : BitVec 32) : List Nat :=
  [24, 16, 8, 0].map fun shift => (bits.extractLsb' shift 8).toNat

def dotted (bits : BitVec 32) : List Char :=
  ['.'].intercalate ((octets bits).map (Nat.toDigits 10))

def groups (bits : BitVec 128) : List Nat :=
  [112, 96, 80, 64, 48, 32, 16, 0].map fun shift => (bits.extractLsb' shift 16).toNat

def zeroRun (l : List Nat) : Nat := (l.takeWhile (· == 0)).length

/-- Where the longest run of zero groups begins, the first of several. -/
def longestZeroRun (l : List Nat) : Nat :=
  (List.range l.length).foldl
    (fun best start => if zeroRun (l.drop best) < zeroRun (l.drop start) then start else best) 0

def hexGroups (l : List Nat) : List Char := [':'].intercalate (l.map hexDigits)

/-- The groups with their longest zero run left out, if it is longer than one group. -/
def compressed (l : List Nat) : List Char :=
  let start := longestZeroRun l
  let run := zeroRun (l.drop start)
  if run < 2 then hexGroups l
  else hexGroups (l.take start) ++ [':', ':'] ++ hexGroups (l.drop (start + run))

/-- Addresses of the first family carried in the second keep their dotted form. -/
def toChars : Address → List Char
  | .v4 bits => dotted bits
  | .v6 bits =>
    if bits.extractLsb' 32 96 = 0xffff#96 then
      "::ffff:".toList ++ dotted (bits.extractLsb' 0 32)
    else compressed (groups bits)

def text (a : Address) : String := .ofList a.toChars

instance : ToString Address := ⟨text⟩

end DefaultGateway.Address
