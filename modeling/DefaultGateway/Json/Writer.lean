import DefaultGateway.Json.Value
import DefaultGateway.Text.Hex

/-!
JSON values as text, in one line or indented.
-/

namespace DefaultGateway.Json

def escapeChar (c : Char) : List Char :=
  match c with
  | '"' => ['\\', '"']
  | '\\' => ['\\', '\\']
  | '\x08' => ['\\', 'b']
  | '\x0c' => ['\\', 'f']
  | '\n' => ['\\', 'n']
  | '\r' => ['\\', 'r']
  | '\t' => ['\\', 't']
  | _ =>
    if c.toNat < 0x20 then
      ['\\', 'u', '0', '0'] ++ (if c.toNat < 0x10 then ['0'] else []) ++ Text.hexDigits c.toNat
    else [c]

/-- A string between quotes; one without a text is written as the replacement character. -/
def literal (text : Text) : List Char :=
  '"' :: (text.getD "\ufffd").toList.flatMap escapeChar ++ ['"']

/-- The marks between the parts of a collection at a depth of nesting. -/
structure Layout where
  /-- What stands before an entry, or before the end, at a depth. -/
  beforeEntry : Nat → List Char
  afterColon : List Char

def Layout.compact : Layout := ⟨fun _ => [], []⟩

/-- An entry a line, two spaces deeper than what holds it. -/
def Layout.indented : Layout := ⟨fun depth => '\n' :: List.replicate (2 * depth) ' ', [' ']⟩

/-- Entries between brackets, with commas between them. -/
def enclose (layout : Layout) (depth : Nat) (left right : Char) (entries : List (List Char)) :
    List Char :=
  if entries.isEmpty then [left, right]
  else
    left :: [','].intercalate (entries.map (layout.beforeEntry (depth + 1) ++ ·)) ++
      layout.beforeEntry depth ++ [right]

def writeInteger (n : Int) : List Char :=
  match n with
  | .ofNat n => Nat.toDigits 10 n
  | .negSucc n => '-' :: Nat.toDigits 10 (n + 1)

mutual

def writeValue (layout : Layout) (depth : Nat) : Json → List Char
  | .null => "null".toList
  | .bool true => "true".toList
  | .bool false => "false".toList
  | .integer n => writeInteger n
  | .decimal digits => digits.toList
  | .string text => literal text
  | .list items => enclose layout depth '[' ']' (writeItems layout (depth + 1) items)
  | .object fields => enclose layout depth '\x7b' '\x7d' (writeFields layout (depth + 1) fields)

def writeItems (layout : Layout) (depth : Nat) : List Json → List (List Char)
  | [] => []
  | item :: rest => writeValue layout depth item :: writeItems layout depth rest

def writeFields (layout : Layout) (depth : Nat) : List (Text × Json) → List (List Char)
  | [] => []
  | (name, value) :: rest =>
    (literal name ++ ':' :: layout.afterColon ++ writeValue layout depth value) ::
      writeFields layout depth rest

end

def compact (value : Json) : String := .ofList (writeValue .compact 0 value)

def pretty (value : Json) : String := .ofList (writeValue .indented 0 value)

end DefaultGateway.Json
