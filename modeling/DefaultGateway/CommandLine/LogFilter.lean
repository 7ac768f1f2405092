import DefaultGateway.Pattern.Read
import DefaultGateway.Text.Decimal
import DefaultGateway.Text.Fields

/-!
Which texts are log filters: directives between commas, where a directive is a level, the name of a
part of the program, or such a name with a span, with a field of it, and with the level that applies
there.

A directive may have white space around it. Its parts are then found in the text without it, but cut
from the text with it, at the same distances from the beginning.
-/

namespace DefaultGateway.CommandLine.LogFilter

inductive Fault
  | malformed
  /-- A part of a directive would begin or end inside a character. -/
  | splitCharacter
  deriving DecidableEq, Repr

/-! ## Levels and fields -/

def levelNames : List String := ["off", "error", "warn", "info", "debug", "trace"]

/-- A level is named, or numbered from 0 to 5, or left out. -/
def isLevel (l : List Char) : Bool :=
  l.isEmpty || levelNames.contains (String.ofList l).toLower ||
    (Text.readNatural levelNames.length l).isSome

def withoutSign : List Char → List Char
  | '+' :: rest | '-' :: rest => rest
  | l => l

/-- What may follow the digits of a number. -/
def isExponent : List Char → Bool
  | [] => true
  | c :: rest => (c == 'e' || c == 'E') && (Text.readDigits (withoutSign rest)).isSome

/-- Digits with perhaps a point before, between or after them, and perhaps an exponent. -/
def isDecimal (l : List Char) : Bool :=
  let (whole, rest) := l.span Char.isDigit
  match rest with
  | '.' :: rest =>
    let (fraction, rest) := rest.span Char.isDigit
    !(whole ++ fraction).isEmpty && isExponent rest
  | _ => !whole.isEmpty && isExponent rest

/-- Numbers, the infinite ones and what is no number included. -/
def isNumber (l : List Char) : Bool :=
  let unsigned := withoutSign l
  ["inf", "infinity", "nan"].contains (String.ofList unsigned).toLower || isDecimal unsigned

/-- A field has a name, perhaps with the number that its value equals or the pattern that its value
matches. -/
def isField (l : List Char) : Bool :=
  !l.isEmpty &&
    match Text.splitOn '=' l with
    | _ :: value :: _ => isNumber value || Pattern.isPattern value
    | _ => true

/-! ## Directives -/

def dropBytes : Nat → List Char → Except Fault (List Char)
  | 0, l => return l
  | _, [] => throw .splitCharacter
  | count, c :: rest =>
    if count < c.utf8Size then throw .splitCharacter else dropBytes (count - c.utf8Size) rest

def takeBytes : Nat → List Char → Except Fault (List Char)
  | 0, _ => return []
  | _, [] => throw .splitCharacter
  | count, c :: rest =>
    if count < c.utf8Size then throw .splitCharacter
    else return c :: (← takeBytes (count - c.utf8Size) rest)

/-- What lies between two distances in bytes from the beginning. -/
def slice (first last : Nat) (l : List Char) : Except Fault (List Char) := do
  takeBytes (last - first) (← dropBytes first l)

/-- What is being read, with the place after the sign that opened it. -/
inductive Place
  | start
  | name
  | span (first : Nat)
  | field (first : Nat)
  | afterField
  | afterSpan
  | level (first : Nat)
  deriving DecidableEq, Repr

/-- What may open a name. -/
def opensName (c : Char) : Bool := ['-', ':', '_'].contains c || Text.isAlphanumeric c

/-- Goes past a character at a distance from the beginning. -/
def Place.step (text : List Char) (offset : Nat) (c : Char) : Place → Except Fault Place
  | .start =>
    if c == '[' then return .span (offset + 1)
    else if opensName c then return .name
    else throw .malformed
  | .name => do
    if c != '=' && c != '[' then return .name
    let _ ← slice 0 offset text
    return if c == '=' then .level (offset + 1) else .span (offset + 1)
  | .span first => do
    if c != ']' && c != '\x7b' then return .span first
    let _ ← slice first offset text
    return if c == ']' then .afterSpan else .field (offset + 1)
  | .field first => do
    if c != '\x7d' then return .field first
    if isField (← slice first offset text) then return .afterField else throw .malformed
  | .afterField => if c == ']' then return .afterSpan else throw .malformed
  | .afterSpan => if c == '=' then return .level (offset + 1) else throw .malformed
  | .level first => return .level first

/-- Ends a directive. -/
def Place.finish (text : List Char) : Place → Except Fault Unit
  | .name | .afterSpan => return
  | .level first => do
    if isLevel (← dropBytes first text) then return else throw .malformed
  | .start | .span _ | .field _ | .afterField => throw .malformed

def checkDirective (text : List Char) : Except Fault Unit := do
  let (_, place) ← (Text.trimChars text).foldlM
    (fun (offset, place) c => return (offset + c.utf8Size, ← place.step text offset c))
    (0, Place.start)
  place.finish text

/-- Finds the first fault in directives between commas, of which empty ones count for nothing. -/
def check (text : String) : Except Fault Unit :=
  ((Text.splitOn ',' text.toList).filter (!·.isEmpty)).forM checkDirective

end DefaultGateway.CommandLine.LogFilter
