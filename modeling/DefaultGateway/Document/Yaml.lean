import DefaultGateway.Document.Basic
import DefaultGateway.Text.Hex
import DefaultGateway.Yaml.Node

/-!
The views of YAML nodes. Any scalar is a text; a plain one may also be a number, a truth value or
nothing; an empty plain one is also an empty collection.
-/

namespace DefaultGateway.Yaml

/-- A node with the document around it, in which aliases are looked up. -/
structure Place where
  document : Node
  node : Node

namespace Place

/-- The node itself, or the one that it is an alias for. -/
def resolved (p : Place) : Node :=
  match p.node with
  | .alias anchor => (p.document.anchored? anchor).getD .absent
  | node => node

def enter (p : Place) (node : Node) : Place := ⟨p.document, node⟩

def standardTag (name : String) : TagText := standardStem ++ name.toUTF8.toList

def isNullWord (text : String) : Bool := ["null", "Null", "NULL", "~"].contains text

/-- The text of a scalar that may be more than a text: a plain one, or one in a literal block that
is tagged with the name of its type. -/
def literal? (tagName : String) (p : Place) : Option String :=
  match p.resolved with
  | .scalar _ text .plain _ => some text
  | .scalar _ text .literal tag => if tag = some (standardTag tagName) then some text else none
  | _ => none

def text? (p : Place) : Option String :=
  match p.resolved with
  | .scalar _ text _ _ => some text
  | _ => none

/-- Digits to a base, all of them valid. -/
def digits? (base : Nat) (l : List Char) : Option Nat :=
  if l.isEmpty then none
  else (l.mapM fun c => (Text.hexDigitValue? c).filter (· < base)).map
    (·.foldl (fun n digit => n * base + digit) 0)

/-- A natural number: decimal without a leading zero, or with a mark for its base, perhaps after a
plus sign. -/
def naturalText? (text : String) : Option Nat :=
  let l := text.toList
  let unsigned := match l with
    | '+' :: rest => rest
    | _ => l
  match unsigned with
  | '0' :: 'x' :: rest => digits? 16 rest
  | '0' :: 'o' :: rest => digits? 8 rest
  | '0' :: 'b' :: rest => digits? 2 rest
  | '0' :: _ :: _ => none
  | _ => digits? 10 unsigned

def boolText? (text : String) : Option Bool :=
  if ["true", "True", "TRUE"].contains text then some true
  else if ["false", "False", "FALSE"].contains text then some false
  else none

/-- Whether nothing is written at a place; none if a tag says so and the text does not. -/
def isMissing? (p : Place) : Option Bool :=
  match p.resolved with
  | .scalar _ text .plain none => some (text.isEmpty || isNullWord text)
  | .scalar _ text .plain (some tag) =>
    if tag = standardTag "null" then if isNullWord text then some true else none
    else some false
  | .absent => some true
  | _ => some false

/-- Whether a place holds an empty plain scalar, or nothing at all. -/
def isBlank (p : Place) : Bool :=
  match p.resolved with
  | .scalar _ text .plain _ => text.isEmpty
  | .absent => true
  | _ => false

def items? (p : Place) : Option (List Place) :=
  match p.resolved with
  | .sequence _ items => some (items.map p.enter)
  | _ => if p.isBlank then some [] else none

def fields? (p : Place) : Option (List (Place × Place)) :=
  match p.resolved with
  | .mapping _ entries => some (entries.map fun (key, value) => (p.enter key, p.enter value))
  | _ => if p.isBlank then some [] else none

/-- The name in a tag of the document's own, if the tag is a text. -/
def localTag? : Option TagText → Option String
  | some (first :: name) =>
    if first = '!'.toNat.toUInt8 then String.fromUTF8? ⟨name.toArray⟩ else none
  | _ => none

/-- A choice is named by its text, or by a tag on nothing. -/
def choice? (p : Place) : Option String :=
  match p.resolved with
  | .scalar _ text style tag =>
    match localTag? tag with
    | some name =>
      if style = .plain ∧ (text.isEmpty ∨ isNullWord text) then some name else none
    | none => some text
  | _ => none

end Place

instance : Document Place where
  text? := Place.text?
  natural? p := (p.literal? "int").bind Place.naturalText?
  bool? p := (p.literal? "bool").bind Place.boolText?
  optional? p := (p.isMissing?).map fun missing => if missing then none else some p
  items? := Place.items?
  fields? := Place.fields?
  row? _ := none
  choice? := Place.choice?

end DefaultGateway.Yaml
