/-!
JSON values. Numbers that are not whole keep their text; an object keeps its fields in order,
those of one name included.
-/

namespace DefaultGateway

/-- The text of a string; none if an escape in it leaves half of a surrogate pair. -/
abbrev Json.Text := Option String

inductive Json
  | null
  | bool (value : Bool)
  | integer (value : Int)
  | decimal (digits : String)
  | string (text : Json.Text)
  | list (items : List Json)
  | object (fields : List (Json.Text × Json))
  deriving Inhabited, Repr

namespace Json

def ofText (text : String) : Json := .string (some text)

def ofNat (n : Nat) : Json := .integer n

def record (fields : List (String × Json)) : Json :=
  .object (fields.map fun (name, value) => (some name, value))

def ofOption {α : Type} (write : α → Json) : Option α → Json
  | some a => write a
  | none => .null

end Json

end DefaultGateway
