/-!
How values are read from a parsed document, whatever its notation. A document can be seen as a
text, a number, a list and so on; the notation says which views a written value has. A record is a
list of named fields, or of values in the order in which its fields are declared.
-/

namespace DefaultGateway

/-- The views of a parsed value. A view that does not fit is none. -/
class Document (δ : Type) where
  text? : δ → Option String
  natural? : δ → Option Nat
  bool? : δ → Option Bool
  /-- The value where one may be missing: none if nothing is written there. -/
  optional? : δ → Option (Option δ)
  items? : δ → Option (List δ)
  /-- Fields with their names. -/
  fields? : δ → Option (List (δ × δ))
  /-- Fields in the order of their declaration. -/
  row? : δ → Option (List δ)
  /-- The name of a choice that carries nothing. -/
  choice? : δ → Option String

namespace Document

structure Field where
  name : String
  aliases : List String := []
  /-- Whether a record without names may end before the field. -/
  omissible : Bool := false

def Field.isCalled (field : Field) (name : String) : Bool :=
  field.name == name || field.aliases.contains name

structure Shape where
  fields : List Field
  /-- Whether a field of another name is an error. -/
  closed : Bool := false

variable {δ α : Type} [Document δ]

/-- The values given under the names of a field; none if there are several. -/
def given? (entries : List (String × δ)) (field : Field) : Option (Option δ) :=
  match entries.filter fun entry => field.isCalled entry.1 with
  | [] => some none
  | [entry] => some (some entry.2)
  | _ => none

/-- The value of each declared field, if it is given. -/
def named? (shape : Shape) (entries : List (δ × δ)) : Option (List (Option δ)) := do
  let entries ← entries.mapM fun (name, value) => (text? name).map (·, value)
  let isKnown (entry : String × δ) : Bool := shape.fields.any (·.isCalled entry.1)
  if shape.closed && !entries.all isKnown then none
  else shape.fields.mapM (given? entries)

def inOrder? : List Field → List δ → Option (List (Option δ))
  | [], [] => some []
  | [], _ :: _ => none
  | field :: fields, [] => if field.omissible then (inOrder? fields []).map (none :: ·) else none
  | _ :: fields, value :: values => (inOrder? fields values).map (some value :: ·)

/-- The value of each declared field, if it is given. -/
def record? (shape : Shape) (d : δ) : Option (List (Option δ)) :=
  match fields? d with
  | some entries => named? shape entries
  | none => (row? d).bind (inOrder? shape.fields)

def required (read : δ → Option α) (given : Option δ) : Option α := given.bind read

/-- Reads a value that may be missing. -/
def maybe (read : δ → Option α) (d : δ) : Option (Option α) :=
  match optional? d with
  | some (some value) => (read value).map some
  | some none => some none
  | none => none

/-- Reads a value that may be missing, as may its field. -/
def orNone (read : δ → Option α) (given : Option δ) : Option (Option α) :=
  match given with
  | some d => maybe read d
  | none => some none

/-- Reads a value, or takes another where no field gives one. -/
def orElse (default : α) (read : δ → Option α) (given : Option δ) : Option α :=
  match given with
  | some d => read d
  | none => some default

def below? (bound : Nat) (d : δ) : Option Nat := (natural? d).filter (· < bound)

def uint32? (d : δ) : Option UInt32 := (below? UInt32.size d).map .ofNat

def uint64? (d : δ) : Option UInt64 := (below? UInt64.size d).map .ofNat

def list? (read : δ → Option α) (d : δ) : Option (List α) := (items? d).bind (·.mapM read)

end Document

end DefaultGateway
