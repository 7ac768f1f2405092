import DefaultGateway.Document.Basic
import DefaultGateway.Json.Value

/-!
The views of JSON values: each kind of value is what it looks like. A choice may be written as an
object with its name and null.
-/

namespace DefaultGateway

instance : Document Json where
  text? d := match d with
    | .string text => text
    | _ => none
  natural? d := match d with
    | .integer (.ofNat n) => some n
    | _ => none
  bool? d := match d with
    | .bool b => some b
    | _ => none
  optional? d := match d with
    | .null => some none
    | _ => some (some d)
  items? d := match d with
    | .list items => some items
    | _ => none
  fields? d := match d with
    | .object fields => some (fields.map fun (name, value) => (.string name, value))
    | _ => none
  row? d := match d with
    | .list items => some items
    | _ => none
  choice? d := match d with
    | .string text => text
    | .object [(some name, .null)] => some name
    | _ => none

end DefaultGateway
