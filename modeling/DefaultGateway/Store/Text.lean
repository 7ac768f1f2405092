import DefaultGateway.Document.Json
import DefaultGateway.Document.Values
import DefaultGateway.Instant.Text
import DefaultGateway.Json.Reader
import DefaultGateway.Json.Values
import DefaultGateway.Json.Writer
import DefaultGateway.Store.Basic

/-!
The store as text. A blank text is an empty store.
-/

namespace DefaultGateway

open Document

variable {δ : Type} [Document δ]

namespace StoredGateway

def shape : Shape where
  fields := [{ name := "af" }, { name := "link" }, { name := "protocol" }, { name := "addr" },
    { name := "source", omissible := true }, { name := "version" }, { name := "registered_at" }]

def ofDocument? (d : δ) : Option StoredGateway := do
  match ← record? shape d with
  | [family, link, protocol, address, source, version, registeredAt] =>
    some {
      family := ← required Family.ofDocument? family
      link := ← required text? link
      protocol := ← required Protocol.ofDocument? protocol
      address := ← required Address.ofDocument? address
      source := ← orNone Address.ofDocument? source
      version := ← required uint64? version
      registeredAt := ← required (fun d => (text? d).bind Instant.ofText?) registeredAt }
  | _ => none

def toJson (g : StoredGateway) : Json :=
  .record <|
    [("af", g.family.toJson),
      ("link", .ofText g.link),
      ("protocol", g.protocol.toJson),
      ("addr", g.address.toJson)] ++
      Json.optionalField "source" Address.toJson g.source ++
      [("version", .ofNat g.version.toNat),
      ("registered_at", .ofText g.registeredAt.text)]

end StoredGateway

namespace Store

def shape : Shape where
  fields := [{ name := "gateways", omissible := true }, { name := "disabled", omissible := true }]

def ofDocument? (d : δ) : Option Store := do
  match ← record? shape d with
  | [gateways, disabled] =>
    some {
      gateways := ← orElse [] (list? StoredGateway.ofDocument?) gateways
      disabled := .ofList (← orElse [] (list? Selector.ofDocument?) disabled) }
  | _ => none

def toJson (s : Store) : Json :=
  .record [
    ("gateways", .list (s.gateways.map StoredGateway.toJson)),
    ("disabled", .list (s.disabled.toList.map Selector.toJson))]

def text (s : Store) : String := s.toJson.pretty

def ofText? (text : String) : Option Store :=
  if (Text.trim text).isEmpty then some {} else (Json.parse? text).bind ofDocument?

end Store

end DefaultGateway
