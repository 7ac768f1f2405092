import DefaultGateway.Event
import DefaultGateway.Json.Value
import DefaultGateway.Selector

/-!
The JSON forms of addresses, links, routes, events, candidates and selectors.
-/

namespace DefaultGateway

def Family.toJson (family : Family) : Json := .ofText family.name

def Protocol.toJson (protocol : Protocol) : Json := .ofText protocol.tag

def Address.toJson (a : Address) : Json := .ofText a.text

def Prefix.toJson (p : Prefix) : Json := .ofText p.text

def Link.toJson (link : Link) : Json :=
  .record [
    ("index", .ofNat link.index.toNat),
    ("name", .ofOption .ofText link.name),
    ("up", .bool link.up)]

def InterfaceAddress.toJson (a : InterfaceAddress) : Json :=
  .record [("index", .ofNat a.index.toNat), ("prefix", a.onNetwork.toJson)]

def Route.toJson (r : Route) : Json :=
  .record [
    ("destination", r.destination.toJson),
    ("gateway", .ofOption Address.toJson r.gateway),
    ("oif", .ofOption (fun oif : LinkIndex => .ofNat oif.toNat) r.oif),
    ("table", .ofNat r.table.toNat),
    ("metric", .ofNat r.metric.toNat)]

/-- The event's kind, and what it is about. -/
def Event.toJson (event : Event) : Json :=
  let about (kind field : String) (value : Json) : Json :=
    .record [("kind", .ofText kind), (field, value)]
  match event with
  | .linkAdd link => about "link-add" "link" link.toJson
  | .linkUp link => about "link-up" "link" link.toJson
  | .linkDown link => about "link-down" "link" link.toJson
  | .linkDelete index => about "link-delete" "index" (.ofNat index.toNat)
  | .addressAdd address => about "address-add" "address" address.toJson
  | .addressDelete address => about "address-delete" "address" address.toJson
  | .routeAdd route => about "route-add" "route" route.toJson
  | .routeChange route => about "route-change" "route" route.toJson
  | .routeDelete route => about "route-delete" "route" route.toJson

def Snapshot.toJson (s : Snapshot) : Json :=
  .record [
    ("links", .list (s.links.map Link.toJson)),
    ("addresses", .list (s.addresses.map InterfaceAddress.toJson)),
    ("routes", .list (s.routes.map Route.toJson))]

def Candidate.Key.toJson (k : Candidate.Key) : Json :=
  .record [
    ("protocol", k.protocol.toJson),
    ("interface", .ofText k.interface),
    ("family", k.family.toJson)]

def Candidate.toJson (c : Candidate) : Json :=
  .record [
    ("protocol", c.protocol.toJson),
    ("family", c.family.toJson),
    ("interface", .ofText c.interface),
    ("gateway", c.gateway.toJson),
    ("source", .ofOption Address.toJson c.source),
    ("version", .ofNat c.version.toNat)]

/-- A field that is written only if it has a value. -/
def Json.optionalField {α : Type} (name : String) (write : α → Json) (value : Option α) :
    List (String × Json) :=
  match value with
  | some a => [(name, write a)]
  | none => []

def Selector.toJson (s : Selector) : Json :=
  .record <|
    Json.optionalField "af" Family.toJson s.family ++
      Json.optionalField "link" Json.ofText s.link ++
      Json.optionalField "protocol" Protocol.toJson s.protocol

end DefaultGateway
