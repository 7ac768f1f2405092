import DefaultGateway.Document.Basic
import DefaultGateway.Event
import DefaultGateway.Selector

/-!
Reading addresses, links, routes, events, candidates and selectors from documents.
-/

namespace DefaultGateway

open Document

variable {δ : Type} [Document δ]

namespace Family

def ofDocument? (d : δ) : Option Family := (choice? d).bind ofText?

end Family

namespace Protocol

def ofDocument? (d : δ) : Option Protocol := (text? d).bind ofTag?

end Protocol

namespace Address

def ofDocument? (d : δ) : Option Address := (text? d).bind ofText?

end Address

namespace Prefix

def ofDocument? (d : δ) : Option Prefix := (text? d).bind fun text => (parse text).toOption

end Prefix

namespace Link

def shape : Shape where
  fields := [{ name := "index" }, { name := "name" }, { name := "up" }]

def ofDocument? (d : δ) : Option Link := do
  match ← record? shape d with
  | [index, name, up] =>
    some {
      index := ← required uint32? index
      name := ← orNone text? name
      up := ← required bool? up }
  | _ => none

end Link

namespace InterfaceAddress

def shape : Shape where
  fields := [{ name := "index" }, { name := "prefix" }]

def ofDocument? (d : δ) : Option InterfaceAddress := do
  match ← record? shape d with
  | [index, onNetwork] =>
    some {
      index := ← required uint32? index
      onNetwork := ← required Prefix.ofDocument? onNetwork }
  | _ => none

end InterfaceAddress

namespace Route

def shape : Shape where
  fields := [{ name := "destination" }, { name := "gateway" }, { name := "oif" },
    { name := "table" }, { name := "metric" }]

def ofDocument? (d : δ) : Option Route := do
  match ← record? shape d with
  | [destination, gateway, oif, table, metric] =>
    some {
      destination := ← required Prefix.ofDocument? destination
      gateway := ← orNone Address.ofDocument? gateway
      oif := ← orNone uint32? oif
      table := ← required uint32? table
      metric := ← required uint32? metric }
  | _ => none

end Route

namespace Event

def shape : Shape where
  fields := [{ name := "kind" }, { name := "link" }, { name := "index" }, { name := "address" },
    { name := "route" }]

/-- Reads an event's kind, and the one field that goes with it. -/
def ofDocument? (d : δ) : Option Event := do
  match ← record? shape d with
  | [kind, link, index, address, route] =>
    match ← required text? kind with
    | "link-add" => (required Link.ofDocument? link).map .linkAdd
    | "link-up" => (required Link.ofDocument? link).map .linkUp
    | "link-down" => (required Link.ofDocument? link).map .linkDown
    | "link-delete" => (required uint32? index).map .linkDelete
    | "address-add" => (required InterfaceAddress.ofDocument? address).map .addressAdd
    | "address-delete" => (required InterfaceAddress.ofDocument? address).map .addressDelete
    | "route-add" => (required Route.ofDocument? route).map .routeAdd
    | "route-change" => (required Route.ofDocument? route).map .routeChange
    | "route-delete" => (required Route.ofDocument? route).map .routeDelete
    | _ => none
  | _ => none

end Event

namespace Snapshot

def shape : Shape where
  fields := [{ name := "links" }, { name := "addresses" }, { name := "routes" }]

def ofDocument? (d : δ) : Option Snapshot := do
  match ← record? shape d with
  | [links, addresses, routes] =>
    some {
      links := ← required (list? Link.ofDocument?) links
      addresses := ← required (list? InterfaceAddress.ofDocument?) addresses
      routes := ← required (list? Route.ofDocument?) routes }
  | _ => none

end Snapshot

namespace Candidate

def Key.shape : Shape where
  fields := [{ name := "protocol" }, { name := "interface" }, { name := "family" }]

def Key.ofDocument? (d : δ) : Option Key := do
  match ← record? Key.shape d with
  | [protocol, interface, family] =>
    some {
      protocol := ← required Protocol.ofDocument? protocol
      interface := ← required text? interface
      family := ← required Family.ofDocument? family }
  | _ => none

def shape : Shape where
  fields := [{ name := "protocol" }, { name := "family" }, { name := "interface" },
    { name := "gateway" }, { name := "source" }, { name := "version" }]

def ofDocument? (d : δ) : Option Candidate := do
  match ← record? shape d with
  | [protocol, family, interface, gateway, source, version] =>
    some {
      protocol := ← required Protocol.ofDocument? protocol
      family := ← required Family.ofDocument? family
      interface := ← required text? interface
      gateway := ← required Address.ofDocument? gateway
      source := ← orNone Address.ofDocument? source
      version := ← required uint64? version }
  | _ => none

end Candidate

namespace Selector

def shape : Shape where
  fields := [
    { name := "af", aliases := ["family"], omissible := true },
    { name := "link", aliases := ["iface", "interface"], omissible := true },
    { name := "protocol", omissible := true }]
  closed := true

def ofDocument? (d : δ) : Option Selector := do
  match ← record? shape d with
  | [family, link, protocol] =>
    some {
      family := ← orNone Family.ofDocument? family
      link := ← orNone text? link
      protocol := ← orNone Protocol.ofDocument? protocol }
  | _ => none

end Selector

end DefaultGateway
