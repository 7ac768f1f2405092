import DefaultGateway.Netlink.Attribute
import DefaultGateway.Route

/-!
Records: what the kernel tells about a link, an address or a route, and what it is asked about
them. A record has a fixed part, which begins with an address family, and attributes.

Main statement: `Record.type_of_ofBody?`, what is read travels in messages of the type given.
-/

namespace DefaultGateway.Netlink

def familyCode : Family → UInt8
  | .inet => 2
  | .inet6 => 10

def familyOfCode? (code : UInt8) : Option Family :=
  Family.all.find? fun family => familyCode family == code

/-- What is said of a record: that it is new, gone, asked for or to be set. -/
inductive Verb
  | new
  | delete
  | get
  | set
  deriving DecidableEq, Repr

structure LinkRecord where
  family : UInt8 := 0
  index : UInt32 := 0
  flags : UInt32 := 0
  changed : UInt32 := 0
  attributes : List Attribute := []
  deriving DecidableEq, Repr, Inhabited

structure AddressRecord where
  family : UInt8 := 0
  length : UInt8 := 0
  index : UInt32 := 0
  attributes : List Attribute := []
  deriving DecidableEq, Repr, Inhabited

structure RouteRecord where
  family : UInt8 := 0
  length : UInt8 := 0
  table : UInt8 := 0
  protocol : UInt8 := 0
  scope : UInt8 := 0
  type : UInt8 := 0
  attributes : List Attribute := []
  deriving DecidableEq, Repr, Inhabited

inductive Record
  | link (verb : Verb) (record : LinkRecord)
  | address (verb : Verb) (record : AddressRecord)
  | route (verb : Verb) (record : RouteRecord)
  /-- A record of a kind that is not used here, such as a neighbour or a rule, with its bytes. -/
  | other (type : UInt16) (bytes : Bytes)
  deriving DecidableEq, Repr

/-- The value of the last attribute of a type. -/
def lastValue? (type : UInt16) (attributes : List Attribute) : Option Bytes :=
  (attributes.findRev? (·.type == type)).map (·.value)

/-! ## Links -/

namespace LinkRecord

def nameType : UInt16 := 3

/-- Whether the flag is set that says that the interface is up. -/
def isUp (flags : UInt32) : Bool := flags &&& 1 == 1

/-- Whether a value has the form of its type, which may be a name or a number of some bytes. -/
def hasValue (a : Attribute) : Bool :=
  match a.type.toNat with
  | 3 | 6 | 20 | 38 => (nameOfBytes? a.value).isSome
  | 4 | 5 | 10 | 13 | 19 | 21 | 27 | 28 | 29 | 30 | 31 | 32 | 35 | 37 | 40 | 41 | 44 | 45 | 46
  | 47 | 48 | 49 | 50 | 51 => a.value.length == 4
  | 16 | 17 | 33 | 39 => a.value.length == 1
  | _ => true

def body (r : LinkRecord) : Bytes :=
  [r.family, 0, 0, 0] ++ word32 r.index ++ word32 r.flags ++ word32 r.changed ++
    r.attributes.flatMap Attribute.bytes

def ofBody? (body : Bytes) : Option LinkRecord :=
  match body with
  | family :: _ :: _ :: _ :: rest => do
    let (index, rest) ← readWord32 rest
    let (flags, rest) ← readWord32 rest
    let (changed, rest) ← readWord32 rest
    let attributes ← Attribute.readAll rest
    if attributes.all hasValue then some ⟨family, index, flags, changed, attributes⟩ else none
  | _ => none

def link (r : LinkRecord) : Link where
  index := r.index
  name := (r.attributes.find? (·.type == nameType)).bind fun a => nameOfBytes? a.value
  up := isUp r.flags

end LinkRecord

/-! ## Addresses -/

namespace AddressRecord

/-- The address of the other end, where there is one; else the same as the local address. -/
def addressType : UInt16 := 1

def localType : UInt16 := 2

/-- Whether a value has the form of its type, which may be an address, a name or a number. -/
def hasValue (a : Attribute) : Bool :=
  match a.type.toNat with
  | 1 | 2 => (addressOfBytes? a.value).isSome
  | 3 => (nameOfBytes? a.value).isSome
  | 4 | 8 => a.value.length == 4
  | 5 | 7 => a.value.length == 16
  | _ => true

def body (r : AddressRecord) : Bytes :=
  [r.family, r.length, 0, 0] ++ word32 r.index ++ r.attributes.flatMap Attribute.bytes

def ofBody? (body : Bytes) : Option AddressRecord :=
  match body with
  | family :: length :: _ :: _ :: rest => do
    let (index, rest) ← readWord32 rest
    let attributes ← Attribute.readAll rest
    if attributes.all hasValue then some ⟨family, length, index, attributes⟩ else none
  | _ => none

/-- The address that the record describes, if it is of one of the two families. -/
def interfaceAddress? (r : AddressRecord) : Option InterfaceAddress := do
  let _ ← familyOfCode? r.family
  let value ← (lastValue? localType r.attributes).or (lastValue? addressType r.attributes)
  let address ← addressOfBytes? value
  let onNetwork ← (Prefix.new address r.length.toNat).toOption
  some ⟨r.index, onNetwork⟩

end AddressRecord

/-! ## Routes -/

namespace RouteRecord

def destinationType : UInt16 := 1
def oifType : UInt16 := 4
def gatewayType : UInt16 := 5
def metricType : UInt16 := 6
def tableType : UInt16 := 15

/-- The type of a route to a host or network, as opposed to broadcasts and the like. -/
def unicast : UInt8 := 1

/-- The mark of a route that an administrator has set. -/
def setByHand : UInt8 := 4

def everywhere : UInt8 := 0

def nowhere : UInt8 := 255

/-- The length of an address of a family; others may have any. -/
def hasAddressLength (family : UInt8) (value : Bytes) : Bool :=
  match familyOfCode? family with
  | some family => value.length * 8 == family.width
  | none => true

/-- Whether a value has the form of its type, which may be an address of the family or a number of
some bytes. -/
def hasValue (family : UInt8) (a : Attribute) : Bool :=
  match a.type.toNat with
  | 1 | 2 | 5 | 7 => hasAddressLength family a.value
  | 3 | 4 | 6 | 11 | 15 | 16 | 25 => a.value.length == 4
  | 20 | 26 => a.value.length == 1
  | 21 => a.value.length == 2
  | _ => true

def body (r : RouteRecord) : Bytes :=
  [r.family, r.length, 0, 0, r.table, r.protocol, r.scope, r.type, 0, 0, 0, 0] ++
    r.attributes.flatMap Attribute.bytes

def ofBody? (body : Bytes) : Option RouteRecord :=
  match body with
  | family :: length :: _ :: _ :: table :: protocol :: scope :: type ::
      _ :: _ :: _ :: _ :: rest => do
    let attributes ← Attribute.readAll rest
    if attributes.all (hasValue family) then
      some ⟨family, length, table, protocol, scope, type, attributes⟩
    else none
  | _ => none

def address? (r : RouteRecord) (type : UInt16) : Option Address :=
  if (familyOfCode? r.family).isSome then (lastValue? type r.attributes).bind addressOfBytes?
  else none

def number? (r : RouteRecord) (type : UInt16) : Option UInt32 :=
  (lastValue? type r.attributes).bind exactWord32

/-- The route that the record describes, if it leads to a host or network. What it leaves out is
the unspecified destination, the table of the fixed part, and metric zero. -/
def route? (r : RouteRecord) : Option Route := do
  let family ← familyOfCode? r.family
  if r.type ≠ unicast then none
  else
    let address := (r.address? destinationType).getD (.unspecified family)
    let destination ← (Prefix.new address r.length.toNat).toOption
    some {
      destination := destination
      gateway := r.address? gatewayType
      oif := r.number? oifType
      table := (r.number? tableType).getD r.table.toUInt32
      metric := (r.number? metricType).getD 0 }

def optional {α : Type} (type : UInt16) (bytes : α → Bytes) (value : Option α) :
    List Attribute :=
  match value with
  | some a => [⟨type, bytes a⟩]
  | none => []

/-- The record that asks for a route to be added, or deleted. -/
def ofRoute (r : Route) (deleting : Bool) : RouteRecord where
  family := familyCode r.family
  length := .ofNat r.destination.length
  table := if r.table < 256 then r.table.toUInt8 else 0
  protocol := setByHand
  scope := if deleting then nowhere else everywhere
  type := unicast
  attributes :=
    optional destinationType addressBytes
        (if r.isDefault then none else some r.destination.network) ++
      [⟨tableType, word32 r.table⟩] ++
      optional gatewayType addressBytes r.gateway ++
      optional oifType word32 r.oif ++
      optional metricType word32 (if r.metric = 0 then none else some r.metric)

end RouteRecord

/-! ## All kinds -/

namespace Record

/-- The type of message in which a record travels: groups of four, in each the verbs in order. -/
def type : Record → UInt16
  | .link verb _ => 16 + offset verb
  | .address verb _ => 20 + offset verb
  | .route verb _ => 24 + offset verb
  | .other type _ => type
where
  offset : Verb → UInt16
    | .new => 0
    | .delete => 1
    | .get => 2
    | .set => 3

def body : Record → Bytes
  | .link _ r => r.body
  | .address _ r => r.body
  | .route _ r => r.body
  | .other _ bytes => bytes

/-- A request may consist of the family alone. -/
def shortGet (body : Bytes) (family : UInt8) (type : Nat) : Option Record :=
  match type, body.length with
  | 18, 4 => some (.link .get { family := family })
  | 22, 4 => some (.address .get { family := family })
  | 26, 4 | 26, 1 => some (.route .get { family := family })
  | _, _ => none

/-- The length of the fixed part of a record that is not used here: of neighbours and their tables,
of rules and prefixes, of what controls traffic, of network namespaces, and of more names for
links. -/
def otherLength? : Nat → Option Nat
  | 28 | 29 | 30 | 32 | 33 | 34 | 52 => some 12
  | 36 | 37 | 38 | 40 | 41 | 42 | 44 | 45 | 46 | 100 | 101 | 102 => some 20
  | 48 | 49 | 50 | 64 | 66 | 67 | 88 | 89 | 90 => some 4
  | 108 | 109 => some 16
  | _ => none

/-- A record that is not used here: a fixed part, then attributes with any values. -/
def otherOfBody? (type : UInt16) (body : Bytes) : Option Record := do
  let length ← otherLength? type.toNat
  if body.length < length then none
  else (Attribute.readAll (body.drop length)).map fun _ => .other type body

def ofBody? (type : UInt16) (body : Bytes) : Option Record :=
  let n := type.toNat
  let short := body.head?.bind fun family => shortGet body family n
  match n with
  | 16 => (LinkRecord.ofBody? body).map (.link .new)
  | 17 => (LinkRecord.ofBody? body).map (.link .delete)
  | 18 => short.or ((LinkRecord.ofBody? body).map (.link .get))
  | 19 => (LinkRecord.ofBody? body).map (.link .set)
  | 20 => (AddressRecord.ofBody? body).map (.address .new)
  | 21 => (AddressRecord.ofBody? body).map (.address .delete)
  | 22 => short.or ((AddressRecord.ofBody? body).map (.address .get))
  | 24 => (RouteRecord.ofBody? body).map (.route .new)
  | 25 => (RouteRecord.ofBody? body).map (.route .delete)
  | 26 => short.or ((RouteRecord.ofBody? body).map (.route .get))
  | _ => otherOfBody? type body

theorem type_of_shortGet {body : Bytes} {family : UInt8} {n : Nat} {record : Record}
    (found : shortGet body family n = some record) : record.type.toNat = n := by
  unfold shortGet at found
  split at found <;> cases found <;> rfl

theorem type_of_map {α : Type} {make : α → Record} {value : Option α} {n : Nat} {record : Record}
    (found : value.map make = some record) (same : ∀ a, (make a).type.toNat = n) :
    record.type.toNat = n := by
  obtain ⟨a, _, rfl⟩ := Option.map_eq_some_iff.1 found
  exact same a

theorem type_of_otherOfBody? {type : UInt16} {body : Bytes} {record : Record}
    (found : otherOfBody? type body = some record) : record.type = type := by
  simp only [otherOfBody?, Option.bind_eq_bind, Option.bind_eq_some_iff] at found
  obtain ⟨_, _, found⟩ := found
  split at found
  · cases found
  · obtain ⟨_, _, rfl⟩ := Option.map_eq_some_iff.1 found
    rfl

/-- A record that has been read travels in messages of the type it was read under. -/
theorem type_of_ofBody? {type : UInt16} {body : Bytes} {record : Record}
    (found : ofBody? type body = some record) : record.type = type := by
  simp only [ofBody?] at found
  split at found
  case h_11 => exact type_of_otherOfBody? found
  all_goals apply UInt16.toNat_inj.1
  case h_3 known | h_7 known | h_10 known =>
    rw [known]
    rcases Option.or_eq_some_iff.1 found with short | ⟨_, long⟩
    · obtain ⟨family, _, short⟩ := Option.bind_eq_some_iff.1 short
      exact (type_of_shortGet short).trans known
    · exact type_of_map long fun _ => rfl
  all_goals
    rename_i known
    rw [known]
    exact type_of_map found fun _ => rfl

end Record

end DefaultGateway.Netlink
