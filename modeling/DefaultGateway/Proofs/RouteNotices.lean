import DefaultGateway.Proofs.Framing
import DefaultGateway.Proofs.Prefixes
import DefaultGateway.Proofs.Replies

/-!
# Routes on the wire

A request about a route is read back as a notification of the same route. What has a usual value is
left out when a route is written: the destination of a default route, and metric zero. The table
stands in the fixed part if it has room there, and in an attribute in any case. Only the bits of the
destination after its length are lost.
-/

namespace DefaultGateway

/-! ## Host bits -/

/-- The prefix without the bits after its length. -/
def Prefix.masked (p : Prefix) : Prefix where
  address := p.network
  length := p.length
  length_le := by rw [network, Address.family_network]; exact p.length_le

/-- The route with the host bits of its destination cleared. -/
def Route.masked (r : Route) : Route := { r with destination := r.destination.masked }

theorem Address.network_zero (a : Address) : a.network 0 = .unspecified a.family := by
  cases a <;> simp [network, mask, unspecified, family]

namespace Netlink

theorem familyOfCode?_familyCode (family : Family) :
    familyOfCode? (familyCode family) = some family := by cases family <;> decide

/-! ## Looking up attributes -/

theorem lastValue?_append (type : UInt16) (front back : List Attribute) :
    lastValue? type (front ++ back) = (lastValue? type back).or (lastValue? type front) := by
  simp only [lastValue?, List.findRev?_eq_find?_reverse, List.reverse_append, List.find?_append]
  cases back.reverse.find? (·.type == type) <;> rfl

namespace RouteRecord

variable {α : Type} {r : Route}

theorem lastValue?_optional (type other : UInt16) (bytes : α → Bytes) (value : Option α) :
    lastValue? type (optional other bytes value) =
      if other = type then value.map bytes else none := by
  cases value with
  | none => simp [lastValue?, optional]
  | some a => by_cases same : other = type <;> simp [lastValue?, optional, same]

/-- The destination that is written: that of a default route is left out. -/
def destination? (r : Route) : Option Address :=
  if r.isDefault then none else some r.destination.network

/-- The metric that is written: zero is left out. -/
def metric? (r : Route) : Option UInt32 := if r.metric = 0 then none else some r.metric

theorem getD_destination? (r : Route) :
    (destination? r).getD (.unspecified r.family) = r.destination.network := by
  unfold destination?
  split
  · rename_i default
    have length : r.destination.length = 0 := by
      simpa [Route.isDefault, Prefix.isDefault] using default
    rw [Prefix.network, length, Address.network_zero]
    rfl
  · rfl

theorem getD_metric? (r : Route) : (metric? r).getD 0 = r.metric := by
  unfold metric?
  split
  · rename_i zero
    exact zero.symm
  · rfl

theorem attributes_ofRoute (r : Route) (deleting : Bool) :
    (ofRoute r deleting).attributes =
      optional destinationType addressBytes (destination? r) ++
        optional tableType word32 (some r.table) ++ optional gatewayType addressBytes r.gateway ++
        optional oifType word32 r.oif ++ optional metricType word32 (metric? r) := rfl

/-- The types of attributes are all different, so that each value is found under its own. -/
theorem lastValue?_ofRoute (r : Route) (deleting : Bool) :
    lastValue? destinationType (ofRoute r deleting).attributes =
        (destination? r).map addressBytes ∧
      lastValue? gatewayType (ofRoute r deleting).attributes = r.gateway.map addressBytes ∧
      lastValue? oifType (ofRoute r deleting).attributes = r.oif.map word32 ∧
      lastValue? tableType (ofRoute r deleting).attributes = some (word32 r.table) ∧
      lastValue? metricType (ofRoute r deleting).attributes = (metric? r).map word32 := by
  simp only [attributes_ofRoute, lastValue?_append, lastValue?_optional]
  simp [destinationType, gatewayType, oifType, tableType, metricType]

theorem family_ofRoute (r : Route) (deleting : Bool) :
    familyOfCode? (ofRoute r deleting).family = some r.family := familyOfCode?_familyCode r.family

theorem bind_map_of_read {bytes : α → Bytes} {read : Bytes → Option α}
    (inverse : ∀ a, read (bytes a) = some a) (value : Option α) :
    (value.map bytes).bind read = value := by
  cases value with
  | none => rfl
  | some a => exact inverse a

theorem address?_ofRoute (r : Route) (deleting : Bool) :
    (ofRoute r deleting).address? destinationType = destination? r ∧
      (ofRoute r deleting).address? gatewayType = r.gateway := by
  obtain ⟨destination, gateway, -⟩ := lastValue?_ofRoute r deleting
  have known : (familyOfCode? (ofRoute r deleting).family).isSome = true := by
    rw [family_ofRoute]
    rfl
  constructor
  · rw [address?, if_pos known, destination, bind_map_of_read addressOfBytes?_addressBytes]
  · rw [address?, if_pos known, gateway, bind_map_of_read addressOfBytes?_addressBytes]

theorem number?_ofRoute (r : Route) (deleting : Bool) :
    (ofRoute r deleting).number? oifType = r.oif ∧
      (ofRoute r deleting).number? tableType = some r.table ∧
      (ofRoute r deleting).number? metricType = metric? r := by
  obtain ⟨-, -, oif, table, metric⟩ := lastValue?_ofRoute r deleting
  refine ⟨?_, ?_, ?_⟩
  · rw [number?, oif, bind_map_of_read exactWord32_word32]
  · rw [number?, table, Option.bind_some, exactWord32_word32]
  · rw [number?, metric, bind_map_of_read exactWord32_word32]

/-- What is left out when a route is written is filled in again when it is read. -/
theorem route?_ofRoute (r : Route) (deleting : Bool) :
    (ofRoute r deleting).route? = some r.masked := by
  obtain ⟨destination, gateway⟩ := address?_ofRoute r deleting
  obtain ⟨oif, table, metric⟩ := number?_ofRoute r deleting
  have length : (ofRoute r deleting).length.toNat = r.destination.length :=
    UInt8.toNat_ofNat_of_lt' r.destination.length_lt_size
  have made : Prefix.new r.destination.network r.destination.length = .ok r.destination.masked :=
    dif_pos r.destination.masked.length_le
  have known : ¬(ofRoute r deleting).type ≠ unicast := not_not_intro rfl
  rw [route?, family_ofRoute, Option.bind_eq_bind, Option.bind_some, if_neg known]
  simp only [destination, gateway, oif, table, metric, length, getD_destination?, getD_metric?,
    made]
  rfl

/-! ## Sizes -/

theorem forall_mem_optional {holds : Attribute → Prop} {type : UInt16} {bytes : α → Bytes}
    {value : Option α} (each : ∀ a ∈ value, holds ⟨type, bytes a⟩) :
    ∀ a ∈ optional type bytes value, holds a := by
  cases value with
  | none => exact List.forall_mem_nil _
  | some a => exact List.forall_mem_singleton.2 (each a rfl)

theorem length_optional_le (type : UInt16) (bytes : α → Bytes) (value : Option α) :
    (optional type bytes value).length ≤ 1 := by
  cases value with
  | none => exact Nat.zero_le 1
  | some a => exact Nat.le_refl 1

theorem length_addressBytes_le (a : Address) : (addressBytes a).length ≤ 16 := by
  have width := a.family.width_le
  have size := length_addressBytes a
  omega

theorem hasAddressLength_addressBytes {family : Family} {a : Address}
    (same : a.family = family) : hasAddressLength (familyCode family) (addressBytes a) = true := by
  rw [hasAddressLength, familyOfCode?_familyCode, ← same]
  exact beq_iff_eq.2 (length_addressBytes a)

/-- The attribute has a plain type, and a short value that has the form of its type. -/
structure Suits (family : UInt8) (a : Attribute) : Prop where
  type : a.type &&& 0x3fff = a.type
  short : a.value.length ≤ 16
  form : hasValue family a = true

theorem suits_number {type : UInt16} (plain : type &&& 0x3fff = type)
    (known : type.toNat = 4 ∨ type.toNat = 6 ∨ type.toNat = 15) (family : UInt8) (n : UInt32) :
    Suits family ⟨type, word32 n⟩ := by
  refine ⟨plain, Nat.le_of_ble_eq_true rfl, ?_⟩
  obtain known | known | known := known <;> simp [hasValue, known]

theorem suits_address {type : UInt16} (plain : type &&& 0x3fff = type)
    (known : type.toNat = 1 ∨ type.toNat = 5) {family : Family} {a : Address}
    (same : a.family = family) : Suits (familyCode family) ⟨type, addressBytes a⟩ := by
  refine ⟨plain, length_addressBytes_le a, ?_⟩
  obtain known | known := known <;> simp [hasValue, known, hasAddressLength_addressBytes same]

theorem suits_of_mem_ofRoute (sameFamily : ∀ gateway ∈ r.gateway, gateway.family = r.family)
    (deleting : Bool) :
    ∀ a ∈ (ofRoute r deleting).attributes, Suits (familyCode r.family) a := by
  have destinationFamily : ∀ a ∈ destination? r, a.family = r.family := by
    intro a written
    unfold destination? at written
    split at written
    · cases written
    · cases written
      exact Address.family_network _ _
  simp only [attributes_ofRoute, List.forall_mem_append]
  refine ⟨⟨⟨⟨?_, ?_⟩, ?_⟩, ?_⟩, ?_⟩ <;> apply forall_mem_optional
  · exact fun a written => suits_address (by decide) (by decide) (destinationFamily a written)
  · exact fun n _ => suits_number (by decide) (by decide) _ n
  · exact fun a written => suits_address (by decide) (by decide) (sameFamily a written)
  · exact fun n _ => suits_number (by decide) (by decide) _ n
  · exact fun n _ => suits_number (by decide) (by decide) _ n

theorem length_attributes_ofRoute_le (r : Route) (deleting : Bool) :
    (ofRoute r deleting).attributes.length ≤ 5 := by
  have destination := length_optional_le destinationType addressBytes (destination? r)
  have table := length_optional_le tableType word32 (some r.table)
  have gateway := length_optional_le gatewayType addressBytes r.gateway
  have oif := length_optional_le oifType word32 r.oif
  have metric := length_optional_le metricType word32 (metric? r)
  rw [attributes_ofRoute]
  simp only [List.length_append]
  omega

theorem Suits.fits {family : UInt8} {a : Attribute} (suits : Suits family a) : a.Fits where
  type := suits.type
  length := Nat.lt_of_le_of_lt (Nat.add_le_add_right suits.short 4) (by decide)

theorem length_flatMap_bytes_le {family : UInt8} {attributes : List Attribute}
    (suit : ∀ a ∈ attributes, Suits family a) :
    (attributes.flatMap Attribute.bytes).length ≤ 20 * attributes.length := by
  induction attributes with
  | nil => exact Nat.le_refl 0
  | cons a rest inductionHypothesis =>
      obtain ⟨first, later⟩ := List.forall_mem_cons.1 suit
      have short := first.short
      have following := inductionHypothesis later
      rw [List.flatMap_cons, List.length_append, List.length_cons,
        Attribute.length_bytes]
      unfold aligned
      omega

end RouteRecord

namespace Message

/-- A request about a route is read back from its bytes. -/
theorem fits_ofRoute {r : Route} (sameFamily : ∀ gateway ∈ r.gateway, gateway.family = r.family)
    {verb : Verb} (kind : verb ≠ .set) (deleting : Bool) (flags : UInt16) (sequence : UInt32) :
    Fits ⟨flags, sequence, .record (.route verb (.ofRoute r deleting))⟩ := by
  have suit := RouteRecord.suits_of_mem_ofRoute sameFamily deleting
  refine ⟨⟨kind, fun a member => ⟨(suit a member).fits, (suit a member).form⟩⟩, ?_⟩
  have content := RouteRecord.length_flatMap_bytes_le suit
  have few := RouteRecord.length_attributes_ofRoute_le r deleting
  have body : (Payload.record (.route verb (.ofRoute r deleting))).body.length =
      12 + ((RouteRecord.ofRoute r deleting).attributes.flatMap Attribute.bytes).length := by
    rw [Payload.body, Record.body, RouteRecord.body, List.length_append]
    rfl
  show (Payload.record (.route verb (.ofRoute r deleting))).body.length + 16 < UInt32.size
  rw [body]
  have room : 12 + 20 * 5 + 16 < UInt32.size := by decide
  omega

theorem readAll_bytes {m : Message} (fits : m.Fits) : readAll m.bytes = some [m] :=
  readAll_packed_append (List.forall_mem_nil _) fits

theorem event?_newRoute (r : Route) (deleting : Bool) (flags : UInt16) (sequence : UInt32) :
    event? ⟨flags, sequence, .record (.route .new (.ofRoute r deleting))⟩ =
      some (if flags &&& replace ≠ 0 then .routeChange r.masked else .routeAdd r.masked) := by
  simp only [event?, RouteRecord.route?_ofRoute, Option.map_some, hasFlag, bne_iff_ne]

theorem event?_deletedRoute (r : Route) (deleting : Bool) (flags : UInt16) (sequence : UInt32) :
    event? ⟨flags, sequence, .record (.route .delete (.ofRoute r deleting))⟩ =
      some (.routeDelete r.masked) := by
  simp only [event?, RouteRecord.route?_ofRoute, Option.map_some]

end Message

namespace Channel

/-- The bytes that a request about a route is sent as notify of that route. -/
theorem events_of_sent_route (c : Channel) (r : Route)
    (sameFamily : ∀ gateway ∈ r.gateway, gateway.family = r.family) (deleting : Bool)
    (flags : UInt16) :
    (∃ bytes,
      ((send (.route .new (.ofRoute r deleting)) flags).runFrom c).2.sockets.calls =
          c.sockets.calls ++ [.send bytes] ∧
        (Message.readAll bytes).map (·.filterMap Message.event?) =
          some [if flags &&& Message.replace ≠ 0 then .routeChange r.masked
            else .routeAdd r.masked]) ∧
      ∃ bytes,
        ((send (.route .delete (.ofRoute r deleting)) flags).runFrom c).2.sockets.calls =
            c.sockets.calls ++ [.send bytes] ∧
          (Message.readAll bytes).map (·.filterMap Message.event?) =
            some [.routeDelete r.masked] := by
  have read {verb : Verb} (kind : verb ≠ .set) :=
    Message.readAll_bytes
      (Message.fits_ofRoute sameFamily kind deleting flags (nextSequence c.sequence))
  constructor
  · refine ⟨_, by rw [runFrom_send, sending], ?_⟩
    rw [read (by decide), Option.map_some, List.filterMap_cons, Message.event?_newRoute]
    rfl
  · refine ⟨_, by rw [runFrom_send, sending], ?_⟩
    rw [read (by decide), Option.map_some, List.filterMap_cons, Message.event?_deletedRoute]
    rfl

/-- A route to a network of the second family, requested with the address of a host on it. -/
theorem events_of_sent_route_withHost :
    let host : Route :=
      { destination := ⟨.v6 0x20010db8000000000000000000000001#128, 32, by decide⟩
        gateway := some (.v6 0xfe800000000000000000000000000001#128)
        oif := some 7
        table := 300
        metric := 0 }
    let network : Route :=
      { host with destination := ⟨.v6 0x20010db8000000000000000000000000#128, 32, by decide⟩ }
    (∀ gateway ∈ host.gateway, gateway.family = host.family) ∧
      ∃ bytes,
        ((send (.route .new (.ofRoute host false)) Message.replace).runFrom
            ⟨{}, 0, 1000⟩).2.sockets.calls = [.send bytes] ∧
          (Message.readAll bytes).map (·.filterMap Message.event?) =
            some [.routeChange network] := by
  intro host network
  have sameFamily : ∀ gateway ∈ host.gateway, gateway.family = host.family := by
    rintro gateway ⟨⟩
    rfl
  have masked : host.masked = network := by decide
  obtain ⟨bytes, sent, notified⟩ :=
    (events_of_sent_route ⟨{}, 0, 1000⟩ host sameFamily false Message.replace).1
  rw [if_pos (by decide), masked] at notified
  exact ⟨sameFamily, bytes, sent, notified⟩

end Channel

end Netlink

end DefaultGateway
