import Mathlib.Data.List.Basic
import DefaultGateway.Proofs.Coherence
import DefaultGateway.Proofs.Replies

/-!
# Messages of other families

Every record begins with an address family. Addresses and routes of other families than the two are
nothing to go by, and no event comes of them. A link has no family, so what is told of one counts
in whatever family it is told: also what a bridge tells of its ports, and that an interface is no
longer a port is then taken to mean that there is no such interface any more.
-/

namespace DefaultGateway.Netlink

namespace Record

/-- The address family in the fixed part of a record of a kind that is used here. -/
def family? : Record → Option UInt8
  | .link _ r => some r.family
  | .address _ r => some r.family
  | .route _ r => some r.family
  | .other .. => none

def withFamily (family : UInt8) : Record → Record
  | .link verb r => .link verb { r with family := family }
  | .address verb r => .address verb { r with family := family }
  | .route verb r => .route verb { r with family := family }
  | .other type bytes => .other type bytes

/-- Whether a family is named, and neither of the two. -/
def isForeign (r : Record) : Bool :=
  r.family?.any fun code => code != 0 && (familyOfCode? code).isNone

/-- Whether a link is said to be there or to be gone. -/
def notifiesOfLink : Record → Bool
  | .link .new _ | .link .delete _ => true
  | _ => false

end Record

theorem AddressRecord.interfaceAddress?_of_unknown
    {r : AddressRecord} (unknown : familyOfCode? r.family = none) :
    r.interfaceAddress? = none := by
  rw [interfaceAddress?, unknown]
  rfl

theorem RouteRecord.route?_of_unknown
    {r : RouteRecord} (unknown : familyOfCode? r.family = none) : r.route? = none := by
  rw [route?, unknown]
  rfl

namespace Message

def isForeign (m : Message) : Bool := m.record?.any (·.isForeign)

def notifiesOfLink (m : Message) : Bool := m.record?.any (·.notifiesOfLink)

/-- The same message in another family. -/
def withFamily (family : UInt8) (m : Message) : Message :=
  match m.payload with
  | .record r => { m with payload := .record (r.withFamily family) }
  | _ => m

/-- Whether a message is about a link, or not of another family than the two. -/
def isHeeded (m : Message) : Bool := !m.isForeign || m.notifiesOfLink

theorem exists_record_of_foreign {m : Message} (foreign : m.isForeign = true) :
    ∃ r, m.payload = .record r ∧ r.isForeign = true := by
  unfold isForeign record? at foreign
  split at foreign
  · rename_i r written
    exact ⟨r, written, by simpa using foreign⟩
  · cases foreign

theorem unknown_of_foreign {r : Record} {code : UInt8} (named : r.family? = some code)
    (foreign : r.isForeign = true) : familyOfCode? code = none := by
  rw [Record.isForeign, named] at foreign
  simp only [Option.any_some, Bool.and_eq_true] at foreign
  exact Option.isNone_iff_eq_none.1 foreign.2

/-- No event comes of a message of another family, unless it is about a link. -/
theorem event?_eq_none_of_foreign {m : Message} (foreign : m.isForeign = true)
    (unlinked : m.notifiesOfLink = false) : m.event? = none := by
  obtain ⟨r, written, foreignRecord⟩ := exists_record_of_foreign foreign
  have told : r.notifiesOfLink = false := by
    simpa [notifiesOfLink, record?, written] using unlinked
  rw [event?, written]
  cases r with
  | link verb r =>
      cases verb with
      | new => cases told
      | delete => cases told
      | get => rfl
      | set => rfl
  | address verb r =>
      have unknown := unknown_of_foreign rfl foreignRecord
      cases verb <;> simp [AddressRecord.interfaceAddress?_of_unknown unknown]
  | route verb r =>
      have unknown := unknown_of_foreign rfl foreignRecord
      cases verb <;> simp [RouteRecord.route?_of_unknown unknown]
  | other type bytes => rfl

/-- What is told of a link is an event, and the same in every family. -/
theorem event?_of_link {m : Message} (linked : m.notifiesOfLink = true) :
    (∃ event, m.event? = some event) ∧ ∀ family, (m.withFamily family).event? = m.event? := by
  obtain ⟨flags, sequence, payload⟩ := m
  cases payload with
  | record r =>
      cases r with
      | link verb r =>
          cases verb with
          | new => exact ⟨⟨_, rfl⟩, fun family => rfl⟩
          | delete => exact ⟨⟨_, rfl⟩, fun family => rfl⟩
          | get => cases linked
          | set => cases linked
      | address verb r => cases linked
      | route verb r => cases linked
      | other type bytes => cases linked
  | _ => cases linked

theorem filterMap_event?_filter (messages : List Message) :
    (messages.filter isHeeded).filterMap event? = messages.filterMap event? := by
  rw [List.filterMap_filter]
  refine List.filterMap_congr fun m _ => ?_
  cases heeded : m.isHeeded with
  | true => rfl
  | false =>
      obtain ⟨foreign, unlinked⟩ : m.isForeign = true ∧ m.notifiesOfLink = false := by
        simpa [isHeeded] using heeded
      exact (event?_eq_none_of_foreign foreign unlinked).symm

/-- Messages of other families that are not about links can be taken out of a datagram, and the same
events come of the rest. -/
theorem events_of_heeded (bytes : Bytes) :
    (readAll (keepOnly isHeeded bytes)).map (·.filterMap event?) =
      (readAll bytes).map (·.filterMap event?) := by
  rw [readAll_keepOnly, Option.map_map]
  exact congrArg (Option.map · (readAll bytes)) (funext filterMap_event?_filter)

/-- A message of another family than the two is no event, and changes nothing in what is known of
the kernel, unless it is about a link. Then it is an event, and the same as in any family. -/
theorem foreign_heeded_iff_link {m : Message} (foreign : m.isForeign = true) :
    (m.event? = none ↔ m.notifiesOfLink = false) ∧
      (∀ model,
        m.notifiesOfLink = false → Engine.applyEvents model m.event?.toList = (model, [])) ∧
      (m.notifiesOfLink = true → ∀ family, (m.withFamily family).event? = m.event?) := by
  refine ⟨⟨fun silent => ?_, event?_eq_none_of_foreign foreign⟩, fun model unlinked => ?_,
    fun linked => (event?_of_link linked).2⟩
  · refine Bool.eq_false_iff.2 fun linked => ?_
    obtain ⟨event, told⟩ := (event?_of_link linked).1
    rw [silent] at told
    cases told
  · rw [event?_eq_none_of_foreign foreign unlinked]
    rfl

/-- What a bridge tells when the third interface is no longer one of its ports. -/
def formerPort : Message := ⟨0, 0, .record (.link .delete { family := 7, index := 3 })⟩

/-- An address of a family of its own on that interface. -/
def foreignAddress : Message :=
  ⟨0, 0, .record (.address .new
    { family := 7, length := 24, index := 3, attributes := [⟨2, [10, 1, 0, 5]⟩] })⟩

theorem foreign_heeded_iff_link_bridge :
    formerPort.isForeign = true ∧ (formerPort.withFamily 0).event? = formerPort.event? ∧
      foreignAddress.isForeign = true ∧ foreignAddress.event? = none := by
  have port : formerPort.isForeign = true := by decide
  have address : foreignAddress.isForeign = true := by decide
  obtain ⟨-, -, alike⟩ := foreign_heeded_iff_link port
  obtain ⟨silent, -⟩ := foreign_heeded_iff_link address
  exact ⟨port, alike (by decide) 0, address, silent.2 (by decide)⟩

/-- Two interfaces with addresses, and a default route by the second, a port of a bridge. -/
def bridgedUplinks : Model :=
  { Model.empty 254 with
    links := .ofList Engine.twoUplinks.kernel.links
    addresses := .ofList Engine.twoUplinks.kernel.addresses
    defaults := ⟨.ofList [.defaultVia .inet (.v4 0x0a010001#32) (some 3) 254 0], ∅⟩ }

/-- The interface is still there when it has left the bridge, but with the message that says so it
is forgotten, and its address and its route with it. -/
theorem forgotten_with_bridge :
    let told := Engine.applyEvents bridgedUplinks formerPort.event?.toList
    readAll formerPort.bytes = some [formerPort] ∧ formerPort.isForeign = true ∧
      formerPort.event? = some (.linkDelete 3) ∧
      bridgedUplinks.links.toList.map (·.index) = [2, 3] ∧
      told.1.links.toList.map (·.index) = [2] ∧ told.1.addresses.toList.map (·.index) = [2] ∧
      told.1.defaultRoutes .inet = [] := by
  decide +kernel

end Message

end DefaultGateway.Netlink
