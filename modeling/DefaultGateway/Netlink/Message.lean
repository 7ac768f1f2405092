import DefaultGateway.Event
import DefaultGateway.Netlink.Record

/-!
Messages: what the kernel and a program send each other, several of them in one datagram.

Main statement: `Payload.type_of_ofBody?`, the type in a header is that of the payload read under
it, so that a message need not hold it.
-/

namespace DefaultGateway.Netlink

inductive Payload
  | noop
  /-- The end of a request: acknowledged with code zero, or failed with a negative code. -/
  | error (code : Int32)
  /-- The end of a reply of several records. -/
  | done (code : Int32)
  | overrun
  | record (record : Record)
  deriving DecidableEq, Repr

/-- What a payload is, without a record's content. -/
instance : ToString Payload where
  toString
    | .noop => "noop"
    | .error code => s!"error {code}"
    | .done _ => "done"
    | .overrun => "overrun"
    | .record _ => "inner"

namespace Payload

/-- The type of message in which a payload travels. -/
def type : Payload → UInt16
  | .noop => 1
  | .error _ => 2
  | .done _ => 3
  | .overrun => 4
  | .record r => r.type

def body : Payload → Bytes
  | .noop | .overrun => []
  | .error code | .done code => word32 code.toUInt32
  | .record r => r.body

/-- The payload of a message of the given type. -/
def ofBody? (type : UInt16) (body : Bytes) : Option Payload :=
  match type.toNat with
  | 1 => some .noop
  | 2 => (readWord32 body).map fun (code, _) => .error code.toInt32
  | 3 =>
    if body.isEmpty then some (.done 0)
    else (readWord32 body).map fun (code, _) => .done code.toInt32
  | 4 => some .overrun
  | _ => (Record.ofBody? type body).map .record

/-- The type in a header is that of the payload read under it. -/
theorem type_of_ofBody? {type : UInt16} {body : Bytes} {payload : Payload}
    (found : ofBody? type body = some payload) : payload.type = type := by
  unfold ofBody? at found
  split at found
  case h_5 =>
    obtain ⟨_, read, rfl⟩ := Option.map_eq_some_iff.1 found
    exact Record.type_of_ofBody? read
  all_goals
    rename_i known
    apply UInt16.toNat_inj.1
    rw [known]
  case h_1 | h_4 => cases found; rfl
  case h_2 =>
    obtain ⟨_, _, rfl⟩ := Option.map_eq_some_iff.1 found
    rfl
  case h_3 =>
    split at found
    · cases found; rfl
    · obtain ⟨_, _, rfl⟩ := Option.map_eq_some_iff.1 found
      rfl

end Payload

structure Message where
  flags : UInt16
  sequence : UInt32
  payload : Payload
  deriving DecidableEq, Repr

namespace Message

def type (m : Message) : UInt16 := m.payload.type

/-! ## Flags -/

def request : UInt16 := 0x1
def multipart : UInt16 := 0x2
def acknowledge : UInt16 := 0x4
def replace : UInt16 := 0x100
def exclusive : UInt16 := 0x200
def dump : UInt16 := 0x300
def create : UInt16 := 0x400

def hasFlag (m : Message) (flag : UInt16) : Bool := m.flags &&& flag != 0

/-! ## Reading and writing -/

/-- The bytes of a message whose header names no sender. -/
def bytes (m : Message) : Bytes :=
  word32 (.ofNat (m.payload.body.length + 16)) ++ word16 m.type ++ word16 m.flags ++
    word32 m.sequence ++ word32 0 ++ m.payload.body

/-- Reads the first message, and gives the bytes from the next on. The length in the header covers
the header, and is at most what is there. -/
def read (bytes : Bytes) : Option (Message × Bytes) := do
  let (length, rest) ← readWord32 bytes
  let (type, rest) ← readWord16 rest
  let (flags, rest) ← readWord16 rest
  let (sequence, _) ← readWord32 rest
  let length := length.toNat
  if length < 16 ∨ bytes.length < length then none
  else
    let payload ← Payload.ofBody? type ((bytes.take length).drop 16)
    some (⟨flags, sequence, payload⟩, bytes.drop (aligned length))

theorem length_lt_of_read {bytes rest : Bytes} {m : Message}
    (found : read bytes = some (m, rest)) : rest.length < bytes.length := by
  simp only [read, Option.bind_eq_bind, Option.bind_eq_some_iff, Prod.exists] at found
  obtain ⟨length, _, _, _, _, _, _, _, _, _, _, _, chosen⟩ := found
  split at chosen
  · cases chosen
  · rename_i inRange
    obtain ⟨_, _, made⟩ := Option.bind_eq_some_iff.1 chosen
    simp only [Option.some.injEq, Prod.mk.injEq] at made
    rw [← made.2]
    simp only [aligned, List.length_drop]
    omega

/-- The messages of a datagram, all of which must be well formed. -/
def readAll (bytes : Bytes) : Option (List Message) :=
  if bytes.isEmpty then some []
  else
    match _found : read bytes with
    | none => none
    | some (m, rest) => (readAll rest).map (m :: ·)
termination_by bytes.length
decreasing_by exact length_lt_of_read ‹_›

/-! ## Notifications -/

/-- What a notified link is an event of: going up or down if that has changed. -/
def linkEvent (r : LinkRecord) : Event :=
  if LinkRecord.isUp r.changed then
    if r.link.up then .linkUp r.link else .linkDown r.link
  else .linkAdd r.link

/-- The event that a message notifies of, if it is one that matters here. -/
def event? (m : Message) : Option Event :=
  match m.payload with
  | .record (.link .new r) => some (linkEvent r)
  | .record (.link .delete r) => some (.linkDelete r.index)
  | .record (.address .new r) => r.interfaceAddress?.map .addressAdd
  | .record (.address .delete r) => r.interfaceAddress?.map .addressDelete
  | .record (.route .new r) =>
    r.route?.map fun route =>
      if m.hasFlag replace then .routeChange route else .routeAdd route
  | .record (.route .delete r) => r.route?.map .routeDelete
  | _ => none

end Message

end DefaultGateway.Netlink
