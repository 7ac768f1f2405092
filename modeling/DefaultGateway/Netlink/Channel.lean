import DefaultGateway.Netlink.Message
import DefaultGateway.Netlink.Sockets

/-!
The way to the kernel over a socket: requests with numbers, and the replies that carry the same
number. Messages with another number answer a request given up before, and are passed over.
-/

namespace DefaultGateway.Netlink

/-- The complaint about a datagram that is no sequence of messages. -/
def malformed : Error := .netlink "Failed to parse message: malformed datagram"

/-- How a request is answered. -/
inductive Reply
  | acknowledged
  | refused (code : Int32)
  | records (records : List Record)
  deriving DecidableEq, Repr

namespace Reply

/-- Whether a message ends the reply to a request, given the records before it; else the records
with those of the message. -/
def step (before : List Record) (m : Message) : Reply ⊕ List Record :=
  match m.payload with
  | .done _ => .inl (.records before)
  | .error code =>
    if code ≠ 0 then .inl (.refused code)
    else .inl (if before.isEmpty then .acknowledged else .records before)
  | .record record =>
    if m.hasFlag Message.multipart then .inr (before ++ [record])
    else .inl (.records (before ++ [record]))
  | .noop | .overrun => .inr before

/-- The reply to the request of a number as far as the messages go. -/
def collect (sequence : UInt32) (before : List Record) : List Message → Reply ⊕ List Record
  | [] => .inr before
  | m :: rest =>
    if m.sequence ≠ sequence then collect sequence before rest
    else match step before m with
      | .inl reply => .inl reply
      | .inr more => collect sequence more rest

end Reply

structure Channel where
  sockets : Sockets
  sequence : UInt32 := 0
  /-- How many milliseconds to wait for a reply. -/
  timeout : Nat

namespace Channel

variable {α : Type}

def onSockets (step : Step Sockets α) : Step Channel α :=
  step.on sockets fun channel sockets => { channel with sockets := sockets }

def connect (timeout : Nat) : Step Sockets Unit := do
  Sockets.perform .socket "Failed to create socket"
  Sockets.perform (.bind 0 0) "Failed to bind socket"
  Sockets.perform (.connect 0 0) "Failed to connect socket"
  Sockets.setReceiveTimeout timeout

/-- The number after another; zero is never one. -/
def nextSequence (sequence : UInt32) : UInt32 := max (sequence + 1) 1

def send (record : Record) (flags : UInt16) : Step Channel UInt32 := do
  modify fun c => { c with sequence := nextSequence c.sequence }
  let sequence := (← get).sequence
  let request : Message := ⟨flags, sequence, .record record⟩
  onSockets (Sockets.perform (.send request.bytes) "Failed to send request")
  return sequence

/-- Reads datagrams until the reply is complete; `unread` bounds how many there are. -/
def readDatagrams (sequence : UInt32) : Nat → List Record → Step Channel Reply
  | 0, _ => do throw (.timeout (← get).timeout)
  | unread + 1, records => do
    match ← onSockets Sockets.readReply with
    | .error errno =>
      if errno.isTimeout then throw (.timeout (← get).timeout)
      else throw (.netlink s!"Failed to receive reply: {errno.systemText}")
    | .ok bytes =>
      match Message.readAll bytes with
      | none => throw malformed
      | some messages =>
        match Reply.collect sequence records messages with
        | .inl reply => return reply
        | .inr records => readDatagrams sequence unread records

/-- Waits for the reply to a request. Where no time is given, none is left. -/
def readReply (sequence : UInt32) : Step Channel Reply := do
  let channel ← get
  if channel.timeout = 0 then throw (.timeout 0)
  else readDatagrams sequence (channel.sockets.replies.length + 1) []

/-- Asks for everything of a kind. -/
def dump (record : Record) : Step Channel (List Record) := do
  let sequence ← send record (Message.request ||| Message.dump)
  match ← readReply sequence with
  | .records records => return records
  | .acknowledged => return []
  | .refused code => throw (.kernel .dump (.ofCode code))

def change (operation : Operation) (record : Record) (flags : UInt16) : Step Channel Unit := do
  let sequence ← send record (Message.request ||| Message.acknowledge ||| flags)
  match ← readReply sequence with
  | .records _ | .acknowledged => return
  | .refused code => throw (.kernel operation (.ofCode code))

def newLink? : Record → Option Link
  | .link .new r => some r.link
  | _ => none

def newAddress? : Record → Option InterfaceAddress
  | .address .new r => r.interfaceAddress?
  | _ => none

def newRoute? : Record → Option Route
  | .route .new r => r.route?
  | _ => none

instance : RouteChannel Channel where
  dumpLinks := return (← dump (.link .get {})).filterMap newLink?
  dumpAddresses := return (← dump (.address .get {})).filterMap newAddress?
  dumpRoutes family := do
    let code := (family.map familyCode).getD 0
    let routes := (← dump (.route .get { family := code })).filterMap newRoute?
    return routes.filter fun route => family.all (route.family == ·)
  addRoute route :=
    change .addRoute (.route .new (.ofRoute route false)) (Message.create ||| Message.exclusive)
  replaceRoute route :=
    change .replaceRoute (.route .new (.ofRoute route false)) (Message.create ||| Message.replace)
  deleteRoute route := change .deleteRoute (.route .delete (.ofRoute route true)) 0
  reopen := do onSockets (connect (← get).timeout)

end Channel

/-! ## Notifications -/

namespace Notices

/-- The groups of links, neighbours, addresses and routes. -/
def groups : List UInt32 := [1, 3, 5, 7, 9, 11]

def groupMask : UInt32 :=
  groups.foldl (fun mask group => mask ||| (1 : UInt32) <<< (group - 1)) 0

def bufferSize : Nat := 1048576

/-- How many milliseconds a read waits for a notification. -/
def pollInterval : Nat := 1000

/-- Opens the socket for notifications. It does without a larger buffer if it has to. -/
def subscribe : Step Sockets Unit := do
  Sockets.perform .socket "Failed to create socket"
  Sockets.perform (.bind 0 groupMask) "Failed to bind socket"
  let _ ← Sockets.issue (.receiveBuffer bufferSize)
  Sockets.setReceiveTimeout pollInterval

/-- The events of the next datagram; none if nothing came. Any other failure means that
notifications may be lost. -/
def next : Step Sockets (List Event) := do
  match ← Sockets.readNotice with
  | .error errno =>
    if errno.isTimeout || errno = .interrupted then return []
    else throw (.netlink s!"Failed to receive notification: {errno.systemText}")
  | .ok bytes =>
    match Message.readAll bytes with
    | none => throw malformed
    | some messages => return messages.filterMap Message.event?

end Notices

end DefaultGateway.Netlink
