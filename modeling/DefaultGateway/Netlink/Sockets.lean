import DefaultGateway.Channel
import DefaultGateway.Netlink.Hex

/-!
The system calls of the two sockets to the kernel, with what they yield. A socket for requests and
one for notifications have a queue of datagrams each; what other calls yield is set beforehand.
-/

namespace DefaultGateway.Netlink

inductive Call
  | socket
  | bind (portId groups : UInt32)
  | connect (portId groups : UInt32)
  | receiveTimeout (milliseconds : Nat)
  | receiveBuffer (bytes : Nat)
  | send (bytes : Bytes)
  deriving DecidableEq, Repr

namespace Call

/-- The kinds of call that can be made to fail. -/
inductive Kind
  | socket
  | bind
  | connect
  | option
  | send
  deriving DecidableEq, Repr

/-- A call with its arguments, as a trace of the system calls shows it. -/
instance : ToString Call where
  toString
    | .socket => "socket 16 2 0"
    | .bind portId groups => s!"bind {portId} {groups}"
    | .connect portId groups => s!"connect {portId} {groups}"
    | .receiveTimeout milliseconds =>
      let seconds := milliseconds / 1000
      let microseconds := milliseconds % 1000 * 1000
      s!"rcvtimeo {seconds}s {microseconds}us"
    | .receiveBuffer bytes => s!"rcvbuf {bytes}"
    | .send bytes => "send " ++ toHex bytes

def kind : Call → Kind
  | .socket => .socket
  | .bind .. => .bind
  | .connect .. => .connect
  | .receiveTimeout _ | .receiveBuffer _ => .option
  | .send _ => .send

end Call

/-- What a read yields: a datagram, or an error. -/
abbrev Received := Except Errno Bytes

structure Sockets where
  replies : List Received := []
  notices : List Received := []
  /-- What the next calls of a kind yield, error zero standing for success. -/
  outcomes : List (Call.Kind × Errno) := []
  calls : List Call := []

namespace Sockets

/-- What the next call of a kind yields, and what remains for later ones. -/
def takeOutcome (kind : Call.Kind) (outcomes : List (Call.Kind × Errno)) :
    Option Errno × List (Call.Kind × Errno) :=
  let outcome := (outcomes.find? (·.1 == kind)).map (·.2)
  (outcome.filter (·.code != 0), outcomes.eraseP (·.1 == kind))

/-- Makes a call; its error number if it fails. -/
def issue (call : Call) : Step Sockets (Option Errno) :=
  Step.change fun s =>
    let (failure, outcomes) := takeOutcome call.kind s.outcomes
    (failure, { s with outcomes := outcomes, calls := s.calls ++ [call] })

/-- Makes a call that must succeed. -/
def perform (call : Call) (complaint : String) : Step Sockets Unit := do
  match ← issue call with
  | some errno => throw (.netlink s!"{complaint}: {errno.systemText}")
  | none => return

/-- The next of a queue; where nothing comes, the time runs out. -/
def nextOf : List Received → Received × List Received
  | [] => (.error .again, [])
  | received :: rest => (received, rest)

def readReply : Step Sockets Received :=
  Step.change fun s =>
    let (received, rest) := nextOf s.replies
    (received, { s with replies := rest })

def readNotice : Step Sockets Received :=
  Step.change fun s =>
    let (received, rest) := nextOf s.notices
    (received, { s with notices := rest })

def setReceiveTimeout (milliseconds : Nat) : Step Sockets Unit :=
  perform (.receiveTimeout milliseconds) "setsockopt failed"

end Sockets

end DefaultGateway.Netlink
