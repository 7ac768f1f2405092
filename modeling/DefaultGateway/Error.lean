import DefaultGateway.Duration
import DefaultGateway.Errno

/-!
What can go wrong outside the logic: on the way to the kernel, in the kernel, in the files, and in
what handlers and the administrator hand in.
-/

namespace DefaultGateway

/-- A request to the kernel, as named in messages. -/
inductive Operation
  | dump
  | addRoute
  | replaceRoute
  | deleteRoute
  | reopen
  deriving DecidableEq, Repr

instance : ToString Operation where
  toString
    | .dump => "dump"
    | .addRoute => "add route"
    | .replaceRoute => "replace route"
    | .deleteRoute => "delete route"
    | .reopen => "reopen"

/-- Why a path leads to no file that can be used. -/
inductive FileFault
  | system (errno : Errno)
  /-- The path holds a zero character, which would end it. -/
  | zeroInPath
  /-- The bytes of the file encode no text. -/
  | notText
  deriving DecidableEq, Repr

def FileFault.text : FileFault → String
  | .system errno => errno.systemText
  | .zeroInPath => "file name contained an unexpected NUL byte"
  | .notText => "stream did not contain valid UTF-8"

inductive Error
  | netlink (reason : String)
  | kernel (operation : Operation) (errno : Errno)
  /-- No reply came within the given milliseconds. -/
  | timeout (milliseconds : Nat)
  | channelClosed
  | config (reason : String)
  | invalidRegistration (reason : String)
  /-- A handle names a registration that is no longer there. -/
  | unknownRegistration (key : String)
  /-- The registration store could not be read, locked or used. -/
  | store (reason : String)
  | io (fault : FileFault)
  | json (reason : String)
  | yaml (reason : String)
  /-- A sum is out of the range of its numbers. The program stops there. -/
  | overflow
  deriving DecidableEq, Repr

namespace Error

def message : Error → String
  | .netlink reason => s!"Netlink error: {reason}"
  | .kernel operation errno => s!"Kernel rejected {operation}: {errno.replyText}"
  | .timeout milliseconds =>
    s!"Timed out after {Duration.text milliseconds} waiting for netlink reply"
  | .channelClosed => "Netlink notification channel closed"
  | .config reason => s!"Configuration error: {reason}"
  | .invalidRegistration reason => s!"Invalid registration: {reason}"
  | .unknownRegistration key => s!"Unknown registration: {key}"
  | .store reason => s!"Registration store error: {reason}"
  | .io fault => s!"IO error: {fault.text}"
  | .json reason => s!"JSON error: {reason}"
  | .yaml reason => s!"YAML error: {reason}"
  | .overflow => "attempt to add with overflow"

/-- The error number of a request the kernel refused. -/
def kernelErrno? : Error → Option Errno
  | .kernel _ errno => some errno
  | _ => none

/-- Whether the channel to the kernel can no longer be used. -/
def isTransport : Error → Bool
  | .netlink _ | .timeout _ | .channelClosed => true
  | _ => false

end Error

end DefaultGateway
