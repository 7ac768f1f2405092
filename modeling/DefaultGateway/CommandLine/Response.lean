import DefaultGateway.CommandLine.Invocation
import DefaultGateway.CommandLine.LogFilter
import DefaultGateway.Store.File

/-!
What a command line does to the files, what it prints, and the exit status it ends with.
-/

namespace DefaultGateway.CommandLine

structure Response where
  status : UInt8
  output : String := ""
  /-- What the user is told of a failure. -/
  complaint : String := ""
  deriving DecidableEq, Repr

def usage : String :=
  let column := 16
  let line := fun (name summary : String) =>
    "  " ++ name ++ "".pushn ' ' (column - name.length) ++ summary ++ "\n"
  "Default route selection daemon\n\nUsage: defaultconf [OPTIONS] <COMMAND>\n\nCommands:\n" ++
    String.join (Command.forms.map fun form => line form.name form.summary)

namespace Stop

def response : Stop → Response
  | .help => { status := 0, output := usage }
  | .version => { status := 0, output := "defaultconf 0.1.0\n" }
  | .misuse => { status := 2, complaint := usage }

end Stop

def LogFilter.Fault.response : Fault → Response
  | .malformed => { status := 1, complaint := "Invalid log level" }
  | .splitCharacter => { status := 101, complaint := "The log level splits a character" }

/-- How a program ends on an error. One that stops on the spot has a status of its own. -/
def failure (error : Error) : Response where
  status := if error = .overflow then 101 else 1
  complaint := error.message

namespace Command

/-- The change that a command makes to the store, and its result. -/
def edit? (now : Instant) : Command → Option (Store → Except Error (Unit × Store))
  | .add key address source => some fun s => do
    let (_, s) ← s.add now key address source
    return ((), s)
  | .remove filter => some fun s => .ok ((), s.remove filter)
  | .disable filter => some fun s => .ok ((), s.disable filter)
  | .enable filter => some fun s => .ok ((), s.enable filter)
  | _ => none

/-- Carries a command out. The commands that talk to the kernel need more than files. -/
def run (now : Instant) (c : Config) (command : Command) : Step Host Response :=
  match command, command.edit? now with
  | _, some edit => do
    Store.update c edit
    return { status := 0 }
  | .getDefault filter, _ => do
    match (← Store.load c.statePath).default? c.policy filter with
    | some gateway => return { status := 0, output := gateway.toJson.compact ++ "\n" }
    | none => return { status := 1 }
  | .signalDaemon, _ => do
    Store.signalRunningDaemon c.pidPath
    return { status := 0 }
  | _, _ => throw (.netlink "there is no way to the kernel")

end Command

/-- The files that commands use under a configuration. -/
def pathsOf (c : Config) : List String := [c.statePath, c.lockPath, c.pidPath]

def Invocation.run (now : Instant) (invocation : Invocation) : Step Host Response := do
  if let .error fault := LogFilter.check invocation.logLevel then
    return fault.response
  let outcome ← Step.attempt do
    invocation.command.run now (← Config.loadOrDefault invocation.config)
  match outcome with
  | .ok response => return response
  | .error error => return failure error

/-- Carries out a command line at a time. -/
def respond (now : Instant) (words : List String) (host : Host) : Response × Host :=
  match Invocation.read words with
  | .error stop => (stop.response, host)
  | .ok invocation =>
    match (invocation.run now).runFrom host with
    | (.ok response, host) => (response, host)
    | (.error error, host) => (failure error, host)

end DefaultGateway.CommandLine
