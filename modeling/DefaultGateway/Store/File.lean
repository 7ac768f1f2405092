import DefaultGateway.Config
import DefaultGateway.Store.Text
import DefaultGateway.Text.Blank

/-!
The store as a file. Changes are made one at a time under a lock, and the daemon is told of each.
-/

namespace DefaultGateway

namespace Store

/-- Reads the store; where there is no file, it is empty. -/
def load (path : String) : Step Host Store := do
  match ← (Host.read path).attempt with
  | .error (.io fault) =>
    if fault = .system .noEntry then return {} else throw (.io fault)
  | .error error => throw error
  | .ok text =>
    match ofText? text with
    | some store => return store
    | none => throw (.store s!"Failed to parse {path}: not a registration store")

/-- Writes the store to a file of its own first, so that no reader finds half of it. -/
def save (path : String) (s : Store) : Step Host Unit := do
  let draft := path ++ ".tmp"
  Host.write draft s.text
  Host.rename draft path

/-- Signals the process whose number a file holds. -/
def signalDaemon (pidPath : String) : Step Host Unit := do
  let text := Text.trim (← Host.read pidPath)
  match Text.readInteger 0x80000000 text.toList with
  | none => throw (.store s!"Invalid pid in {pidPath}: {Text.quoted text}")
  | some pid =>
    if !(← Host.signal pid) then
      throw (.store s!"Failed to signal pid {pid}: ESRCH: No such process")

/-- Signals the daemon, which must be running. -/
def signalRunningDaemon (pidPath : String) : Step Host Unit := do
  match ← (signalDaemon pidPath).attempt with
  | .error (.io fault) =>
    throw (.store s!"Cannot read pid file {pidPath}: {fault.text}")
  | .error error => throw error
  | .ok () => return

/-- Runs a change on the store. The file is written, and the daemon signalled, only if the change
succeeds and makes a difference; whether the signal arrives does not matter. -/
def update {α : Type} (c : Config) (change : Store → Except Error (α × Store)) :
    Step Host α := do
  Host.touch c.lockPath
  let before ← load c.statePath
  let (a, after) ← change before
  if after ≠ before then
    save c.statePath after
    let _ ← (signalDaemon c.pidPath).attempt
  return a

end Store

end DefaultGateway
