import DefaultGateway.Netlink.Channel
import DefaultGateway.Recovery
import DefaultGateway.Store.File
import DefaultGateway.Store.Sync

/-!
The daemon. It reads the kernel and the store, and then deals in turn with notifications of the
kernel, with changes of the store, and with changes of the configuration.
-/

namespace DefaultGateway

open Netlink

/-- The files and sockets that a daemon works with. -/
structure Surroundings where
  host : Host
  sockets : Sockets

namespace Surroundings

variable {α : Type}

def onHost (step : Step Host α) : Step Surroundings α :=
  step.on host fun s host => { s with host := host }

def onSockets (step : Step Sockets α) : Step Surroundings α :=
  step.on sockets fun s sockets => { s with sockets := sockets }

end Surroundings

/-- What a daemon is told from outside. -/
inductive Signal
  | reloadStore
  | reloadConfig
  deriving DecidableEq, Repr

/-- What happens around a daemon between two rests: files change, datagrams arrive, and a signal
may come. -/
structure Stage where
  files : List (Location × String) := []
  replies : List Received := []
  notices : List Received := []
  signal : Option Signal := none

structure Daemon where
  host : Host
  synced : Synced Channel
  /-- Whether the connection still has to be recovered. -/
  pending : Bool := false
  config : Config
  configPath : String

namespace Daemon

variable {α : Type}

def sockets (d : Daemon) : Sockets := d.synced.engine.channel.sockets

def withEngine (d : Daemon) (engine : Engine Channel) : Daemon :=
  { d with synced := { d.synced with engine := engine } }

def onHost (step : Step Host α) : Step Daemon α :=
  step.on host fun d host => { d with host := host }

def onSynced (step : Step (Synced Channel) α) : Step Daemon α :=
  step.on synced fun d synced => { d with synced := synced }

def onEngine (step : Step (Engine Channel) α) : Step Daemon α := onSynced (Synced.onEngine step)

def onSockets (step : Step Sockets α) : Step Daemon α :=
  onEngine (Engine.onChannel (Channel.onSockets step))

def onRecovering (step : Step (Recovering Channel) α) : Step Daemon α :=
  step.on (fun d => ⟨d.synced.engine, d.pending⟩)
    fun d r => { d.withEngine r.engine with pending := r.pending }

def onConfigured (step : Step (Configured Channel) α) : Step Daemon α :=
  step.on (fun d => ⟨d.synced.engine, d.config⟩)
    fun d c => { d.withEngine c.engine with config := c.config }

/-- A round of the daemon: some work, whose failure is dealt with. -/
def round (work : Step Daemon Unit) : Step Daemon Unit := do
  let outcome ← work.attempt
  onRecovering (Recovering.settle outcome)

def loadStore : Step Daemon Unit := do
  let store ← onHost (Store.load (← get).config.statePath)
  let _ ← onSynced (Synced.apply store)

def reloadConfig : Step Daemon Unit := do
  let loaded ← (onHost (Config.load (← get).configPath)).attempt
  onConfigured (Configured.reload loaded)

/-- Opens the socket for notifications again, as often as it takes. -/
def resubscribe : Nat → Step Daemon Unit
  | 0 => return
  | attempts + 1 => do
    match ← (onSockets Notices.subscribe).attempt with
    | .ok () => return
    | .error _ => resubscribe attempts

/-- Deals with one datagram of notifications. Where some may be lost, a new socket is opened first
and everything is read again after that. -/
def handleNotice : Step Daemon Unit := do
  match ← (onSockets Notices.next).attempt with
  | .ok [] => return
  | .ok events => round do
    let _ ← onEngine (Engine.handleEvents events)
  | .error _ =>
    resubscribe ((← get).sockets.outcomes.length + 1)
    round do
      let _ ← onEngine Engine.resync

def handleNotices : Nat → Step Daemon Unit
  | 0 => return
  | count + 1 => do
    handleNotice
    handleNotices count

def handleSignal : Signal → Step Daemon Unit
  | .reloadStore => round loadStore
  | .reloadConfig => round reloadConfig

def handleStage (stage : Stage) : Step Daemon Unit := do
  modify fun d => { d with
    host := stage.files.foldl (fun host (place, text) => host.put place (.file text)) d.host }
  onSockets <| modify fun s => { s with
    replies := s.replies ++ stage.replies
    notices := s.notices ++ stage.notices }
  handleNotices (← get).sockets.notices.length
  match stage.signal with
  | some signal => handleSignal signal
  | none => return

def handleStages : List Stage → Step Daemon Unit
  | [] => return
  | stage :: rest => do
    handleStage stage
    handleStages rest

/-- The work of a daemon whose sockets are open. -/
def serve (stages : List Stage) : Step Daemon Unit := do
  let _ ← onEngine Engine.seed
  loadStore
  handleStages stages

def writePid (config : Config) : Step Surroundings Unit := do
  let pid := (← get).host.pid
  Surroundings.onHost (Host.write config.pidPath s!"{pid}\n")

/-- Takes the number of the daemon's process away; it does not matter whether it is there. -/
def removePid (config : Config) : Step Surroundings Unit := do
  let _ ← (Surroundings.onHost (Host.remove config.pidPath)).attempt

/-- Opens the sockets and serves. The notifications begin before anything is read, so that no
change falls between the two. -/
def work (configPath : String) (config : Config) (stages : List Stage) :
    Step Surroundings Unit := do
  Surroundings.onSockets (Channel.connect config.requestTimeoutMs.toNat)
  Surroundings.onSockets Notices.subscribe
  Step.of fun s =>
    let channel : Channel := { sockets := s.sockets, timeout := config.requestTimeoutMs.toNat }
    let daemon : Daemon := {
      host := s.host
      synced := .new (.new channel config.engineSettings config.policy)
      config := config
      configPath := configPath }
    let (outcome, daemon) := (serve stages).runFrom daemon
    (outcome, ⟨daemon.host, daemon.sockets⟩)

/-- A whole run: the process number stands in its file as long as the daemon works. -/
def run (configPath : String) (config : Config) (stages : List Stage) :
    Step Surroundings Unit := do
  writePid config
  let outcome ← (work configPath config stages).attempt
  removePid config
  match outcome with
  | .ok () => return
  | .error error => throw error

end Daemon

end DefaultGateway
