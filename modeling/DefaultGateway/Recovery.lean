import DefaultGateway.Config

/-!
Keeping the daemon at work: a connection that has failed is opened again and everything is read
anew, now or at the next tick of the timer; a new configuration takes the place of the old one
only if it is sound.
-/

namespace DefaultGateway

/-- An engine, and whether its connection still has to be recovered. -/
structure Recovering (σ : Type) where
  engine : Engine σ
  pending : Bool := false

namespace Recovering

variable {σ α : Type}

def onEngine (step : Step (Engine σ) α) : Step (Recovering σ) α :=
  step.on engine fun r engine => { r with engine := engine }

variable [RouteChannel σ]

/-- The work of the timer: a resync, or another attempt at recovery. -/
def tick : Step (Recovering σ) Unit := do
  let _ ← onEngine (if (← get).pending then Engine.recover else Engine.resync)

/-- Deals with the outcome of one round of the daemon. A lost connection is recovered, or left
pending if that fails too; any other failure changes nothing. -/
def settle (outcome : Except Error Unit) : Step (Recovering σ) Unit := do
  match outcome with
  | .ok () => modify fun r => { r with pending := false }
  | .error error =>
    if error.isTransport then
      match ← (onEngine Engine.recover).attempt with
      | .ok _ => modify fun r => { r with pending := false }
      | .error _ => modify fun r => { r with pending := true }

end Recovering

/-- An engine with the configuration it runs under. -/
structure Configured (σ : Type) where
  engine : Engine σ
  config : Config

namespace Configured

variable {σ α : Type} [RouteChannel σ]

def onEngine (step : Step (Engine σ) α) : Step (Configured σ) α :=
  step.on engine fun c engine => { c with engine := engine }

/-- Takes the rules of a configuration that has been read. One that could not be read changes
nothing; table and metric stay as they are until the daemon starts again. -/
def reload (loaded : Except Error Config) : Step (Configured σ) Unit := do
  match loaded with
  | .error _ => return
  | .ok fresh =>
    let _ ← onEngine (Engine.reloadPolicy fresh.policy)
    modify fun c => { c with config := { c.config with priority := fresh.priority } }

end Configured

end DefaultGateway
