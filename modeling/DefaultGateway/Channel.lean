import DefaultGateway.Error
import DefaultGateway.Event

/-!
Access to the kernel's tables. A step may fail, and what it has done to the state until then stays
done.
-/

namespace DefaultGateway

/-- A computation that changes a state and may fail; a failure keeps the changes made before. -/
abbrev Step (σ : Type) := ExceptT Error (StateM σ)

namespace Step

variable {σ τ α : Type}

/-- The outcome of a step together with the state it leaves. -/
def runFrom (step : Step σ α) (state : σ) : Except Error α × σ := (step.run).run state

def of (effect : σ → Except Error α × σ) : Step σ α := ExceptT.mk fun state => effect state

/-- A step that cannot fail. -/
def change (effect : σ → α × σ) : Step σ α :=
  of fun state => let (a, next) := effect state; (.ok a, next)

/-- A step on one part of a larger state. -/
def on (part : τ → σ) (withPart : τ → σ → τ) (step : Step σ α) : Step τ α :=
  of fun whole =>
    let (outcome, next) := step.runFrom (part whole)
    (outcome, withPart whole next)

/-- A step whose failure becomes a result. -/
def attempt (step : Step σ α) : Step σ (Except Error α) :=
  change fun state => step.runFrom state

end Step

/-- Requests to the kernel, each of which is answered before the next. -/
class RouteChannel (σ : Type) where
  dumpLinks : Step σ (List Link)
  dumpAddresses : Step σ (List InterfaceAddress)
  /-- The routes of every table, of one family if one is given. -/
  dumpRoutes : Option Family → Step σ (List Route)
  /-- Adds a route; refused if its place is taken. -/
  addRoute : Route → Step σ Unit
  /-- Adds a route in place of the one to the same destination with the same metric. -/
  replaceRoute : Route → Step σ Unit
  /-- Deletes a route; refused if it is not there. -/
  deleteRoute : Route → Step σ Unit
  /-- Drops the way to the kernel and opens a new one. -/
  reopen : Step σ Unit

namespace RouteChannel

/-- Links, addresses and routes, in that order. -/
def snapshot {σ : Type} [RouteChannel σ] : Step σ Snapshot := do
  let links ← dumpLinks
  let addresses ← dumpAddresses
  let routes ← dumpRoutes none
  return ⟨links, addresses, routes⟩

end RouteChannel

end DefaultGateway
