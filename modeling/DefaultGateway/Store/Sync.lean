import DefaultGateway.Registration
import DefaultGateway.Store.Basic

/-!
Carrying the store over into the engine. What was carried over before is remembered, so that only
the differences are registered and withdrawn.
-/

namespace DefaultGateway

structure Applied where
  registration : Registration
  gateway : StoredGateway
  deriving DecidableEq, Repr

/-- An engine with what of the store has been carried over into it. -/
structure Synced (σ : Type) where
  engine : Engine σ
  applied : KeyedSet fun a : Applied => a.gateway.key

structure SyncSummary where
  registered : Nat := 0
  updated : Nat := 0
  withdrawn : Nat := 0
  rejected : Nat := 0
  deriving DecidableEq, Repr

namespace SyncSummary

inductive Outcome
  | registered
  | updated
  | withdrawn
  | rejected
  deriving DecidableEq, Repr

def add (s : SyncSummary) : Outcome → SyncSummary
  | .registered => { s with registered := s.registered + 1 }
  | .updated => { s with updated := s.updated + 1 }
  | .withdrawn => { s with withdrawn := s.withdrawn + 1 }
  | .rejected => { s with rejected := s.rejected + 1 }

end SyncSummary

namespace Synced

variable {σ α : Type}

def new (engine : Engine σ) : Synced σ := ⟨engine, ∅⟩

def onEngine (step : Step (Engine σ) α) : Step (Synced σ) α :=
  step.on engine fun synced engine => { synced with engine := engine }

def remember (a : Applied) : Step (Synced σ) Unit :=
  modify fun s => { s with applied := s.applied.insert a }

def forget (key : Candidate.Key) : Step (Synced σ) Unit :=
  modify fun s => { s with applied := s.applied.erase key }

/-- The gateways of a store, of each key the last. -/
def wanted (s : Store) : KeyedSet StoredGateway.key := .ofList s.gateways

/-- What was carried over and is in the store no more. -/
def vanished (s : Synced σ) (store : Store) : List Applied :=
  s.applied.toList.filter fun a => !(wanted store).containsKey a.gateway.key

/-- The gateways not carried over as they are now, those of lower version first. -/
def changed (s : Synced σ) (store : Store) : List StoredGateway :=
  let isNew (g : StoredGateway) : Bool :=
    (s.applied.find? g.key).all fun a => !a.gateway.sameRegistration g
  ((wanted store).toList.filter isNew).mergeSort fun g h => g.version ≤ h.version

variable [RouteChannel σ]

/-- Withdraws what has vanished; what is gone already counts as withdrawn. -/
def withdrawVanished (a : Applied) : Step (Synced σ) SyncSummary.Outcome := do
  forget a.gateway.key
  match ← (onEngine (Engine.withdraw a.registration)).attempt with
  | .ok () | .error (.unknownRegistration _) => return .withdrawn
  | .error error => throw error

def registerChanged (g : StoredGateway) : Step (Synced σ) SyncSummary.Outcome := do
  let known := (← get).applied.find? g.key
  forget g.key
  let step := match known with
    | some a => Engine.update a.registration g.address g.source
    | none => Engine.register g.key g.address g.source
  match ← (onEngine step).attempt with
  | .ok registration =>
    remember ⟨registration, g⟩
    return if known.isSome then .updated else .registered
  | .error (.invalidRegistration _) | .error (.unknownRegistration _) => return .rejected
  | .error error => throw error

/-- Runs a step for each element, and counts the outcomes. -/
def countAll {β : Type} (step : β → Step (Synced σ) SyncSummary.Outcome) :
    SyncSummary → List β → Step (Synced σ) SyncSummary
  | summary, [] => return summary
  | summary, b :: rest => do
    let outcome ← step b
    countAll step (summary.add outcome) rest

/-- Carries a store over into the engine: first what has vanished from it, then what is new or
changed, from the lowest version to the highest, then what is disabled. -/
def apply (store : Store) : Step (Synced σ) SyncSummary := do
  let summary ← countAll withdrawVanished {} ((← get).vanished store)
  let summary ← countAll registerChanged summary ((← get).changed store)
  let _ ← onEngine (Engine.setDisabled store.disabled)
  return summary

end Synced

end DefaultGateway
