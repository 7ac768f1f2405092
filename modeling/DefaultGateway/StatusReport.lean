import DefaultGateway.Config
import DefaultGateway.Store.File

/-!
A report of what the daemon would choose, from a fresh reading of the kernel and the store.
-/

namespace DefaultGateway

structure FamilyStatus where
  family : Family
  /-- The default routes of the managed table. -/
  installed : List Route
  selected : Option Candidate
  candidates : List RankedCandidate
  deriving DecidableEq, Repr

structure StatusReport where
  table : UInt32
  links : List Link
  families : List FamilyStatus
  deriving DecidableEq, Repr

def RankedCandidate.toJson (r : RankedCandidate) : Json :=
  .record [
    ("candidate", r.candidate.toJson),
    ("rank", .ofOption Json.ofNat r.rank.rule?),
    ("eligibility", .ofText r.eligibility.tag)]

def FamilyStatus.toJson (s : FamilyStatus) : Json :=
  .record [
    ("family", s.family.toJson),
    ("installed", .list (s.installed.map Route.toJson)),
    ("selected", .ofOption Candidate.toJson s.selected),
    ("candidates", .list (s.candidates.map RankedCandidate.toJson))]

namespace StatusReport

def ofModel (m : Model) (policy : Policy) (options : SelectionOptions) : StatusReport where
  table := m.table
  links := m.links.toList.filter (!·.isPlaceholder)
  families := Family.all.map fun family => {
    family := family
    installed := m.defaultRoutes family
    selected := (m.evaluate policy options family).winner
    candidates := m.ranked policy options family }

/-- What is known once a snapshot has been read and a store has been taken over. -/
def modelOf (table : UInt32) (snapshot : Snapshot) (store : Store) : Model :=
  let m := ((Model.empty table).replaceFacts snapshot).1
  let m := store.gateways.foldl (fun m g => (m.register g.candidate).1) m
  (m.setDisabled store.disabled).1

def query {σ : Type} [RouteChannel σ] (c : Config) (store : Store) : Step σ StatusReport := do
  let snapshot ← RouteChannel.snapshot
  return ofModel (modelOf c.table snapshot store) c.policy c.engineSettings.selection

def toJson (r : StatusReport) : Json :=
  .record [
    ("table", .ofNat r.table.toNat),
    ("links", .list (r.links.map Link.toJson)),
    ("families", .list (r.families.map FamilyStatus.toJson))]

end StatusReport

end DefaultGateway
