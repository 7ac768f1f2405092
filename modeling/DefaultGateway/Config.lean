import DefaultGateway.Document.Values
import DefaultGateway.Document.Yaml
import DefaultGateway.Engine
import DefaultGateway.Files
import DefaultGateway.Json.Values
import DefaultGateway.Yaml.Node.Build

/-!
The daemon's configuration: the rules of preference, where the daemon keeps its files, and how it
treats the kernel. A written configuration has at least one rule, and no rule is covered by a single
one before it.
-/

namespace DefaultGateway

structure Config where
  priority : List Selector := []
  statePath : String := "/var/db/defaultconf.state"
  pidPath : String := "/var/run/defaultconf.pid"
  table : UInt32 := 254
  routeMetric : UInt32 := 0
  resyncIntervalSecs : UInt64 := 60
  requestTimeoutMs : UInt64 := 2000
  requireReachableGateway : Bool := true
  deriving DecidableEq, Repr, Inhabited

namespace Config

inductive Fault
  | noRules
  | emptyLink (rule : Nat)
  | shadowed (rule : Nat) (selector : Selector) (earlier : Nat) (wider : Selector)
  | reservedTable (table : UInt32)
  | noResyncInterval
  | noRequestTimeout
  | noPath
  deriving DecidableEq, Repr

namespace Fault

def message : Fault → String
  | .noRules => "priority list is empty"
  | .emptyLink rule => s!"priority rule {rule} has an empty link name"
  | .shadowed rule selector earlier wider =>
    s!"priority rule {rule} {selector} can never match, rule {earlier} {wider} matches first"
  | .reservedTable table => s!"table {table} is reserved"
  | .noResyncInterval => "resync_interval_secs must be > 0"
  | .noRequestTimeout => "request_timeout_ms must be > 0"
  | .noPath => "state_path and pid_path must be set"

def toError (fault : Fault) : Error := .config fault.message

end Fault

/-- The first fault of a rule, given the rules before it. -/
def ruleFault? (earlier : List Selector) (rule : Selector) : Option Fault :=
  if rule.link = some "" then some (.emptyLink earlier.length)
  else match earlier.findIdx? (rule.isCoveredBy ·) with
    | some index =>
      some (.shadowed earlier.length rule index (earlier[index]?.getD rule))
    | none => none

/-- The first fault of a list of rules, given those before them. -/
def rulesFault? (earlier : List Selector) : List Selector → Option Fault
  | [] => none
  | rule :: rest =>
    match ruleFault? earlier rule with
    | some fault => some fault
    | none => rulesFault? (earlier ++ [rule]) rest

/-- The tables that are never managed: the unspecified one and that of the kernel's own
addresses. -/
def reservedTables : List UInt32 := [0, 255]

def settingsFault? (c : Config) : Option Fault :=
  if reservedTables.contains c.table then some (.reservedTable c.table)
  else if c.resyncIntervalSecs = 0 then some .noResyncInterval
  else if c.requestTimeoutMs = 0 then some .noRequestTimeout
  else if c.statePath.isEmpty || c.pidPath.isEmpty then some .noPath
  else none

/-- The first fault, apart from a missing list of rules. -/
def fault? (c : Config) : Option Fault := (rulesFault? [] c.priority).or c.settingsFault?

def validate (c : Config) : Except Error Unit :=
  match c.fault? with
  | some fault => .error fault.toError
  | none => .ok ()

def policy (c : Config) : Policy := ⟨c.priority⟩

def engineSettings (c : Config) : EngineSettings where
  table := c.table
  metric := c.routeMetric
  selection := ⟨c.requireReachableGateway⟩

/-- The file whose lock guards the store. -/
def lockPath (c : Config) : String := c.statePath ++ ".lock"

/-! ## Text -/

section

open Document

variable {δ : Type} [Document δ]

def shape : Shape where
  fields := [
    { name := "priority", omissible := true },
    { name := "state_path", omissible := true },
    { name := "pid_path", omissible := true },
    { name := "table", aliases := ["fib"], omissible := true },
    { name := "route_metric", omissible := true },
    { name := "resync_interval_secs", omissible := true },
    { name := "request_timeout_ms", omissible := true },
    { name := "require_reachable_gateway", omissible := true }]
  closed := true

def ofDocument? (d : δ) : Option Config := do
  let default : Config := {}
  match ← record? shape d with
  | [priority, statePath, pidPath, table, metric, resync, timeout, reachable] =>
    some {
      priority := ← orElse [] (list? Selector.ofDocument?) priority
      statePath := ← orElse default.statePath text? statePath
      pidPath := ← orElse default.pidPath text? pidPath
      table := ← orElse default.table uint32? table
      routeMetric := ← orElse default.routeMetric uint32? metric
      resyncIntervalSecs := ← orElse default.resyncIntervalSecs uint64? resync
      requestTimeoutMs := ← orElse default.requestTimeoutMs uint64? timeout
      requireReachableGateway := ← orElse default.requireReachableGateway bool? reachable }
  | _ => none

end

def toJson (c : Config) : Json :=
  .record [
    ("priority", .list (c.priority.map Selector.toJson)),
    ("state_path", .ofText c.statePath),
    ("pid_path", .ofText c.pidPath),
    ("table", .ofNat c.table.toNat),
    ("route_metric", .ofNat c.routeMetric.toNat),
    ("resync_interval_secs", .ofNat c.resyncIntervalSecs.toNat),
    ("request_timeout_ms", .ofNat c.requestTimeoutMs.toNat),
    ("require_reachable_gateway", .bool c.requireReachableGateway)]

/-- The configuration that a text describes, which must have rules and no fault. -/
def ofText (text : String) : Except Error Config :=
  match (Yaml.Node.ofText? text).bind fun node => ofDocument? (Yaml.Place.mk node node) with
  | none => .error (.yaml "not a configuration")
  | some c => do
    if c.priority.isEmpty then throw Fault.noRules.toError
    c.validate
    return c

/-- The configuration of a file, which must be there. -/
def load (path : String) : Step Host Config := do
  match ← (Host.read path).attempt with
  | .error (.io fault) =>
    throw (.config s!"Failed to read config file {path}: {fault.text}")
  | .error error => throw error
  | .ok text =>
    match ofText text with
    | .error error => throw (.config s!"Failed to load config file {path}: {error.message}")
    | .ok config => return config

/-- The configuration of a file, or the built-in one if there is no such file. -/
def loadOrDefault (path : String) : Step Host Config := do
  if (← get).isEntry path then load path else return {}

end Config

end DefaultGateway
