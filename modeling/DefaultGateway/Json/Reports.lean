import DefaultGateway.Json.Values
import DefaultGateway.Store.Sync

/-!
The JSON forms of what the engine has done.
-/

namespace DefaultGateway

/-- The routes that an action is about, the new one and the old ones. -/
def Action.routes : Action → Option Route × Option (List Route)
  | .noOp => (none, none)
  | .install route => (some route, none)
  | .replace old new => (some new, some old)
  | .withdraw routes => (none, some routes)

/-- An action's kind and text, with the routes it is about as fields. -/
def Action.fields (action : Action) : List (String × Json) :=
  let (new, old) := action.routes
  [("kind", .ofText action.kind),
    ("text", .ofText (toString action)),
    ("noop", .bool action.isNoOp)] ++
    Json.optionalField "new" (fun route => .ofText route.text) new ++
    Json.optionalField "old" (fun routes => .list (routes.map fun r => .ofText r.text)) old

def Report.toJson (report : Report) : Json :=
  .record [
    ("family", report.family.toJson),
    ("action", .record report.action.fields),
    ("status", .ofText (toString report.status))]

def SyncSummary.toJson (summary : SyncSummary) : Json :=
  .record [
    ("registered", .ofNat summary.registered),
    ("updated", .ofNat summary.updated),
    ("withdrawn", .ofNat summary.withdrawn),
    ("rejected", .ofNat summary.rejected)]

end DefaultGateway
