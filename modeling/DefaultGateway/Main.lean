import DefaultGateway.CommandLine.Response
import Std.Time.DateTime

/-!
The program: it reads the files that a command may use, carries the command out on them, and writes
back those that have changed.
-/

namespace DefaultGateway.CommandLine

def entryAt (path : String) : IO (Option Entry) := do
  try
    return some (.ofBytes (← IO.FS.readBinFile path).data.toList)
  catch
    | .noFileOrDirectory .. => return none
    | .inappropriateType .. => return some .directory
    | error => throw error

def pathOf (place : Location) : String := "/".intercalate place

/-- A path and those of the directories on its way, outermost first. -/
def waysTo (path : String) : List String :=
  let parts := Host.parts path
  (List.range (parts.length + 1)).map fun count => pathOf (parts.take count)

/-- Adds what is at some paths and at the directories on their ways. -/
def look (host : Host) (paths : List String) : IO Host :=
  (paths.flatMap waysTo).foldlM (fun host path => do
    match host.locate path with
    | .error _ => return host
    | .ok place =>
      match ← entryAt path with
      | some entry => return host.put place entry
      | none => return host) host

/-- Writes a file as a whole, so that no reader finds half of it. -/
def replaceFile (path text : String) : IO Unit := do
  let draft := path ++ ".tmp"
  IO.FS.writeFile draft text
  IO.FS.rename draft path

/-- Writes the files in which one host differs from another. -/
def store (before after : Host) : IO Unit :=
  after.entries.forM fun (place, entry) => do
    match entry with
    | .file text => if before.find? place ≠ some entry then replaceFile (pathOf place) text
    | .binary .. | .directory => return

def now : IO Instant := do
  let stamp ← Std.Time.Timestamp.now
  let t := Std.Time.PlainDateTime.ofWallTime
    (.ofNanoseconds stamp.toNanosecondsSinceUnixEpoch)
  let fields := [t.month.val, t.day.val, t.hour.val, t.minute.val, t.second.val, t.nanosecond.val]
  match fields.map Int.toNat with
  | [month, day, hour, minute, second, nanosecond] =>
    return (Instant.ofFields? t.year.toInt month day hour minute second nanosecond).getD .epoch
  | _ => return .epoch

/-- A number that no process has: this program can signal none. -/
def noProcess : Int := 0x80000000

/-- Carries out an invocation whose configuration is known, under the store's lock if it edits the
store. -/
def carryOut (words : List String) (host : Host) (c : Config) (edits : Bool) : IO Response := do
  let lock ←
    if edits then (some <$> IO.FS.Handle.mk c.lockPath .append) <|> pure none else pure none
  if let some handle := lock then handle.lock
  let before ← look host (pathsOf c)
  let (response, after) := respond (← now) words before
  store before after
  return response

def program (words : List String) : IO Response := do
  match Invocation.read words with
  | .error stop => return stop.response
  | .ok invocation =>
    let host ← look { pid := noProcess } [invocation.config]
    match ((Config.loadOrDefault invocation.config).runFrom host).1 with
    | .error _ => return (respond .epoch words host).1
    | .ok config => carryOut words host config (invocation.command.edit? .epoch).isSome

end DefaultGateway.CommandLine

open DefaultGateway.CommandLine in
def main (words : List String) : IO UInt32 := do
  let response ← program words
  IO.print response.output
  IO.eprint response.complaint
  return response.status.toUInt32
