import DefaultGateway.Channel
import DefaultGateway.Text.Fields

/-!
Files in directories, and the processes that can be signalled.

A path leads from one directory to the next, so it is of use only where there are directories all
along it, those that it leaves again included. Different paths may lead to the same place.

Main statement: `walk_append`, the second part of a way begins where the first has led.
-/

namespace DefaultGateway

inductive Entry
  | file (text : String)
  /-- A file whose bytes encode no text. -/
  | binary (bytes : List UInt8) (notText : String.fromUTF8? ⟨bytes.toArray⟩ = none)
  | directory
  deriving DecidableEq, Repr

/-- A file of these bytes. -/
def Entry.ofBytes (bytes : List UInt8) : Entry :=
  match decoded : String.fromUTF8? ⟨bytes.toArray⟩ with
  | some text => .file text
  | none => .binary bytes decoded

/-- The names on the way to an entry, its own last. The way begins at the working directory, or, if
the first name is empty, at the root. -/
abbrev Location := List String

namespace Location

/-- The directories from which paths begin. -/
def isOrigin (place : Location) : Bool := place = [] || place = [""]

def parent (place : Location) : Location := if place.isOrigin then place else place.dropLast

end Location

structure Host where
  /-- Locations with what is there, at most one entry a location. -/
  entries : List (Location × Entry) := []
  /-- The process that runs this program, the only one that can be signalled. -/
  pid : Int
  signals : Nat := 0
  deriving DecidableEq, Repr

namespace Host

def find? (h : Host) (place : Location) : Option Entry :=
  if place.isOrigin then some .directory else h.entries.lookup place

def put (h : Host) (place : Location) (entry : Entry) : Host :=
  { h with entries := h.entries.filter (·.1 != place) ++ [(place, entry)] }

def drop (h : Host) (place : Location) : Host :=
  { h with entries := h.entries.filter (·.1 != place) }

/-! ## Paths -/

def maxNameLength : Nat := 255

/-- The length in bytes that no path reaches. -/
def pathLengthBound : Nat := 4096

/-- Goes through the parts of a path, beginning in a directory. -/
def walk (h : Host) (place : Location) : List String → Except FileFault Location
  | [] => return place
  | part :: rest =>
    match h.find? place with
    | none => throw (.system .noEntry)
    | some (.file _) | some (.binary ..) => throw (.system .notDirectory)
    | some .directory =>
      if part = "" ∨ part = "." then h.walk place rest
      else if part = ".." then h.walk place.parent rest
      else if maxNameLength < part.utf8ByteSize then throw (.system .nameTooLong)
      else h.walk (place ++ [part]) rest

/-- The parts of a path between slashes. -/
def parts (path : String) : List String := (Text.splitOn '/' path.toList).map .ofList

/-- Where a path leads. There need not be anything, but there is a directory to hold it. -/
def locate (h : Host) (path : String) : Except FileFault Location :=
  if path.toList.contains '\x00' then throw .zeroInPath
  else if path.isEmpty then throw (.system .noEntry)
  else if pathLengthBound ≤ path.utf8ByteSize then throw (.system .nameTooLong)
  else
    match parts path with
    | "" :: rest => h.walk [""] rest
    | all => h.walk [] all

def isEntry (h : Host) (path : String) : Bool :=
  match h.locate path with
  | .ok place => (h.find? place).isSome
  | .error _ => false

/-- The second part of a way begins where the first has led. -/
theorem walk_append (h : Host) (place : Location) (front back : List String) :
    h.walk place (front ++ back) = h.walk place front >>= fun next => h.walk next back := by
  induction front generalizing place with
  | nil => rfl
  | cons part rest inductionHypothesis =>
    simp only [List.cons_append, walk]
    split
    · rfl
    · rfl
    · rfl
    · split
      · exact inductionHypothesis place
      · split
        · exact inductionHypothesis place.parent
        · split
          · rfl
          · exact inductionHypothesis (place ++ [part])

/-! ## Steps -/

def find (path : String) : Step Host Location := do
  match (← get).locate path with
  | .ok place => return place
  | .error fault => throw (.io fault)

/-- The place of a path where there is no directory. -/
def findFile (path : String) : Step Host Location := do
  let place ← find path
  if (← get).find? place = some .directory then throw (.io (.system .isDirectory))
  return place

def read (path : String) : Step Host String := do
  let place ← findFile path
  match (← get).find? place with
  | some (.file text) => return text
  | some (.binary ..) => throw (.io .notText)
  | _ => throw (.io (.system .noEntry))

def write (path text : String) : Step Host Unit := do
  let place ← findFile path
  modify (·.put place (.file text))

def touch (path : String) : Step Host Unit := do
  let place ← findFile path
  if ((← get).find? place).isNone then modify (·.put place (.file ""))

/-- Gives a file another path, in place of a file that is there. -/
def rename (source target : String) : Step Host Unit := do
  let source ← findFile source
  match (← get).find? source with
  | none => throw (.io (.system .noEntry))
  | some entry =>
    let target ← findFile target
    modify fun h => (h.drop source).put target entry

def remove (path : String) : Step Host Unit := do
  let place ← findFile path
  if ((← get).find? place).isNone then throw (.io (.system .noEntry))
  modify (·.drop place)

/-- Signals a process, if there is one of that number. -/
def signal (pid : Int) : Step Host Bool :=
  Step.change fun h =>
    if pid = h.pid then (true, { h with signals := h.signals + 1 }) else (false, h)

end Host

end DefaultGateway
