import DefaultGateway.Yaml.Node
import DefaultGateway.Yaml.Token.Read

/-!
Building the value of a YAML stream from its tokens. A stream holds at most one document here, and
an alias refers to an anchor that stands before it.
-/

namespace DefaultGateway.Yaml

structure Builder where
  rest : List Token
  anchors : List (List Char × Nat) := []
  /-- What the handles of tags stand for. -/
  handles : List (List Char × TagText) := []

/-- A step of building; it fails where the tokens describe no value. -/
abbrev Build := StateT Builder Option

namespace Build

def peek : Build (Option Token) := return (← get).rest.head?

def skip : Build Unit := modify fun b => { b with rest := b.rest.tail }

def nextIsOneOf (tokens : List Token) : Build Bool := return (← peek).any tokens.contains

/-- What the handles stand for where no directive says otherwise. -/
def standardHandles : List (List Char × TagText) :=
  [(['!'], Scan.tagText ['!']), (['!', '!'], standardStem)]

def resolveTag (handle : List Char) (suffix : TagText) : Build TagText := do
  if handle.isEmpty then return suffix
  let stem ← ((← get).handles ++ standardHandles).lookup handle
  return stem ++ suffix

def takeAnchor? : Build (Option (List Char)) := do
  match ← peek with
  | some (.anchor name) =>
    skip
    return some name
  | _ => return none

def takeTag? : Build (Option TagText) := do
  match ← peek with
  | some (.tag handle suffix) =>
    skip
    return some (← resolveTag handle suffix)
  | _ => return none

/-- An anchor and a tag in either order. -/
def takeProperties : Build (Option (List Char) × Option TagText) := do
  let anchor ← takeAnchor?
  let tag ← takeTag?
  let anchor ← if anchor.isSome then pure anchor else takeAnchor?
  return (anchor, tag)

/-- The number by which aliases to this name refer from here on. -/
def declare (name : Option (List Char)) : Build (Option Nat) := do
  match name with
  | none => return none
  | some name =>
    let b ← get
    let number := b.anchors.length
    set { b with anchors := (name, number) :: b.anchors.filter (·.1 != name) }
    return some number

mutual

/-- Takes a node. In a block, collections may begin by indentation; a sequence that is the value
of a key need not even be indented. -/
def node (block unindented : Bool) : Nat → Build Node
  | 0 => failure
  | fuel + 1 => do
    match ← peek with
    | some (.alias name) =>
      skip
      return .alias (← (← get).anchors.lookup name)
    | _ =>
      let (name, tag) ← takeProperties
      let next ← peek
      match next with
      | some (.scalar text style) =>
        skip
        return .scalar (← declare name) (.ofList text) style tag
      | some .flowSequenceStart =>
        skip
        let anchor ← declare name
        return .sequence anchor (← flowItems true fuel)
      | some .flowMappingStart =>
        skip
        let anchor ← declare name
        return .mapping anchor (← flowEntries true fuel)
      | _ =>
        if unindented && next == some .blockEntry then
          let anchor ← declare name
          return .sequence anchor (← unindentedItems fuel)
        else if block && next == some .blockSequenceStart then
          skip
          let anchor ← declare name
          return .sequence anchor (← blockItems fuel)
        else if block && next == some .blockMappingStart then
          skip
          let anchor ← declare name
          return .mapping anchor (← blockEntries fuel)
        else if name.isSome || tag.isSome then return .blank (← declare name) tag
        else failure

/-- A node, unless one of the tokens that end its place comes first. -/
def nodeUnless (ends : List Token) (block unindented : Bool) : Nat → Build Node
  | 0 => failure
  | fuel + 1 => do
    if ← nextIsOneOf ends then return .blank else node block unindented fuel

def blockItems : Nat → Build (List Node)
  | 0 => failure
  | fuel + 1 => do
    match ← peek with
    | some .blockEntry =>
      skip
      let item ← nodeUnless [.blockEntry, .blockEnd] true false fuel
      return item :: (← blockItems fuel)
    | some .blockEnd =>
      skip
      return []
    | _ => failure

def unindentedItems : Nat → Build (List Node)
  | 0 => failure
  | fuel + 1 => do
    match ← peek with
    | some .blockEntry =>
      skip
      let item ← nodeUnless [.blockEntry, .key, .value, .blockEnd] true false fuel
      return item :: (← unindentedItems fuel)
    | _ => return []

def blockEntries : Nat → Build (List (Node × Node))
  | 0 => failure
  | fuel + 1 => do
    match ← peek with
    | some .key =>
      skip
      let key ← nodeUnless [.key, .value, .blockEnd] true true fuel
      let value ← blockValue fuel
      return (key, value) :: (← blockEntries fuel)
    | some .blockEnd =>
      skip
      return []
    | _ => failure

def blockValue : Nat → Build Node
  | 0 => failure
  | fuel + 1 => do
    match ← peek with
    | some .value =>
      skip
      nodeUnless [.key, .value, .blockEnd] true true fuel
    | _ => return .blank

def flowItems (first : Bool) : Nat → Build (List Node)
  | 0 => failure
  | fuel + 1 => do
    if ← nextIsOneOf [.flowSequenceEnd] then
      skip
      return []
    if !first then
      if !(← nextIsOneOf [.flowEntry]) then failure
      skip
    match ← peek with
    | some .flowSequenceEnd =>
      skip
      return []
    | some .key =>
      skip
      let key ←
        if ← nextIsOneOf [.value, .flowEntry, .flowSequenceEnd] then do
          skip
          pure .blank
        else node false false fuel
      let value ← flowValue .flowSequenceEnd fuel
      return .mapping none [(key, value)] :: (← flowItems false fuel)
    | _ =>
      let item ← node false false fuel
      return item :: (← flowItems false fuel)

def flowEntries (first : Bool) : Nat → Build (List (Node × Node))
  | 0 => failure
  | fuel + 1 => do
    if ← nextIsOneOf [.flowMappingEnd] then
      skip
      return []
    if !first then
      if !(← nextIsOneOf [.flowEntry]) then failure
      skip
    match ← peek with
    | some .flowMappingEnd =>
      skip
      return []
    | some .key =>
      skip
      let key ← nodeUnless [.value, .flowEntry, .flowMappingEnd] false false fuel
      let value ← flowValue .flowMappingEnd fuel
      return (key, value) :: (← flowEntries false fuel)
    | _ =>
      let key ← node false false fuel
      return (key, .blank) :: (← flowEntries false fuel)

def flowValue (closing : Token) : Nat → Build Node
  | 0 => failure
  | fuel + 1 => do
    match ← peek with
    | some .value =>
      skip
      nodeUnless [.flowEntry, closing] false false fuel
    | _ => return .blank

end

/-- Takes the directives before a document. -/
def directives (versionGiven : Bool) : Nat → Build Unit
  | 0 => failure
  | fuel + 1 => do
    match ← peek with
    | some (.version major minor) =>
      if versionGiven || major ≠ 1 || (minor ≠ 1 && minor ≠ 2) then failure
      skip
      directives true fuel
    | some (.tagHandle handle stem) =>
      let b ← get
      if (b.handles.lookup handle).isSome then failure
      set { b with handles := (handle, stem) :: b.handles, rest := b.rest.tail }
      directives versionGiven fuel
    | _ => return

/-- Whether a token ends a document that has no content. -/
def endsDocument : Token → Bool
  | .version .. | .tagHandle .. | .documentStart | .documentEnd => true
  | _ => false

/-- Takes the only document of the stream. -/
def document (fuel : Nat) : Build Node := do
  match ← peek with
  | none => return .absent
  | some token =>
    if endsDocument token && token != .documentEnd then
      directives false fuel
      if !(← nextIsOneOf [.documentStart]) then failure
      skip
      if (← peek).all endsDocument then return .blank else node true false fuel
    else node true false fuel

/-- Takes the marks after the document; nothing else may follow. -/
def ending : Build Unit := do
  if (← get).rest.all (· == .documentEnd) then return else failure

end Build

def Node.ofText? (text : String) : Option Node := do
  let tokens ← Token.ofChars? text.toList
  let fuel := 4 * tokens.length + 8
  (← (do
    let node ← Build.document fuel
    Build.ending
    return node : Build Node).run { rest := tokens }).1

end DefaultGateway.Yaml
