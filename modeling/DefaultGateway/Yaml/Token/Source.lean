import DefaultGateway.Yaml.Token

/-!
The text of a YAML stream with the place that reading has reached, and what reading has to
remember: indentation, nesting, and the places where a key may turn out to have begun.
-/

namespace DefaultGateway.Yaml

def isBreak (c : Char) : Bool := ['\n', '\r', '\u0085', '\u2028', '\u2029'].contains c

def isSpaceOrTab (c : Char) : Bool := c == ' ' || c == '\t'

/-- Letters, digits, underscores and hyphens: what names are made of. -/
def isWordChar (c : Char) : Bool := c.isAlphanum || c == '_' || c == '-'

/-- The characters that a stream may hold. -/
def isStreamChar (c : Char) : Bool :=
  ['\t', '\n', '\r', '\u0085'].contains c || (' ' ≤ c && c ≤ '~') ||
    ('\u00a0' ≤ c && c.toNat ≤ 0xd7ff) || (0xe000 ≤ c.toNat && c.toNat ≤ 0xfffd) ||
    0x10000 ≤ c.toNat

/-- Where a key may have begun, and whether one must have. -/
structure KeyStart where
  tokenIndex : Nat
  index : Nat
  line : Nat
  column : Nat
  required : Bool

structure Scanner where
  rest : List Char
  /-- The number of bytes before this place. -/
  index : Nat := 0
  line : Nat := 0
  column : Nat := 0
  tokens : Array Token := #[]
  /-- The indentation of the innermost block collection; -1 outside all of them. -/
  indent : Int := -1
  outerIndents : List Int := []
  /-- For each nested flow collection, and for what is around them, where a key may have begun. -/
  keyStarts : List (Option KeyStart) := [none]
  keyAllowed : Bool := true

/-- A step of reading; it fails where the text is no YAML. -/
abbrev Scan := StateT Scanner Option

namespace Scan

def inFlow : Scan Bool := return 1 < (← get).keyStarts.length

/-- The character some places ahead, none at the end of the text. -/
def charAt (ahead : Nat) : Scan (Option Char) := return (← get).rest[ahead]?

def lookingAt (c : Char) (ahead : Nat := 0) : Scan Bool := return (← charAt ahead) == some c

def test (p : Char → Bool) (ahead : Nat := 0) : Scan Bool := return (← charAt ahead).any p

def atEnd : Scan Bool := return (← get).rest.isEmpty

/-- Whether a line ends or the text does. -/
def atBreakOrEnd (ahead : Nat := 0) : Scan Bool := return (← charAt ahead).all isBreak

/-- Whether a blank, the end of a line or the end of the text is there. -/
def atGap (ahead : Nat := 0) : Scan Bool :=
  return (← charAt ahead).all fun c => isSpaceOrTab c || isBreak c

/-- Whether a document marker stands at the beginning of a line. -/
def atMarker : Scan Bool := do
  let s ← get
  let marker := s.rest.take 3
  return s.column == 0 && (marker == ['-', '-', '-'] || marker == ['.', '.', '.']) && (← atGap 3)

def byteLength (l : List Char) : Nat := l.foldl (fun length c => length + c.utf8Size) 0

/-- Takes one character that is no line break. -/
def next : Scan Char := do
  let s ← get
  match s.rest with
  | [] => failure
  | c :: rest =>
    set { s with rest := rest, index := s.index + c.utf8Size, column := s.column + 1 }
    return c

def skip (count : Nat) : Scan Unit := modify fun s =>
  { s with
    rest := s.rest.drop count
    index := s.index + byteLength (s.rest.take count)
    column := s.column + count }

/-- Takes a line break if there is one, and gives what it stands for in a scalar. -/
def nextBreak : Scan (List Char) := do
  let s ← get
  match s.rest with
  | '\r' :: '\n' :: rest =>
    set { s with rest := rest, index := s.index + 2, column := 0, line := s.line + 1 }
    return ['\n']
  | c :: rest =>
    if isBreak c then
      set { s with rest := rest, index := s.index + c.utf8Size, column := 0, line := s.line + 1 }
      return [if c == '\u2028' || c == '\u2029' then c else '\n']
    else return []
  | [] => return []

/-- Takes the characters of this line that satisfy a test. -/
def takeWhile (p : Char → Bool) : Scan (List Char) := do
  let taken := (← get).rest.takeWhile p
  skip taken.length
  return taken

def skipWhile (p : Char → Bool) : Scan Unit := do
  let _ ← takeWhile p

/-- Takes blanks and a comment up to the end of the line, which must be there. -/
def skipToLineEnd : Scan Unit := do
  skipWhile isSpaceOrTab
  if ← lookingAt '#' then skipWhile (!isBreak ·)
  if !(← atBreakOrEnd) then failure
  let _ ← nextBreak

def emit (token : Token) : Scan Unit := modify fun s => { s with tokens := s.tokens.push token }

/-- Puts a token before the one with the given index. -/
def emitAt (index : Nat) (token : Token) : Scan Unit := modify fun s =>
  { s with tokens := s.tokens.insertIdxIfInBounds index token }

def allowKey (allowed : Bool) : Scan Unit := modify fun s => { s with keyAllowed := allowed }

/-! ## Places where a key may have begun -/

def setKeyStart (start : Option KeyStart) : Scan Unit := modify fun s =>
  { s with keyStarts := start :: s.keyStarts.tail }

/-- Gives up the innermost place; a key that had to be there is missing. -/
def dropKeyStart : Scan Unit := do
  match (← get).keyStarts.head? with
  | some (some start) => if start.required then failure else setKeyStart none
  | _ => return

/-- Remembers this place as one where a key may begin. In a block it must, if the place is where
the entries of the collection begin. -/
def saveKeyStart : Scan Unit := do
  let s ← get
  if s.keyAllowed then
    let required := !(← inFlow) && s.indent == s.column
    dropKeyStart
    setKeyStart (some ⟨s.tokens.size, s.index, s.line, s.column, required⟩)

/-- A key ends on the line where it begins, and within 1024 bytes. -/
def dropStaleKeyStarts : Scan Unit := do
  let s ← get
  let isStale (start : KeyStart) : Bool := start.line < s.line || start.index + 1024 < s.index
  if s.keyStarts.any fun start => start.any fun start => isStale start && start.required then
    failure
  else set { s with keyStarts := s.keyStarts.map (Option.filter (!isStale ·)) }

/-! ## Indentation -/

/-- Begins a block collection where the text is indented further than before. -/
def rollIndent (column : Nat) (token : Token) (tokenIndex : Option Nat := none) : Scan Unit := do
  let s ← get
  if !(← inFlow) && s.indent < column then
    set { s with indent := column, outerIndents := s.indent :: s.outerIndents }
    match tokenIndex with
    | some index => emitAt index token
    | none => emit token

/-- The block collections that end where the text is indented less. -/
def endBlocks (column : Int) : List Int → Int → Array Token → List Int × Int × Array Token
  | outer :: rest, indent, tokens =>
    if indent > column then endBlocks column rest outer (tokens.push .blockEnd)
    else (outer :: rest, indent, tokens)
  | [], indent, tokens => ([], indent, tokens)

def unrollIndent (column : Int) : Scan Unit := do
  if !(← inFlow) then
    modify fun s =>
      let (outer, indent, tokens) := endBlocks column s.outerIndents s.indent s.tokens
      { s with outerIndents := outer, indent := indent, tokens := tokens }

end Scan

end DefaultGateway.Yaml
