import DefaultGateway.Yaml.Token.Scalar

/-!
Cutting the text of a YAML stream into tokens.
-/

namespace DefaultGateway.Yaml

namespace Scan

/-! ## Names, tags and directives -/

def takeName : Scan (List Char) := do
  let name ← takeWhile isWordChar
  let ends ← test ['?', ':', ',', ']', '\x7d', '%', '@', '\x60'].contains
  if name.isEmpty || !(ends || (← atGap)) then failure
  return name

/-- Takes the handle of a tag: an exclamation mark, perhaps a word, perhaps another mark. -/
def takeHandle : Scan (List Char) := do
  if !(← lookingAt '!') then failure
  skip 1
  let word ← takeWhile isWordChar
  if ← lookingAt '!' then
    skip 1
    return '!' :: word ++ ['!']
  else return '!' :: word

/-- The characters of a tag's name other than word characters; some of them only between angle
brackets and in directives. -/
def isTagChar (free : Bool) (c : Char) : Bool :=
  isWordChar c ||
    [';', '/', '?', ':', '@', '&', '=', '+', '$', '.', '%', '!', '~', '*', '\x27', '(',
      ')'].contains c ||
    (free && [',', '[', ']'].contains c)

/-- The bytes that follow the first byte of a character's encoding. -/
def continuationLength? (byte : Nat) : Option Nat :=
  if byte < 0x80 then some 0
  else if byte / 0x20 = 0b110 then some 1
  else if byte / 0x10 = 0b1110 then some 2
  else if byte / 0x08 = 0b11110 then some 3
  else none

/-- Takes a byte written as a percent sign and two hexadecimal digits. -/
def takePercentByte : Scan Nat := do
  if !(← lookingAt '%') then failure
  let digits := ((← get).rest.drop 1).take 2
  if digits.length < 2 then failure
  skip 3
  Text.readHex digits

/-- Takes bytes that continue a character's encoding. -/
def takeContinuation : Nat → List UInt8 → Scan (List UInt8)
  | 0, bytes => return bytes
  | count + 1, bytes => do
    let byte ← takePercentByte
    if byte / 0x40 ≠ 0b10 then failure
    takeContinuation count (bytes ++ [byte.toUInt8])

/-- Takes a character whose encoding is written byte by byte. Only the pattern of its bytes is
looked at. -/
def takePercentChar : Scan TagText := do
  let first ← takePercentByte
  let count ← continuationLength? first
  takeContinuation count [first.toUInt8]

/-- The bytes of characters that each take one byte. -/
def tagText (l : List Char) : TagText := l.map (·.toNat.toUInt8)

/-- A tag ends before its first zero byte. -/
def cutAtZero (text : TagText) : TagText := text.takeWhile (· != 0)

/-- Takes the characters of a tag's name. -/
def takeTagChars (free : Bool) : Nat → Scan TagText
  | 0 => return []
  | fuel + 1 => do
    if !(← test (isTagChar free)) then return []
    let taken ← if ← lookingAt '%' then takePercentChar else pure (tagText [← next])
    return taken ++ (← takeTagChars free fuel)

/-- Takes a tag: verbatim between angle brackets, or a handle and a name. -/
def takeTag (fuel : Nat) : Scan Token := do
  let token ←
    if ← lookingAt '<' 1 then
      skip 2
      let name ← takeTagChars true fuel
      if name.isEmpty || !(← lookingAt '>') then failure
      skip 1
      pure (Token.tag [] (cutAtZero name))
    else
      let handle ← takeHandle
      let name ← takeTagChars false fuel
      if 1 < handle.length && handle.getLast? == some '!' then
        if name.isEmpty then failure
        pure (Token.tag handle (cutAtZero name))
      else
        let name := cutAtZero (tagText (handle.drop 1) ++ name)
        pure (if name.isEmpty then Token.tag [] (tagText ['!']) else Token.tag ['!'] name)
  let endsInFlow := (← inFlow) && (← lookingAt ',')
  if !endsInFlow && !(← atGap) then failure
  return token

def takeVersionNumber : Scan Nat := do
  let digits ← takeWhile Char.isDigit
  if digits.isEmpty || 9 < digits.length then failure
  return Nat.ofDigitChars 10 digits 0

/-- Takes a directive, which stands alone on its line. -/
def takeDirective (fuel : Nat) : Scan Token := do
  skip 1
  let name ← takeWhile isWordChar
  if name.isEmpty || !(← atGap) then failure
  skipWhile isSpaceOrTab
  let token ←
    if name = "YAML".toList then
      let major ← takeVersionNumber
      if !(← lookingAt '.') then failure
      skip 1
      pure (Token.version major (← takeVersionNumber))
    else if name = "TAG".toList then
      let handle ← takeHandle
      if handle ≠ ['!'] && handle.getLast? != some '!' then failure
      if !(← test isSpaceOrTab) then failure
      skipWhile isSpaceOrTab
      let stem ← takeTagChars true fuel
      if stem.isEmpty || !(← atGap) then failure
      pure (Token.tagHandle handle (cutAtZero stem))
    else failure
  skipToLineEnd
  return token

/-! ## Between tokens -/

/-- Takes white space and comments up to the next token. Tabs may separate tokens, but not where
a key could begin in a block. A mark of the byte order may begin a line; it takes up a column. -/
def skipToToken : Nat → Scan Unit
  | 0 => return
  | fuel + 1 => do
    if (← get).column == 0 && (← lookingAt '\ufeff') then skip 1
    let tabs := (← inFlow) || !(← get).keyAllowed
    skipWhile fun c => c == ' ' || (tabs && c == '\t')
    if ← lookingAt '#' then skipWhile (!isBreak ·)
    if ← test isBreak then
      let _ ← nextBreak
      if !(← inFlow) then allowKey true
      skipToToken fuel

/-! ## One token -/

def takeIndicator (length : Nat) (token : Token) (allows : Bool) : Scan Unit := do
  allowKey allows
  skip length
  emit token

def takeFlowStart (token : Token) : Scan Unit := do
  saveKeyStart
  modify fun s => { s with keyStarts := none :: s.keyStarts }
  takeIndicator 1 token true

def takeFlowEnd (token : Token) : Scan Unit := do
  dropKeyStart
  if ← inFlow then modify fun s => { s with keyStarts := s.keyStarts.tail }
  takeIndicator 1 token false

/-- In a block, an entry or a key begins a collection where none is open at its column. -/
def beginBlock (token : Token) : Scan Unit := do
  if !(← inFlow) then
    if !(← get).keyAllowed then failure
    rollIndent (← get).column token

def takeBlockEntry : Scan Unit := do
  beginBlock .blockSequenceStart
  dropKeyStart
  takeIndicator 1 .blockEntry true

def takeKey : Scan Unit := do
  beginBlock .blockMappingStart
  dropKeyStart
  takeIndicator 1 .key (!(← inFlow))

/-- A colon makes a key of what began at the remembered place, if there is one. -/
def takeValue : Scan Unit := do
  match (← get).keyStarts.head? with
  | some (some start) =>
    emitAt start.tokenIndex .key
    rollIndent start.column .blockMappingStart (some start.tokenIndex)
    setKeyStart none
    takeIndicator 1 .value false
  | _ =>
    beginBlock .blockMappingStart
    takeIndicator 1 .value (!(← inFlow))

/-- Takes a token that may begin a key. -/
def takeKeyPart (token : Scan Token) : Scan Unit := do
  saveKeyStart
  allowKey false
  emit (← token)

def takeBlockScalar (style : Style) (fuel : Nat) : Scan Unit := do
  dropKeyStart
  allowKey true
  skip 1
  emit (.scalar (← takeBlock (style = .folded) fuel) style)

/-- Takes a token that begins at column zero and closes all block collections. -/
def takeAtMargin (token : Scan Token) : Scan Unit := do
  unrollIndent (-1)
  dropKeyStart
  allowKey false
  emit (← token)

/-- The characters that begin no plain scalar, unless something shows that they are meant as
text. -/
def indicators : List Char :=
  ['-', '?', ':', ',', '[', ']', '\x7b', '\x7d', '#', '&', '*', '!', '|', '>', '\x27', '"', '%',
    '@', '\x60']

def beginsPlain (c : Char) : Scan Bool := do
  if isSpaceOrTab c then return false
  if !indicators.contains c then return true
  if c == '-' then return !(← test isSpaceOrTab 1)
  if c == '?' || c == ':' then return !(← inFlow) && !(← atGap 1)
  return false

def takeToken (fuel : Nat) (c : Char) : Scan Unit := do
  let inFlow ← inFlow
  let atMargin := (← get).column == 0
  let gapFollows ← atGap 1
  if atMargin && c == '%' then takeAtMargin (takeDirective fuel)
  else if ← atMarker then
    takeAtMargin do
      skip 3
      return if c == '-' then .documentStart else .documentEnd
  else if c == '[' then takeFlowStart .flowSequenceStart
  else if c == '\x7b' then takeFlowStart .flowMappingStart
  else if c == ']' then takeFlowEnd .flowSequenceEnd
  else if c == '\x7d' then takeFlowEnd .flowMappingEnd
  else if c == ',' then
    dropKeyStart
    takeIndicator 1 .flowEntry true
  else if c == '-' && gapFollows then takeBlockEntry
  else if c == '?' && (inFlow || gapFollows) then takeKey
  else if c == ':' && (inFlow || gapFollows) then takeValue
  else if c == '*' then takeKeyPart do
    skip 1
    return .alias (← takeName)
  else if c == '&' then takeKeyPart do
    skip 1
    return .anchor (← takeName)
  else if c == '!' then takeKeyPart (takeTag fuel)
  else if c == '|' && !inFlow then takeBlockScalar .literal fuel
  else if c == '>' && !inFlow then takeBlockScalar .folded fuel
  else if c == '\x27' then takeKeyPart do
    skip 1
    return .scalar (← takeQuoted true fuel) .singleQuoted
  else if c == '"' then takeKeyPart do
    skip 1
    return .scalar (← takeQuoted false fuel) .doubleQuoted
  else if ← beginsPlain c then takeKeyPart do return .scalar (← takePlain fuel {}) .plain
  else failure

def takeAll (inner : Nat) : Nat → Scan Unit
  | 0 => failure
  | fuel + 1 => do
    skipToToken inner
    dropStaleKeyStarts
    unrollIndent (← get).column
    match (← get).rest.head? with
    | some c =>
      takeToken inner c
      takeAll inner fuel
    | none =>
      unrollIndent (-1)
      dropKeyStart

end Scan

def Token.ofChars? (text : List Char) : Option (List Token) := do
  if !text.all isStreamChar then none
  else
    let fuel := text.length + 2
    let (_, s) ← (Scan.takeAll fuel fuel).run { rest := text }
    return s.tokens.toList

end DefaultGateway.Yaml
