import DefaultGateway.Text.Hex
import DefaultGateway.Yaml.Token.Source

/-!
Reading scalars: plain, between quotes, and in indented blocks.
-/

namespace DefaultGateway.Yaml.Scan

/-- White space between the parts of a scalar: blanks on one line, or the first line break and
those after it. -/
structure Gap where
  blanks : List Char := []
  broken : Bool := false
  firstBreak : List Char := []
  laterBreaks : List Char := []

namespace Gap

/-- What line breaks become: one of its own becomes a space, more lose the first. -/
def folded (gap : Gap) : List Char :=
  if gap.firstBreak.head? == some '\n' then
    if gap.laterBreaks.isEmpty then [' '] else gap.laterBreaks
  else gap.firstBreak ++ gap.laterBreaks

/-- What the gap contributes to the scalar. -/
def text (gap : Gap) : List Char := if gap.broken then gap.folded else gap.blanks

end Gap

/-- Takes blanks and line breaks. A tab may not stand for indentation before column `least`. -/
def takeGap (least : Nat) : Nat → Gap → Scan Gap
  | 0, gap => return gap
  | fuel + 1, gap => do
    if ← test isSpaceOrTab then
      if gap.broken && (← get).column < least && (← lookingAt '\t') then failure
      let c ← next
      takeGap least fuel (if gap.broken then gap else { gap with blanks := gap.blanks ++ [c] })
    else if ← test isBreak then
      let taken ← nextBreak
      takeGap least fuel <|
        if gap.broken then { gap with laterBreaks := gap.laterBreaks ++ taken }
        else { gap with broken := true, blanks := [], firstBreak := taken }
    else return gap

/-! ## Between quotes -/

/-- The characters that a letter after a backslash stands for. -/
def escapes : List (Char × Char) :=
  [('0', '\x00'), ('a', '\x07'), ('b', '\x08'), ('t', '\t'), ('\t', '\t'), ('n', '\n'),
    ('v', '\x0b'), ('f', '\x0c'), ('r', '\r'), ('e', '\x1b'), (' ', ' '), ('"', '"'),
    ('/', '/'), ('\\', '\\'), ('N', '\u0085'), ('_', '\u00a0'), ('L', '\u2028'),
    ('P', '\u2029')]

/-- The number of hexadecimal digits after a letter that introduces a code. -/
def codeLength? : Char → Option Nat
  | 'x' => some 2
  | 'u' => some 4
  | 'U' => some 8
  | _ => none

/-- Takes the letter after a backslash and what belongs to it. -/
def takeEscape : Scan Char := do
  let letter ← next
  match codeLength? letter with
  | none => escapes.lookup letter
  | some length =>
    let digits := (← get).rest.take length
    if digits.length < length then failure
    let code ← Text.readHex digits
    skip length
    Text.charOfCode? code

/-- Takes the rest of a quoted scalar, its closing quote included. -/
def takeQuoted (single : Bool) : Nat → Scan (List Char)
  | 0 => failure
  | fuel + 1 => do
    if ← atMarker then failure
    let quote := if single then '\x27' else '"'
    if ← atEnd then failure
    else if single && (← lookingAt quote) && (← lookingAt quote 1) then
      skip 2
      return quote :: (← takeQuoted single fuel)
    else if ← lookingAt quote then
      skip 1
      return []
    else if !single && (← lookingAt '\\') then
      skip 1
      if ← test isBreak then
        let _ ← nextBreak
        let gap ← takeGap 0 fuel { broken := true }
        return gap.text ++ (← takeQuoted single fuel)
      else
        let c ← takeEscape
        return c :: (← takeQuoted single fuel)
    else if ← atGap then
      let gap ← takeGap 0 fuel {}
      return gap.text ++ (← takeQuoted single fuel)
    else
      let c ← next
      return c :: (← takeQuoted single fuel)

/-! ## Plain -/

/-- Takes the characters of a plain scalar up to the next gap or indicator. -/
def takePlainPart : Nat → Scan (List Char)
  | 0 => return []
  | fuel + 1 => do
    if ← atGap then return []
    let inFlow ← inFlow
    let colon ← lookingAt ':'
    if inFlow && colon && (← test [',', '?', '[', ']', '\x7b', '\x7d'].contains 1) then failure
    if colon && (← atGap 1) then return []
    if inFlow && (← test [',', '[', ']', '\x7b', '\x7d'].contains) then return []
    let c ← next
    return c :: (← takePlainPart fuel)

/-- Takes a plain scalar. It ends at a comment, a document marker, an indicator, or, in a block,
where the text is not indented beyond the collection. -/
def takePlain : Nat → Gap → Scan (List Char)
  | 0, _ => return []
  | fuel + 1, gap => do
    allowKey gap.broken
    if (← atMarker) || (← lookingAt '#') then return []
    let part ← takePlainPart fuel
    let s ← get
    let least := (s.indent + 1).toNat
    if part.isEmpty then return []
    else if !(← atGap) || (← atEnd) then
      allowKey false
      return gap.text ++ part
    else
      let nextGap ← takeGap least fuel {}
      if !(← inFlow) && (← get).column < least then
        allowKey nextGap.broken
        return gap.text ++ part
      else return gap.text ++ part ++ (← takePlain fuel nextGap)

/-! ## Blocks -/

/-- What becomes of the line breaks at the end of a block. -/
inductive Chomping
  | strip
  | clip
  | keep
  deriving DecidableEq

def takeChomping : Scan (Option Chomping) := do
  if ← lookingAt '+' then
    skip 1
    return some .keep
  else if ← lookingAt '-' then
    skip 1
    return some .strip
  else return none

def takeIncrement : Scan (Option Nat) := do
  if ← test Char.isDigit then
    let digit := (← next).toNat - '0'.toNat
    if digit = 0 then failure
    return some digit
  else return none

/-- Takes indentation and empty lines. Gives the breaks of the empty lines, and the column of the
deepest of them. The indentation `indent` is not known yet if it is zero. -/
def takeEmptyLines (indent : Nat) : Nat → Nat → Scan (List Char × Nat)
  | 0, deepest => return ([], deepest)
  | fuel + 1, deepest => do
    let spaces := ((← get).rest.takeWhile (· == ' ')).length
    let column := (← get).column
    skip (if indent = 0 then spaces else min spaces (indent - column))
    let column := (← get).column
    let deepest := max deepest column
    if (indent = 0 || column < indent) && (← lookingAt '\t') then failure
    if ← test isBreak then
      let taken ← nextBreak
      let (breaks, deepest) ← takeEmptyLines indent fuel deepest
      return (taken ++ breaks, deepest)
    else return ([], deepest)

/-- Takes the lines of a block. A folded block joins two lines by a space where neither begins
with a blank. Gives the text, the break after the last line and the breaks after that. -/
def takeBlockLines (folds : Bool) (indent : Nat) :
    Nat → Bool → List Char → List Char → Scan (List Char × List Char × List Char)
  | 0, _, lineBreak, breaks => return ([], lineBreak, breaks)
  | fuel + 1, afterBlank, lineBreak, breaks => do
    if (← get).column == indent && !(← atEnd) then
      let blank ← test isSpaceOrTab
      let joint :=
        if folds && lineBreak.head? == some '\n' && !afterBlank && !blank then
          if breaks.isEmpty then [' '] else []
        else lineBreak
      let line ← takeWhile (!isBreak ·)
      let nextLineBreak ← nextBreak
      let (nextBreaks, _) ← takeEmptyLines indent fuel 0
      let (text, lastBreak, lastBreaks) ←
        takeBlockLines folds indent fuel blank nextLineBreak nextBreaks
      return (joint ++ breaks ++ line ++ text, lastBreak, lastBreaks)
    else return ([], lineBreak, breaks)

/-- Takes a block scalar after its first indicator. -/
def takeBlock (folds : Bool) (fuel : Nat) : Scan (List Char) := do
  let early ← takeChomping
  let increment ← takeIncrement
  let late ← if early.isNone && increment.isSome then takeChomping else pure none
  let chomping := (early.or late).getD .clip
  skipToLineEnd
  let parent := (← get).indent
  let given := match increment with
    | some increment => parent.toNat + increment
    | none => 0
  let (breaks, deepest) ← takeEmptyLines given fuel 0
  let indent := if given = 0 then max deepest (max (parent + 1).toNat 1) else given
  let (text, lastBreak, lastBreaks) ← takeBlockLines folds indent fuel false [] breaks
  return text ++ (if chomping = .strip then [] else lastBreak) ++
    (if chomping = .keep then lastBreaks else [])

end DefaultGateway.Yaml.Scan
