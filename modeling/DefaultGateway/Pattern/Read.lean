import DefaultGateway.Pattern.Basic
import DefaultGateway.Text.Alphanumeric
import DefaultGateway.Text.Blank
import DefaultGateway.Text.Hex

/-!
Reading patterns from text.
-/

namespace DefaultGateway.Pattern

structure Reader where
  rest : List Char
  /-- Whether white space and comments may stand between the parts of the pattern. -/
  verbose : Bool := false
  /-- The names of groups so far, which must differ. -/
  names : List (List Char) := []

/-- A step of reading; it fails where the text is no pattern. -/
abbrev Reading := StateT Reader Option

namespace Reading

def peek : Reading (Option Char) := return (← get).rest.head?

def next : Reading Char := do
  match (← get).rest with
  | [] => failure
  | c :: rest =>
    modify fun r => { r with rest := rest }
    return c

def goTo (rest : List Char) : Reading Unit := modify fun r => { r with rest := rest }

/-- What follows white space and comments. -/
def afterSpace (inComment : Bool) : List Char → List Char
  | [] => []
  | c :: rest =>
    if inComment then afterSpace (c != '\n') rest
    else if Text.isBlank c then afterSpace false rest
    else if c == '#' then afterSpace true rest
    else c :: rest

def skipSpace : Reading Unit := modify fun r =>
  if r.verbose then { r with rest := afterSpace false r.rest } else r

def setVerbose (settings : Settings) : Reading Unit := modify fun r =>
  { r with verbose := (settings.value? .verbose).getD r.verbose }

/-! ## Escapes -/

/-- Takes a hexadecimal digit at a time. -/
def takeDigits : Nat → Reading (List Char)
  | 0 => return []
  | count + 1 => do
    let digit ← next
    skipSpace
    return digit :: (← takeDigits count)

def takeCode (count : Nat) : Reading Char := do
  skipSpace
  Text.charOfCode? (← Text.readHex (← takeDigits count))

/-- The characters that letters after a backslash stand for. -/
def controls : List (Char × Char) :=
  [('a', '\x07'), ('f', '\x0c'), ('t', '\t'), ('n', '\n'), ('r', '\r'), ('v', '\x0b')]

/-- Takes what follows a backslash: a letter with a meaning of its own, or a sign that stands for
itself. -/
def takeEscape : Reading Pattern := do
  let c ← next
  if c == 'x' then return .literal ⟨← takeCode 2, true⟩
  else if c == 'u' then return .literal ⟨← takeCode 4, false⟩
  else if c == 'U' then return .literal ⟨← takeCode 8, false⟩
  else if ['d', 's', 'w'].contains c then return .shorthand false
  else if ['D', 'S', 'W'].contains c then return .shorthand true
  else if ['A', 'z'].contains c then return .anchor
  else if ['b', 'B', '<', '>'].contains c then return .wordBoundary
  else if 0x80 ≤ c.toNat then failure
  else if c.isAlphanum then return .literal ⟨← controls.lookup c, false⟩
  else return .literal ⟨c, false⟩

/-! ## Sets -/

def classNames : List String :=
  ["alnum", "alpha", "ascii", "blank", "cntrl", "digit", "graph", "lower", "print", "punct",
    "space", "upper", "word", "xdigit"]

/-- A set with a name between brackets and colons, and what follows it. -/
def splitNamed? : List Char → Option (Class × List Char)
  | '[' :: ':' :: l =>
    let (negated, l) := match l with
      | '^' :: l => (true, l)
      | _ => (false, l)
    let name := l.takeWhile (· != ':')
    match l.drop name.length with
    | ':' :: ']' :: rest =>
      if classNames.contains (String.ofList name) then some (.named negated, rest) else none
    | _ => none
  | _ => none

/-- Takes a character between brackets, or what an escape there stands for. -/
def takeClassItem : Reading Pattern := do
  let c ← next
  if c == '\\' then takeEscape else return .literal ⟨c, false⟩

/-- Whether the hyphen here joins two ends of a range. It does not before the closing bracket or
another hyphen; to see that, white space and a sign that opens a comment are passed over. -/
def atRangeHyphen : Reading Bool := do
  let r ← get
  match r.rest with
  | '-' :: after =>
    let after :=
      if r.verbose then
        match after.dropWhile Text.isBlank with
        | '#' :: comment => comment.dropWhile Text.isBlank
        | l => l
      else after
    return after.head? != some ']' && after.head? != some '-'
  | _ => return false

def takeRange : Reading Class := do
  let first ← takeClassItem
  skipSpace
  if ← atRangeHyphen then
    let _ ← next
    skipSpace
    match first, ← takeClassItem with
    | .literal first, .literal last =>
      if last.char < first.char then failure
      return .range first last
    | _, _ => failure
  else
    match first with
    | .literal l => return .literal l
    | .shorthand negated => return .shorthand negated
    | _ => failure

/-- Takes hyphens at the beginning of a set. -/
def takeHyphens : Nat → Reading (List Class)
  | 0 => failure
  | fuel + 1 => do
    if (← peek) == some '-' then
      let _ ← next
      skipSpace
      return .literal ⟨'-', false⟩ :: (← takeHyphens fuel)
    else return []

/-- Takes the beginning of a set up to its first member that has to be escaped elsewhere. Gives
whether the set is negated, and the hyphens or the closing bracket that it begins with. -/
def takeClassHead (fuel : Nat) : Reading (Bool × List Class) := do
  let _ ← next
  skipSpace
  let negated := (← peek) == some '^'
  if negated then
    let _ ← next
    skipSpace
  let hyphens ← takeHyphens fuel
  if hyphens.isEmpty && (← peek) == some ']' then
    let _ ← next
    skipSpace
    return (negated, [.literal ⟨']', false⟩])
  else return (negated, hyphens)

/-- Members in reverse order, combined with what stands to the left of an operator. -/
def combine (left : Option Class) (parts : List Class) : Class :=
  let right := Class.ofParts parts.reverse
  match left with
  | some left => .combination left right
  | none => right

mutual

def takeBracket : Nat → Reading (Bool × Class)
  | 0 => failure
  | fuel + 1 => do
    let (negated, parts) ← takeClassHead fuel
    return (negated, ← takeClassBody none parts.reverse fuel)

def takeClassBody (left : Option Class) (parts : List Class) : Nat → Reading Class
  | 0 => failure
  | fuel + 1 => do
    skipSpace
    match (← get).rest with
    | [] => failure
    | ']' :: rest =>
      goTo rest
      return combine left parts
    | '&' :: '&' :: rest | '-' :: '-' :: rest | '~' :: '~' :: rest =>
      goTo rest
      takeClassBody (some (combine left parts)) [] fuel
    | '[' :: rest =>
      match splitNamed? ('[' :: rest) with
      | some (named, rest) =>
        goTo rest
        takeClassBody left (named :: parts) fuel
      | none =>
        let (negated, inner) ← takeBracket fuel
        takeClassBody left (.bracket negated inner :: parts) fuel
    | _ =>
      let part ← takeRange
      takeClassBody left (part :: parts) fuel

end

/-! ## Groups -/

def switches : List (Char × Switch) :=
  [('i', .ignoreCase), ('m', .multiLine), ('s', .dotMatchesBreak), ('U', .swapGreed),
    ('u', .unicode), ('R', .crlf), ('x', .verbose)]

/-- The settings that letters make; those after a hyphen are switched off. -/
def settings? (letters : List Char) : Option Settings := do
  let (on, off) := letters.span (· != '-')
  if !letters.Nodup || off == ['-'] then none
  let on ← on.mapM fun letter => switches.lookup letter
  let off ← (off.drop 1).mapM fun letter => switches.lookup letter
  return on.map (·, true) ++ off.map (·, false)

def takeName : Reading Unit := do
  let name := (← get).rest.takeWhile (· != '>')
  let opens (c : Char) : Bool := c == '_' || Text.isAlphabetic c
  let continues (c : Char) : Bool := ['_', '.', '[', ']'].contains c || Text.isAlphanumeric c
  if !name.head?.any opens || !name.all continues || (← get).names.contains name then failure
  modify fun r => { r with rest := r.rest.drop name.length, names := name :: r.names }
  let _ ← next

/-- What parentheses begin with. -/
inductive Opening
  | adjust (settings : Settings)
  | group (settings : Settings)

/-- Takes letters for settings, up to a colon or the end of the parentheses. -/
def takeSettings : Reading Opening := do
  let letters := (← get).rest.takeWhile fun c => c != ':' && c != ')'
  let settings ← settings? letters
  goTo ((← get).rest.drop letters.length)
  if (← next) == ':' then return .group settings
  else if letters.isEmpty then failure
  else return .adjust settings

/-- Takes the beginning of parentheses. Nothing can be asked of what precedes or follows. -/
def takeOpening : Reading Opening := do
  let _ ← next
  skipSpace
  match (← get).rest with
  | '?' :: '=' :: _ | '?' :: '!' :: _ | '?' :: '<' :: '=' :: _ | '?' :: '<' :: '!' :: _ => failure
  | '?' :: 'P' :: '<' :: rest | '?' :: '<' :: rest =>
    goTo rest
    takeName
    return .group []
  | '?' :: rest =>
    goTo rest
    takeSettings
  | _ => return .group []

/-- Takes a part of a pattern that holds no others. -/
def takeSimple : Reading Pattern := do
  let c ← next
  if c == '\\' then takeEscape
  else if c == '.' then return .anyChar
  else if c == '^' || c == '$' then return .anchor
  else return .literal ⟨c, false⟩

/-- Repeats the last of the parts, which are in reverse order. -/
def repeatLast : List Pattern → Option (List Pattern)
  | [] | .adjust _ :: _ => none
  | part :: earlier => some (.repetition part :: earlier)

mutual

/-- Takes branches up to the end of the group; those before are in reverse order. -/
def takeBranches (done : List Pattern) : Nat → Reading Pattern
  | 0 => failure
  | fuel + 1 => do
    let branch ← takeParts [] fuel
    if (← peek) == some '|' then
      let _ ← next
      takeBranches (branch :: done) fuel
    else return ofBranches (branch :: done).reverse

/-- Takes parts up to the end of the branch; those before are in reverse order. A number of
repetitions cannot be given. -/
def takeParts (done : List Pattern) : Nat → Reading Pattern
  | 0 => failure
  | fuel + 1 => do
    skipSpace
    match ← peek with
    | none | some ')' | some '|' => return ofParts done.reverse
    | some '(' =>
      match ← takeOpening with
      | .adjust settings =>
        setVerbose settings
        takeParts (.adjust settings :: done) fuel
      | .group settings =>
        let verbose := (← get).verbose
        setVerbose settings
        let inner ← takeBranches [] fuel
        if (← next) != ')' then failure
        modify fun r => { r with verbose := verbose }
        takeParts (.group settings inner :: done) fuel
    | some '[' =>
      let (negated, inner) ← takeBracket fuel
      takeParts (.bracket negated inner :: done) fuel
    | some '*' | some '+' | some '?' =>
      let _ ← next
      if (← peek) == some '?' then
        let _ ← next
      takeParts (← repeatLast done) fuel
    | some '\x7b' => failure
    | some _ =>
      let part ← takeSimple
      takeParts (part :: done) fuel

end

end Reading

def ofChars? (text : List Char) : Option Pattern := do
  let (pattern, r) ← (Reading.takeBranches [] (2 * text.length + 2)).run { rest := text }
  if r.rest.isEmpty then some pattern else none

/-- Whether a text writes a pattern with which texts can be compared. -/
def isPattern (text : List Char) : Bool := (ofChars? text).any isUsable

end DefaultGateway.Pattern
