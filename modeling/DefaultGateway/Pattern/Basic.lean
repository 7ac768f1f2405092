/-!
Patterns of texts, and which of them can be used.

A pattern describes characters one at a time, and may switch to describing bytes instead. A text is
never cut inside a character, so bytes that are only part of one cannot be asked for. Nothing is
known of how letters outside ASCII pair up or what they are used for, so neither can that.
-/

namespace DefaultGateway

namespace Pattern

/-- What a letter in the head of a group switches on or off. -/
inductive Switch
  | ignoreCase
  | multiLine
  | dotMatchesBreak
  | swapGreed
  | unicode
  | crlf
  | verbose
  deriving DecidableEq, Repr

abbrev Settings := List (Switch × Bool)

/-- What a switch is set to, if it is set at all. -/
def Settings.value? (settings : Settings) (wanted : Switch) : Option Bool :=
  (settings.find? (·.1 = wanted)).map (·.2)

/-- A character that stands for itself. One that is written as a code of two digits is meant as a
byte where bytes are described. -/
structure Literal where
  char : Char
  isByteCode : Bool := false
  deriving DecidableEq, Repr

/-- A set of characters between brackets. -/
inductive Class
  | literal (l : Literal)
  | range (first last : Literal)
  /-- A set of ASCII characters by its name. -/
  | named (negated : Bool)
  /-- Digits, white space or the characters of words. -/
  | shorthand (negated : Bool)
  | bracket (negated : Bool) (inner : Class)
  | union (parts : List Class)
  /-- An intersection or a difference of either kind. -/
  | combination (left right : Class)
  deriving Repr

/-- The union of some sets, which is no set of its own where there is only one. -/
def Class.ofParts : List Class → Class
  | [part] => part
  | parts => .union parts

end Pattern

inductive Pattern
  | literal (l : Pattern.Literal)
  | anyChar
  | anchor
  | wordBoundary
  | shorthand (negated : Bool)
  | bracket (negated : Bool) (inner : Pattern.Class)
  /-- Settings from here to the end of the group. -/
  | adjust (settings : Pattern.Settings)
  | group (settings : Pattern.Settings) (inner : Pattern)
  | repetition (inner : Pattern)
  | sequence (parts : List Pattern)
  | choice (branches : List Pattern)
  deriving Repr

namespace Pattern

def ofParts : List Pattern → Pattern
  | [part] => part
  | parts => .sequence parts

def ofBranches : List Pattern → Pattern
  | [branch] => branch
  | branches => .choice branches

/-! ## Nesting -/

mutual

def Class.depth : Class → Nat
  | .bracket _ inner => inner.depth + 1
  | .union parts => if parts.isEmpty then 0 else Class.depthOfParts parts + 1
  | .combination left right => max left.depth right.depth + 1
  | .literal _ | .range .. | .named _ | .shorthand _ => 0

def Class.depthOfParts : List Class → Nat
  | [] => 0
  | part :: rest => max part.depth (Class.depthOfParts rest)

end

mutual

def depth : Pattern → Nat
  | .bracket _ inner => inner.depth + 1
  | .group _ inner | .repetition inner => inner.depth + 1
  | .sequence parts | .choice parts => if parts.isEmpty then 0 else depthOfParts parts + 1
  | .literal _ | .anyChar | .anchor | .wordBoundary | .shorthand _ | .adjust _ => 0

def depthOfParts : List Pattern → Nat
  | [] => 0
  | part :: rest => max part.depth (depthOfParts rest)

end

/-! ## Use -/

/-- How the characters of a pattern are meant. -/
structure Mode where
  ignoreCase : Bool := false
  unicode : Bool := true
  deriving DecidableEq, Repr

def Mode.change (mode : Mode) (settings : Settings) : Mode where
  ignoreCase := (settings.value? .ignoreCase).getD mode.ignoreCase
  unicode := (settings.value? .unicode).getD mode.unicode

def Literal.isAscii (l : Literal) : Bool := l.char.toNat < 0x80

mutual

def Class.isUsable (mode : Mode) : Class → Bool
  | .literal l => if mode.unicode then !mode.ignoreCase else l.isAscii
  | .range first last =>
    if mode.unicode then !mode.ignoreCase else first.isAscii && last.isAscii
  | .named negated => if mode.unicode then !mode.ignoreCase else !negated
  | .shorthand negated => !mode.unicode && !negated
  | .bracket negated inner => (mode.unicode || !negated) && inner.isUsable mode
  | .union parts => Class.areUsable mode parts
  | .combination left right => left.isUsable mode && right.isUsable mode

def Class.areUsable (mode : Mode) : List Class → Bool
  | [] => true
  | part :: rest => part.isUsable mode && Class.areUsable mode rest

end

mutual

/-- The mode after a pattern, if the pattern can be used in this mode. -/
def modeAfter? (mode : Mode) : Pattern → Option Mode
  | .literal l =>
    if mode.unicode then if mode.ignoreCase then none else some mode
    else if l.isByteCode && !l.isAscii then none
    else some mode
  | .anchor => some mode
  | .anyChar => if mode.unicode then some mode else none
  | .wordBoundary => if mode.unicode then none else some mode
  | .shorthand negated => if mode.unicode || negated then none else some mode
  | .bracket negated inner =>
    if (Class.bracket negated inner).isUsable mode then some mode else none
  | .adjust settings => some (mode.change settings)
  | .group settings inner => (inner.modeAfter? (mode.change settings)).map fun _ => mode
  | .repetition inner => inner.modeAfter? mode
  | .sequence parts | .choice parts => modeAfterAll? mode parts

def modeAfterAll? (mode : Mode) : List Pattern → Option Mode
  | [] => some mode
  | part :: rest => do modeAfterAll? (← part.modeAfter? mode) rest

end

def maxDepth : Nat := 250

/-- Whether texts can be compared with a pattern. -/
def isUsable (p : Pattern) : Bool := p.depth ≤ maxDepth && (p.modeAfter? {}).isSome

end Pattern

end DefaultGateway
