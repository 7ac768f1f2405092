import DefaultGateway.Order
import DefaultGateway.ParseError

/-!
Tags that say which kind of handler proposed a gateway. Four tags are well known; any other short
word in lower case is a tag too. A tag is determined by its text, and ordered by it.
-/

namespace DefaultGateway

namespace Protocol

def wellKnownTags : List String := ["dhcp", "ra", "static", "ppp"]

/-- Lower-case letters, digits, underscores and hyphens. -/
def isTagChar (c : Char) : Bool := c.isLower || c.isDigit || c == '_' || c == '-'

def isTag (tag : String) : Bool :=
  0 < tag.length && tag.length ≤ 32 && tag.toList.all isTagChar

end Protocol

inductive Protocol
  | dhcp
  | ra
  | static
  | ppp
  | other (tag : String) (wellFormed : Protocol.isTag tag = true)
      (unknown : tag ∉ Protocol.wellKnownTags)
  deriving DecidableEq, Repr

namespace Protocol

instance : Inhabited Protocol := ⟨.dhcp⟩

def tag : Protocol → String
  | .dhcp => "dhcp"
  | .ra => "ra"
  | .static => "static"
  | .ppp => "ppp"
  | .other tag _ _ => tag

instance : ToString Protocol := ⟨tag⟩

def isWellKnown : Protocol → Bool
  | .other .. => false
  | _ => true

def ofTag? (tag : String) : Option Protocol :=
  if tag = "dhcp" then some .dhcp
  else if tag = "ra" then some .ra
  else if tag = "static" then some .static
  else if tag = "ppp" then some .ppp
  else if h : isTag tag = true ∧ tag ∉ wellKnownTags then some (.other tag h.1 h.2)
  else none

def parse (text : String) : Except ParseError Protocol :=
  match ofTag? text with
  | some protocol => .ok protocol
  | none => .error (.protocol text)

theorem ofTag?_tag (p : Protocol) : ofTag? p.tag = some p := by
  cases p with
  | other tag wellFormed unknown =>
    have apart : tag ≠ "dhcp" ∧ tag ≠ "ra" ∧ tag ≠ "static" ∧ tag ≠ "ppp" := by
      simpa [wellKnownTags] using unknown
    simp [ofTag?, Protocol.tag, wellFormed, unknown, apart]
  | _ => rfl

theorem tag_injective {p q : Protocol} (same : p.tag = q.tag) : p = q :=
  Option.some.inj ((ofTag?_tag p).symm.trans ((congrArg ofTag? same).trans (ofTag?_tag q)))

instance : Ord Protocol := ⟨compareOn tag⟩

instance : Std.TransOrd Protocol := inferInstanceAs (Std.TransCmp (compareOn tag))

instance : Std.LawfulEqOrd Protocol :=
  lawfulEqCmp_of_eq fun p q tie =>
    tag_injective ((compareOn_eq_iff tag p q).1 tie)

end Protocol

end DefaultGateway
