/-!
Orders given by several keys in turn. A type that is determined by its keys inherits from them the
laws that sorted containers need: `Std.TransOrd` and `Std.LawfulEqOrd`.
-/

namespace DefaultGateway

/-- Comparison by `first`, and by `second` where `first` ties. -/
abbrev compareByThen {α β γ : Type} [Ord β] [Ord γ] (first : α → β) (second : α → γ) :
    α → α → Ordering :=
  compareLex (compareOn first) (compareOn second)

/-- A comparison that ties only on equal values is lawful as soon as it is transitive. -/
theorem lawfulEqCmp_of_eq {α : Type} {cmp : α → α → Ordering} [Std.TransCmp cmp]
    (eq_of_tie : ∀ a b, cmp a b = .eq → a = b) : Std.LawfulEqCmp cmp where
  compare_self := Std.ReflCmp.compare_self
  eq_of_compare := eq_of_tie _ _

theorem compareOn_eq_iff {α β : Type} [Ord β] [Std.TransOrd β] [Std.LawfulEqOrd β] (key : α → β)
    (a b : α) : compareOn key a b = .eq ↔ key a = key b := by
  simp [compareOn]

end DefaultGateway
