/-!
Sets of characters given by ranges of their codes.
-/

namespace DefaultGateway.Text

/-- Closed ranges of codes, in increasing order. -/
abbrev CodeRanges := List (Nat × Nat)

/-- Whether the code of a character lies in one of the ranges. -/
def CodeRanges.holds (ranges : CodeRanges) (c : Char) : Bool :=
  ranges.any fun (first, last) => first ≤ c.toNat && c.toNat ≤ last

theorem CodeRanges.holds_of_mem {ranges : CodeRanges} {first last : Nat} {c : Char}
    (member : (first, last) ∈ ranges) (above : first ≤ c.toNat) (below : c.toNat ≤ last) :
    ranges.holds c := by
  simp only [CodeRanges.holds, List.any_eq_true, Bool.and_eq_true, decide_eq_true_eq]
  exact ⟨(first, last), member, above, below⟩

end DefaultGateway.Text
