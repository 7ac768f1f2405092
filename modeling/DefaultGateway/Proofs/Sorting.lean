import Mathlib.Data.List.Sort

/-!
# Sorting by insertion

On a total order sorting by insertion gives what sorting by merging gives, equal elements in their
old order, and it can be evaluated.
-/

namespace DefaultGateway

variable {α : Type}

theorem orderedInsert_append
    {le : α → α → Prop} [DecidableRel le] {a : α} {before behind : List α}
    (above : ∀ b ∈ before, ¬le a b) (below : ∀ b ∈ behind, le a b) :
    (before ++ behind).orderedInsert le a = before ++ a :: behind := by
  induction before with
  | nil =>
      cases behind with
      | nil => rfl
      | cons b rest => exact List.orderedInsert_cons_of_le le rest (below b (by simp))
  | cons b rest inductionHypothesis =>
      obtain ⟨first, later⟩ := List.forall_mem_cons.1 above
      rw [List.cons_append, List.orderedInsert_of_not_le le _ first, inductionHypothesis later]
      rfl

/-- Both sorts are stable, so that they agree on any order that is total. -/
theorem mergeSort_eq_insertionSort
    {le : α → α → Bool} (trans : ∀ a b c, le a b = true → le b c = true → le a c = true)
    (total : ∀ a b, (le a b || le b a) = true) (l : List α) :
    l.mergeSort le = l.insertionSort fun a b => le a b = true := by
  induction l with
  | nil => simp
  | cons a rest inductionHypothesis =>
      obtain ⟨before, behind, whole, sorted, above⟩ := List.mergeSort_cons trans total a rest
      have ordered := List.pairwise_mergeSort trans total (a :: rest)
      rw [whole] at ordered
      have below := (List.pairwise_cons.1 (List.pairwise_append.1 ordered).2.1).1
      rw [List.insertionSort_cons, ← inductionHypothesis, sorted, whole,
        orderedInsert_append (fun b member => by simpa using above b member) below]

end DefaultGateway
