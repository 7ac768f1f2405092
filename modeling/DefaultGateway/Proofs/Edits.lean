import DefaultGateway.Proofs.KeyedSet

/-!
# Edits of keyed sets

An edit says which row is to stand under a key from now on, or which one unless there is a row
already. So what a list of edits makes of a key is either settled by the list alone, or is the row
that was there, with one to fill the gap if there was none. Making the same edits once more
changes nothing, and neither does making them in another order as long as no two of them disagree
about a key.
-/

namespace DefaultGateway.KeyedSet

universe u v

variable {α : Type u} {κ : Type v} [Ord κ] [Std.TransOrd κ] {key : α → κ}

/-- A change to the rows under certain keys. -/
inductive Edit (key : α → κ)
  /-- Puts a row in the place of the one under its key. -/
  | put (row : α)
  /-- Adds a row unless there is one under its key. -/
  | ensure (row : α)
  /-- Drops the rows whose keys pass a test. -/
  | drop (test : κ → Bool)

def edit (s : KeyedSet key) : Edit key → KeyedSet key
  | .put row => s.insert row
  | .ensure row => if s.containsKey (key row) then s else s.insert row
  | .drop test => s.filter fun row => !test (key row)

def editAll (s : KeyedSet key) (edits : List (Edit key)) : KeyedSet key := edits.foldl edit s

theorem insertAll_append (s : KeyedSet key) (l more : List α) :
    s.insertAll (l ++ more) = (s.insertAll l).insertAll more :=
  List.foldl_append

theorem editAll_append (s : KeyedSet key) (edits more : List (Edit key)) :
    s.editAll (edits ++ more) = (s.editAll edits).editAll more :=
  List.foldl_append

/-! ## What edits make of one key -/

variable [Std.LawfulEqOrd κ] [DecidableEq κ]

theorem erase_eq_edit (s : KeyedSet key) (k : κ) : s.erase k = s.edit (.drop (· == k)) := by
  apply ext
  intro a
  rw [mem_erase, edit, mem_filter]
  simp

/-- What an edit makes of the row under a key. -/
def Edit.under (k : κ) (old : Option α) : Edit key → Option α
  | .put row => if key row = k then some row else old
  | .ensure row => if key row = k then old.or (some row) else old
  | .drop test => if test k then none else old

theorem find?_edit (s : KeyedSet key) (e : Edit key) (k : κ) :
    (s.edit e).find? k = e.under k (s.find? k) := by
  cases e with
  | put row => exact find?_insert s row k
  | ensure row =>
      simp only [edit, Edit.under]
      split
      · rename_i known
        obtain ⟨old, found⟩ := Option.isSome_iff_exists.1 known
        by_cases ours : key row = k
        · subst ours
          simp [found]
        · rw [if_neg ours]
      · rename_i missing
        rw [find?_insert]
        by_cases ours : key row = k
        · subst ours
          have absent : s.find? (key row) = none := by
            simpa [containsKey] using missing
          simp [absent]
        · rw [if_neg ours, if_neg ours]
  | drop test =>
      rw [edit, find?_filter_key s (!test ·) k]
      cases passes : test k with
      | true => simp [Edit.under, passes]
      | false => simp [Edit.under, passes]

theorem find?_editAll (s : KeyedSet key) (edits : List (Edit key)) (k : κ) :
    (s.editAll edits).find? k = edits.foldl (Edit.under k) (s.find? k) := by
  induction edits generalizing s with
  | nil => rfl
  | cons first rest inductionHypothesis =>
      exact (inductionHypothesis (s.edit first)).trans (by rw [find?_edit]; rfl)

omit [Ord κ] [Std.TransOrd κ] [Std.LawfulEqOrd κ] in
/-- Edits settle the row under a key, or keep the one that is there and at most fill the gap. -/
theorem settled_or_filled (edits : List (Edit key)) (k : κ) :
    ∃ row,
      (∀ old, edits.foldl (Edit.under k) old = row) ∨
        ∀ old, edits.foldl (Edit.under k) old = old.or row := by
  induction edits with
  | nil => exact ⟨none, .inr fun old => by simp⟩
  | cons first rest inductionHypothesis =>
      simp only [List.foldl_cons]
      obtain ⟨row, settled | filled⟩ := inductionHypothesis
      · exact ⟨row, .inl fun old => settled _⟩
      -- The rest leaves a row alone, so it is up to the first edit.
      · simp only [filled]
        cases first with
        | put put =>
            by_cases ours : key put = k
            · exact ⟨some put, .inl fun old => by simp [Edit.under, ours]⟩
            · exact ⟨row, .inr fun old => by simp [Edit.under, ours]⟩
        | ensure ensured =>
            by_cases ours : key ensured = k
            · exact ⟨some ensured, .inr fun old => by simp [Edit.under, ours]⟩
            · exact ⟨row, .inr fun old => by simp [Edit.under, ours]⟩
        | drop test =>
            by_cases passes : test k = true
            · exact ⟨row, .inl fun old => by simp [Edit.under, passes]⟩
            · exact ⟨row, .inr fun old => by simp [Edit.under, passes]⟩

/-- Edits made twice leave what they leave when made once. -/
theorem editAll_editAll (s : KeyedSet key) (edits : List (Edit key)) :
    (s.editAll edits).editAll edits = s.editAll edits := by
  apply ext_find?
  intro k
  simp only [find?_editAll]
  obtain ⟨row, settled | filled⟩ := settled_or_filled edits k
  · rw [settled, settled]
  · rw [filled, filled, Option.or_assoc, Option.or_self]

/-! ## Edits in another order -/

/-- Two edits leave the same row under every key, whichever of them is made first. -/
def Edit.Commutes (first second : Edit key) : Prop :=
  ∀ k old, second.under k (first.under k old) = first.under k (second.under k old)

namespace Edit.Commutes

omit [Ord κ] [Std.TransOrd κ] [Std.LawfulEqOrd κ]

theorem symm {first second : Edit key} (commute : first.Commutes second) :
    second.Commutes first := fun k old => (commute k old).symm

theorem put_put {row other : α} (same : key row = key other → row = other) :
    (Edit.put row : Edit key).Commutes (.put other) := by
  intro k old
  simp only [Edit.under]
  split
  · rename_i theirs
    split
    · rename_i ours
      rw [same (ours.trans theirs.symm)]
    · rfl
  · rfl

/-- A row that is put stands in any case, whether its gap was filled or not. -/
theorem put_ensure (row other : α) : (Edit.put row : Edit key).Commutes (.ensure other) := by
  intro k old
  simp only [Edit.under]
  split
  · split
    · rfl
    · rfl
  · rfl

theorem ensure_ensure {row other : α} (same : key row = key other → row = other) :
    (Edit.ensure row : Edit key).Commutes (.ensure other) := by
  intro k old
  simp only [Edit.under]
  split
  · rename_i theirs
    split
    · rename_i ours
      rw [same (ours.trans theirs.symm)]
    · rfl
  · rfl

end Edit.Commutes

theorem edit_comm {first second : Edit key} (commute : first.Commutes second) (s : KeyedSet key) :
    (s.edit first).edit second = (s.edit second).edit first := by
  apply ext_find?
  intro k
  rw [find?_edit, find?_edit, find?_edit, find?_edit, commute]

theorem editAll_perm
    {edits reordered : List (Edit key)} (perm : edits.Perm reordered)
    (commute : ∀ first ∈ edits, ∀ second ∈ edits, first.Commutes second) (s : KeyedSet key) :
    s.editAll edits = s.editAll reordered :=
  perm.foldl_eq' (fun first member second otherMember s =>
    edit_comm (commute first member second otherMember) s) s

/-- Rows under different keys make the same set, whichever is put in first. -/
theorem insertAll_perm
    {rows reordered : List α} (distinct : (rows.map key).Nodup) (perm : rows.Perm reordered)
    (s : KeyedSet key) : s.insertAll rows = s.insertAll reordered := by
  have edits (l : List α) : s.insertAll l = s.editAll (l.map Edit.put) := by
    rw [editAll, List.foldl_map]
    rfl
  rw [edits, edits]
  refine editAll_perm (perm.map _) (fun first member second otherMember => ?_) s
  obtain ⟨row, listed, rfl⟩ := List.mem_map.1 member
  obtain ⟨other, otherListed, rfl⟩ := List.mem_map.1 otherMember
  exact .put_put fun same => List.inj_on_of_nodup_map distinct listed otherListed same

end DefaultGateway.KeyedSet
