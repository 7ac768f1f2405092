/-!
Texts made of fields with a separator between them.

Main statement: `splitOn_intercalate`, splitting gives back fields that do not hold the separator.
-/

namespace DefaultGateway.Text

/-- The fields between separators; the empty text is one empty field. -/
def splitOn (separator : Char) : List Char → List (List Char)
  | [] => [[]]
  | c :: rest =>
    if c = separator then [] :: splitOn separator rest
    else match splitOn separator rest with
      | [] => [[c]]
      | field :: fields => (c :: field) :: fields

/-- The parts before and after the last separator. -/
def splitLast? (separator : Char) : List Char → Option (List Char × List Char)
  | [] => none
  | c :: rest =>
    match splitLast? separator rest with
    | some (front, back) => some (c :: front, back)
    | none => if c = separator then some ([], rest) else none

/-- The parts before and after the first occurrence of two given characters in a row. -/
def splitPair? (first second : Char) : List Char → Option (List Char × List Char)
  | c :: d :: rest =>
    if c = first ∧ d = second then some ([], rest)
    else (splitPair? first second (d :: rest)).map fun (front, back) => (c :: front, back)
  | _ => none

theorem splitOn_ne_nil (separator : Char) (l : List Char) : splitOn separator l ≠ [] := by
  induction l with
  | nil => simp [splitOn]
  | cons c rest inductionHypothesis =>
    simp only [splitOn]
    split
    · simp
    · split <;> simp

theorem splitOn_of_not_mem {separator : Char} {l : List Char} (absent : separator ∉ l) :
    splitOn separator l = [l] := by
  induction l with
  | nil => rfl
  | cons c rest inductionHypothesis =>
    have ⟨apart, absentLater⟩ : separator ≠ c ∧ separator ∉ rest := by simpa using absent
    simp [splitOn, inductionHypothesis absentLater, Ne.symm apart]

theorem splitOn_append_cons {separator : Char} {field : List Char} (absent : separator ∉ field)
    (rest : List Char) :
    splitOn separator (field ++ separator :: rest) = field :: splitOn separator rest := by
  induction field with
  | nil => simp [splitOn]
  | cons c later inductionHypothesis =>
    have ⟨apart, absentLater⟩ : separator ≠ c ∧ separator ∉ later := by simpa using absent
    simp [splitOn, inductionHypothesis absentLater, Ne.symm apart]

/-- Splitting undoes joining as long as no field holds the separator. -/
theorem splitOn_intercalate {separator : Char} {fields : List (List Char)}
    (someField : fields ≠ []) (absent : ∀ field ∈ fields, separator ∉ field) :
    splitOn separator ([separator].intercalate fields) = fields := by
  induction fields with
  | nil => exact absurd rfl someField
  | cons field rest inductionHypothesis =>
    cases rest with
    | nil => simpa using splitOn_of_not_mem (absent field (by simp))
    | cons next more =>
      have := inductionHypothesis (by simp) fun f member => absent f (List.mem_cons_of_mem _ member)
      rw [List.intercalate_cons_of_ne_nil (by simp), List.append_assoc, List.singleton_append,
        splitOn_append_cons (absent field (by simp)), this]

/-- A text whose back part has no separator splits there. -/
theorem splitLast?_append_cons {separator : Char} (front : List Char) {back : List Char}
    (absent : separator ∉ back) :
    splitLast? separator (front ++ separator :: back) = some (front, back) := by
  have noSplit : ∀ l : List Char, separator ∉ l → splitLast? separator l = none := by
    intro l absentThere
    induction l with
    | nil => rfl
    | cons c rest inductionHypothesis =>
      have ⟨apart, absentLater⟩ : separator ≠ c ∧ separator ∉ rest := by simpa using absentThere
      simp [splitLast?, inductionHypothesis absentLater, Ne.symm apart]
  induction front with
  | nil => simp [splitLast?, noSplit back absent]
  | cons c rest inductionHypothesis => simp [splitLast?, inductionHypothesis]

end DefaultGateway.Text
