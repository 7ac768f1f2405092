import DefaultGateway.Files

/-!
# Neighbouring paths

A path and the path of the same name with an ending lead to different places, so that a file and
those kept beside it are not confused. Main statement: `locate_append_ne`.
-/

namespace DefaultGateway

namespace Text

/-- A text is lengthened in its last field by what holds no separator. -/
theorem splitOn_append {separator : Char} {tail : List Char} (absent : separator ∉ tail)
    (l : List Char) :
    ∃ front last, splitOn separator l = front ++ [last] ∧
      splitOn separator (l ++ tail) = front ++ [last ++ tail] := by
  induction l with
  | nil => exact ⟨[], [], rfl, splitOn_of_not_mem absent⟩
  | cons c rest inductionHypothesis =>
      obtain ⟨front, last, short, long⟩ := inductionHypothesis
      simp only [List.cons_append, splitOn]
      by_cases here : c = separator
      · rw [if_pos here, if_pos here, short, long]
        exact ⟨[] :: front, last, rfl, rfl⟩
      · rw [if_neg here, if_neg here, short, long]
        cases front with
        | nil => exact ⟨[], c :: last, rfl, rfl⟩
        | cons field fields => exact ⟨(c :: field) :: fields, last, rfl, rfl⟩

end Text

namespace Host

variable {h : Host} {place other : Location}

/-- A single part leads nowhere but to where it begins, to the parent, or to the entry of its
name. -/
theorem walk_singleton {start : Location} {part : String}
    (leads : h.walk start [part] = .ok place) :
    place = start ∨ place = start.parent ∨ place = start ++ [part] := by
  simp only [walk] at leads
  split at leads
  · cases leads
  · cases leads
  · cases leads
  · split at leads
    · exact .inl (Except.ok.inj leads).symm
    · split at leads
      · exact .inr (.inl (Except.ok.inj leads).symm)
      · split at leads
        · cases leads
        · exact .inr (.inr (Except.ok.inj leads).symm)

/-- The name of an entry leads to the entry. -/
theorem walk_ordinary {start : Location} {name : String}
    (ordinary : name ≠ "" ∧ name ≠ "." ∧ name ≠ "..") (leads : h.walk start [name] = .ok place) :
    place = start ++ [name] := by
  simp only [walk] at leads
  split at leads
  · cases leads
  · cases leads
  · cases leads
  · rw [if_neg (by simp [ordinary]), if_neg ordinary.2.2] at leads
    split at leads
    · cases leads
    · exact (Except.ok.inj leads).symm

/-- Two names in a directory, one of them that of an entry, lead to different places. -/
theorem walk_concat_ne {start : Location} {front : List String} {last name : String}
    (ordinary : name ≠ "" ∧ name ≠ "." ∧ name ≠ "..") (apart : name ≠ last)
    (leads : h.walk start (front ++ [last]) = .ok place)
    (leadsToo : h.walk start (front ++ [name]) = .ok other) : other ≠ place := by
  rw [walk_append] at leads leadsToo
  cases reached : h.walk start front with
  | error fault =>
      rw [reached] at leads
      cases leads
  | ok next =>
      rw [reached] at leads leadsToo
      obtain rfl := walk_ordinary ordinary leadsToo
      rcases walk_singleton leads with rfl | rfl | rfl
      · simp
      · intro same
        have lengths := congrArg List.length same
        rw [Location.parent] at lengths
        split at lengths
        · simp at lengths
        · simp at lengths
          omega
      · simpa using apart

/-- The parts of a path lead from the root where the first is empty, and else from the working
directory. -/
theorem walk_of_locate {path first : String} {rest : List String}
    (divided : parts path = first :: rest) (leads : h.locate path = .ok place) :
    (if first = "" then h.walk [""] rest else h.walk [] (first :: rest)) = .ok place := by
  unfold locate at leads
  split at leads
  · cases leads
  · split at leads
    · cases leads
    · split at leads
      · cases leads
      · rw [divided] at leads
        split at leads
        · rename_i same
          injection same with isRoot sameRest
          rw [if_pos isRoot, sameRest]
          exact leads
        · rename_i noRoot
          rw [if_neg fun isRoot => noRoot rest (by rw [isRoot])]
          exact leads

/-- A long name is that of an entry. -/
theorem ordinary_of_long {name : String} (long : 2 < name.length) :
    name ≠ "" ∧ name ≠ "." ∧ name ≠ ".." := by
  refine ⟨?_, ?_, ?_⟩ <;>
    · rintro rfl
      exact absurd long (by decide)

/-- What is appended to a path goes to the name at its end. -/
theorem parts_append (path : String) {suffix : String} (noSlash : '/' ∉ suffix.toList) :
    ∃ front last, parts path = front ++ [last] ∧
      parts (path ++ suffix) = front ++ [last ++ suffix] := by
  obtain ⟨front, last, short, lengthened⟩ := Text.splitOn_append noSlash path.toList
  refine ⟨front.map .ofList, .ofList last, ?_, ?_⟩
  · rw [parts, short, List.map_append, List.map_singleton]
  · rw [parts, String.toList_append, lengthened, List.map_append, List.map_singleton,
      String.ofList_append, String.ofList_toList]

/-- A path and the path of the same name with more letters after it lead to different places. -/
theorem locate_append_ne {path suffix : String} (noSlash : '/' ∉ suffix.toList)
    (long : 2 < suffix.length) (leads : h.locate path = .ok place)
    (leadsToo : h.locate (path ++ suffix) = .ok other) : other ≠ place := by
  obtain ⟨front, last, short, lengthened⟩ := parts_append path noSlash
  have longName : 2 < (last ++ suffix).length := by
    rw [String.length_append]
    omega
  have ordinary := ordinary_of_long longName
  have apart : last ++ suffix ≠ last := by
    intro same
    have lengths := congrArg String.length same
    rw [String.length_append] at lengths
    omega
  cases front with
  | nil =>
      have leads := walk_of_locate short leads
      have leadsToo := walk_of_locate lengthened leadsToo
      rw [if_neg ordinary.1] at leadsToo
      split at leads
      · obtain rfl : [""] = place := Except.ok.inj leads
        obtain rfl := walk_ordinary ordinary leadsToo
        simpa using ordinary.1
      · have leads : h.walk [] ([] ++ [last]) = .ok place := leads
        exact walk_concat_ne ordinary apart leads leadsToo
  | cons field fields =>
      have leads := walk_of_locate short leads
      have leadsToo := walk_of_locate lengthened leadsToo
      split at leads
      · rw [if_pos ‹_›] at leadsToo
        exact walk_concat_ne ordinary apart leads leadsToo
      · rw [if_neg ‹_›] at leadsToo
        have leads : h.walk [] ((field :: fields) ++ [last]) = .ok place := leads
        exact walk_concat_ne ordinary apart leads leadsToo

end Host

end DefaultGateway
