import DefaultGateway.Document.Values
import DefaultGateway.Model
import DefaultGateway.Proofs.Coverage
import DefaultGateway.Proofs.KeyedSet

/-!
# A tag has one identity

Tags are ordered by their texts, and compared by what they are: well known, or some other tag. What
is read from a text prints as that text and is well known if the text is, so that the two never come
apart. Candidates are kept in the order of their keys, and selected by equality of tags: a candidate
takes the place of the one whose key equals its own, and a selector that names a tag matches those
that are kept under it.
-/

namespace DefaultGateway

/-! ## Tags and their texts -/

namespace Protocol

variable {p q : Protocol} {text : String}

theorem isTag_tag (p : Protocol) : isTag p.tag = true := by
  cases p with
  | other tag wellFormed unknown => exact wellFormed
  | _ => decide

theorem isWellKnown_iff : p.isWellKnown = true ↔ p.tag ∈ wellKnownTags := by
  cases p with
  | other tag wellFormed unknown => simp [isWellKnown, Protocol.tag, unknown]
  | _ => decide

/-- The well-known spellings are tried first, so that none of them is read as some other tag. -/
theorem ofTag?_eq_some_iff : ofTag? text = some p ↔ p.tag = text := by
  constructor
  · intro read
    rw [ofTag?] at read
    split_ifs at read with same same same same other <;> cases read
    · exact same.symm
    · exact same.symm
    · exact same.symm
    · exact same.symm
    · rfl
  · rintro rfl
    exact p.ofTag?_tag

theorem parse_eq_ok_iff : parse text = .ok p ↔ p.tag = text := by
  rw [← ofTag?_eq_some_iff, parse]
  cases ofTag? text <;> simp

/-- The texts that are read are the short words of the permitted characters. -/
theorem exists_parse_iff : (∃ p, parse text = .ok p) ↔ isTag text = true := by
  simp only [parse_eq_ok_iff]
  constructor
  · rintro ⟨p, rfl⟩
    exact p.isTag_tag
  · intro wellFormed
    by_cases known : text ∈ wellKnownTags
    · simp only [wellKnownTags, List.mem_cons, List.not_mem_nil, or_false] at known
      rcases known with rfl | rfl | rfl | rfl
      · exact ⟨.dhcp, rfl⟩
      · exact ⟨.ra, rfl⟩
      · exact ⟨.static, rfl⟩
      · exact ⟨.ppp, rfl⟩
    · exact ⟨.other text wellFormed known, rfl⟩

theorem ofDocument?_eq_some_iff {δ : Type} [Document δ] {d : δ} :
    ofDocument? d = some p ↔ Document.text? d = some p.tag := by
  rw [ofDocument?, Option.bind_eq_some_iff]
  simp only [ofTag?_eq_some_iff]
  constructor
  · rintro ⟨text, seen, rfl⟩
    exact seen
  · exact fun seen => ⟨p.tag, seen, rfl⟩

end Protocol

/-! ## Candidates under their keys -/

namespace Model

variable {m : Model} {c d : Candidate} {key : Candidate.Key}

/-- Puts in the candidates of a list one by one. -/
def registerAll (m : Model) (l : List Candidate) : Model := l.foldl (fun m c => (m.register c).1) m

theorem registerAll_eq (m : Model) (l : List Candidate) :
    m.registerAll l = { m with candidates := m.candidates.insertAll l } := by
  induction l generalizing m with
  | nil => rfl
  | cons c rest inductionHypothesis => exact inductionHypothesis (m.register c).1

theorem candidate?_register (m : Model) (c : Candidate) (key : Candidate.Key) :
    (m.register c).1.candidate? key = if c.key = key then some c else m.candidate? key :=
  KeyedSet.find?_insert m.candidates c key

/-- Of the candidates put in whose key equals a given one, the last is kept under it. -/
theorem candidate?_registerAll (m : Model) (l : List Candidate) (key : Candidate.Key) :
    (m.registerAll l).candidate? key = (l.reverse.find? (·.key == key)).or (m.candidate? key) := by
  rw [registerAll_eq]
  exact KeyedSet.find?_insertAll m.candidates l key

theorem key_of_candidate? (live : m.candidate? key = some c) : c.key = key :=
  (KeyedSet.find?_eq_some_iff_key_eq.1 live).2

/-- A candidate takes the place of another exactly if it has its key. -/
theorem register_replaces_iff :
    ((m.register c).1.register d).2 = some c ↔ c.key = d.key := by
  show (m.register c).1.candidate? d.key = some c ↔ c.key = d.key
  rw [candidate?_register]
  constructor
  · intro found
    split at found
    · assumption
    · exact key_of_candidate? found
  · intro same
    rw [if_pos same]

end Model

namespace Selector

theorem accepts_iff_of_protocol {s : Selector} {c : Candidate} {p : Protocol}
    (names : s.protocol = some p) :
    s.accepts c = true ↔
      c.protocol = p ∧ ({ s with protocol := none } : Selector).accepts c = true := by
  rw [accepts, accepts, matchesKey_eq_true_iff, matchesKey_eq_true_iff, names]
  simp only [admits, beq_iff_eq, and_true]
  grind [Candidate.key]

end Selector

/-! ## Main result -/

namespace Protocol

/-- The short words of the permitted characters are read as tags. Each prints as its text, and is
well known if its text is. Two of them are equal if their texts are, and tie in their order only
then. So candidates are kept apart exactly if their keys differ: of those that are put in under
equal keys the last stays, in the place of the one before. A selector that names a tag matches the
candidates that are kept under it and meet its other conditions. -/
theorem one_identity_of_parse {s t : String} {p q : Protocol} (first : parse s = .ok p)
    (second : parse t = .ok q) :
    (∀ text, (∃ r, parse text = .ok r) ↔ isTag text = true) ∧
      (toString p = s ∧ (p.isWellKnown = true ↔ s ∈ wellKnownTags) ∧
        ∀ (δ : Type) [Document δ] (d : δ), ofDocument? d = some p ↔ Document.text? d = some s) ∧
      ((p = q ↔ s = t) ∧ (s = t ↔ compare p q = .eq)) ∧
      (∀ (m : Model) (c d : Candidate), c.protocol = p → d.protocol = q →
        (((m.register c).1.register d).2 = some c ↔ c.key = d.key) ∧
          (c.key = d.key ↔ s = t ∧ c.interface = d.interface ∧ c.family = d.family)) ∧
      (∀ (m : Model) (l : List Candidate) (key : Candidate.Key),
        (m.registerAll l).candidate? key =
          (l.reverse.find? (·.key == key)).or (m.candidate? key)) ∧
      ∀ (m : Model) (key : Candidate.Key) (c : Candidate) (selector : Selector),
        m.candidate? key = some c → selector.protocol = some q →
          (selector.accepts c = true ↔
            compare key.protocol q = .eq ∧
              ({ selector with protocol := none } : Selector).accepts c = true) := by
  obtain rfl := parse_eq_ok_iff.1 first
  obtain rfl := parse_eq_ok_iff.1 second
  have equal : p = q ↔ p.tag = q.tag := ⟨congrArg tag, tag_injective⟩
  refine ⟨fun _ => exists_parse_iff,
    ⟨rfl, isWellKnown_iff, fun δ _ d => ofDocument?_eq_some_iff⟩, ⟨equal, ?_⟩, ?_,
    Model.candidate?_registerAll, ?_⟩
  · rw [Std.compare_eq_iff_eq, equal]
  · rintro m c d rfl rfl
    refine ⟨Model.register_replaces_iff, ?_⟩
    rw [← equal, Candidate.key, Candidate.key, Candidate.Key.mk.injEq]
  · intro m key c selector live names
    rw [Selector.accepts_iff_of_protocol names, Std.compare_eq_iff_eq,
      ← Model.key_of_candidate? live, Candidate.key]

/-- A well-known tag and another one that begins with it. -/
theorem one_identity_of_parse_similar :
    let similar : Protocol := .other "static-6" rfl (by decide)
    let c : Candidate := ⟨.static, .inet6, "eth0", .v6 1, none, 1⟩
    let d : Candidate := ⟨similar, .inet6, "eth0", .v6 2, none, 2⟩
    let m := (((Model.empty 254).register c).1.register d).1
    parse "static" = .ok .static ∧ parse "static-6" = .ok similar ∧
      compare Protocol.static similar ≠ .eq ∧ c.key ≠ d.key ∧
      m.candidate? d.key = some d ∧ m.candidate? c.key = some c ∧
      ({ protocol := some similar } : Selector).accepts d = true ∧
      ({ protocol := some similar } : Selector).accepts c = false := by
  intro similar c d m
  have first : parse "static" = .ok .static := by decide
  have second : parse "static-6" = .ok similar := by decide
  obtain ⟨-, -, ⟨-, ties⟩, places, -, selects⟩ := one_identity_of_parse first second
  have other : m.candidate? d.key = some d := by decide
  have wellKnown : m.candidate? c.key = some c := by decide
  refine ⟨first, second, fun tie => absurd (ties.2 tie) (by decide), fun same => ?_, other,
    wellKnown, (selects m d.key d _ other rfl).2 ⟨by decide, rfl⟩, ?_⟩
  · exact absurd ((places m c d rfl rfl).2.1 same).1 (by decide)
  · rw [Bool.eq_false_iff]
    exact fun matched => absurd ((selects m c.key c _ wellKnown rfl).1 matched).1 (by decide)

end Protocol

end DefaultGateway
