import Mathlib.Data.Fintype.Card
import Mathlib.Data.Fintype.EquivFin
import DefaultGateway.Config
import DefaultGateway.Proofs.Coverage

/-!
# Rules that a candidate reaches

A candidate ranks by the first rule that matches it, so a rule counts only if it matches a
candidate that no earlier rule matches. The configuration refuses a rule that one earlier rule
covers. There are more links and tags than rules can name, but only two families: several rules can
cover a rule together by taking a family each, and this the configuration lets pass.
-/

namespace DefaultGateway

/-! ## Values that no rule names -/

theorem exists_link_notMem (links : List String) : ∃ link, link ∉ links := by
  have injective : Function.Injective fun n => String.ofList (List.replicate n 'a') := by
    intro m n same
    have lengths := congrArg (·.toList.length) same
    simpa using lengths
  have infinite : Infinite String := Infinite.of_injective _ injective
  obtain ⟨link, fresh⟩ := infinite.exists_notMem_finset links.toFinset
  exact ⟨link, by simpa using fresh⟩

namespace Protocol

/-- The tag that is the numeral of a number. -/
def numeral (n : Nat) (short : (Nat.toDigits 10 n).length ≤ 32) : Protocol :=
  .other (.ofList (Nat.toDigits 10 n))
    (by
      have some := List.length_pos_iff.2 (Nat.toDigits_ne_nil (b := 10) (n := n))
      have digits : ∀ c ∈ Nat.toDigits 10 n, isTagChar c = true := fun c member => by
        simp [isTagChar, Nat.isDigit_of_mem_toDigits (by decide) (by decide) member]
      simp only [isTag, String.length_ofList, String.toList_ofList, Bool.and_eq_true,
        decide_eq_true_eq, List.all_eq_true]
      exact ⟨⟨some, short⟩, digits⟩)
    (by
      intro known
      have letters : ∀ tag ∈ wellKnownTags, ∃ c ∈ tag.toList, c.isDigit = false := by
        simp [wellKnownTags]
      obtain ⟨c, member, letter⟩ := letters _ known
      rw [String.toList_ofList] at member
      rw [Nat.isDigit_of_mem_toDigits (by decide) (by decide) member] at letter
      cases letter)

theorem numeral_injective {m n : Nat} {shortFirst : (Nat.toDigits 10 m).length ≤ 32}
    {shortSecond : (Nat.toDigits 10 n).length ≤ 32}
    (same : numeral m shortFirst = numeral n shortSecond) : m = n := by
  have digits : Nat.toDigits 10 m = Nat.toDigits 10 n := by
    simpa [numeral, tag] using congrArg (·.tag.toList) same
  have read := congrArg (Nat.ofDigitChars 10 · 0) digits
  simpa [Nat.ofDigitChars_toDigits] using read

theorem exists_notMem {protocols : List Protocol} (few : protocols.length < UInt64.size) :
    ∃ protocol, protocol ∉ protocols := by
  have room : protocols.length + 1 ≤ 10 ^ 32 := Nat.le_trans few (by decide)
  have short (i : Fin (protocols.length + 1)) : (Nat.toDigits 10 i.val).length ≤ 32 :=
    (Nat.length_toDigits_le_iff (by decide) (by decide)).2 (Nat.lt_of_lt_of_le i.isLt room)
  let numerals : Fin (protocols.length + 1) → Protocol := fun i => numeral i.val (short i)
  have injective : Function.Injective numerals := fun i j same => Fin.ext (numeral_injective same)
  have more : protocols.toFinset.card < (Finset.univ.image numerals).card := by
    rw [Finset.card_image_of_injective _ injective, Finset.card_univ, Fintype.card_fin]
    exact Nat.lt_succ_of_le protocols.toFinset_card_le
  obtain ⟨protocol, -, fresh⟩ := Finset.exists_mem_notMem_of_card_lt_card more
  exact ⟨protocol, by simpa using fresh⟩

end Protocol

namespace Selector

/-! ## Conditions on a value that is not named -/

section Condition

variable {α : Type} [DecidableEq α] {condition other : Option α}

theorem admits_getD (condition : Option α) (a : α) :
    admits condition (condition.getD a) = true := by
  cases condition <;> simp [admits]

theorem narrows_some (a : α) (other : Option α) : narrows (some a) other = admits other a := by
  cases other with
  | none => rfl
  | some wanted => exact BEq.comm

theorem admits_of_narrows {a : α} (narrow : narrows condition other = true)
    (meets : admits condition a = true) : admits other a = true := by
  cases condition with
  | none =>
      cases other with
      | none => rfl
      | some wanted => cases narrow
  | some given =>
      rw [narrows_some] at narrow
      rwa [← (show given = a by simpa [admits] using meets)]

/-- A condition that does not name a value, but admits it, is open. -/
theorem narrows_of_admits_getD {fresh : α} (unnamed : other ≠ some fresh)
    (meets : admits other (condition.getD fresh) = true) : narrows condition other = true := by
  cases condition with
  | some given => rwa [narrows_some]
  | none =>
      cases other with
      | none => rfl
      | some wanted =>
          have named : wanted = fresh := by simpa [admits] using meets
          exact absurd (congrArg some named) unnamed

end Condition

/-! ## What earlier rules leave over -/

variable {earlier : List Selector} {rule e : Selector} {family : Family} {protocol : Protocol}

/-- The selector with a family given. -/
def withFamily (s : Selector) (family : Family) : Selector := { s with family := some family }

/-- The selector with a family and a tag given. -/
def within (s : Selector) (family : Family) (protocol : Protocol) : Selector :=
  { s with family := some family, protocol := some protocol }

theorem isCoveredBy_iff_fields :
    rule.isCoveredBy e = true ↔
      narrows rule.family e.family = true ∧ narrows rule.link e.link = true ∧
        narrows rule.protocol e.protocol = true := by
  rw [isCoveredBy, Bool.and_eq_true, Bool.and_eq_true, and_assoc]

/-- With a family and a tag given, the link alone is open, and there are links that no rule names.
So where no single rule covers the selector, a key is left over. -/
theorem exists_leftOver
    (familyMeets : admits rule.family family = true)
    (protocolMeets : admits rule.protocol protocol = true)
    (uncovered : ∀ e ∈ earlier, (rule.within family protocol).isCoveredBy e = false) :
    ∃ key : Candidate.Key,
      rule.matchesKey key = true ∧ ∀ e ∈ earlier, e.matchesKey key = false := by
  obtain ⟨fresh, unnamed⟩ := exists_link_notMem (earlier.filterMap link)
  refine ⟨⟨protocol, rule.link.getD fresh, family⟩, ?_, fun e member => ?_⟩
  · exact matchesKey_eq_true_iff.2 ⟨familyMeets, admits_getD rule.link fresh, protocolMeets⟩
  · rw [← Bool.not_eq_true]
    intro matched
    obtain ⟨ofFamily, ofLink, ofProtocol⟩ := matchesKey_eq_true_iff.1 matched
    have other : e.link ≠ some fresh := fun named =>
      unnamed (List.mem_filterMap.2 ⟨e, member, named⟩)
    have covered : (rule.within family protocol).isCoveredBy e = true :=
      isCoveredBy_iff_fields.2 ⟨(narrows_some family e.family).trans ofFamily,
        narrows_of_admits_getD other ofLink, (narrows_some protocol e.protocol).trans ofProtocol⟩
    rw [uncovered e member] at covered
    cases covered

/-- Whether earlier rules share out what a rule matches. None of them matches all of it, but of
every family and tag one of them does. -/
structure SharedOut (earlier : List Selector) (rule : Selector) : Prop where
  notAlone : ∀ e ∈ earlier, rule.isCoveredBy e = false
  together : ∀ family protocol,
    admits rule.family family = true → admits rule.protocol protocol = true →
      ∃ e ∈ earlier, (rule.within family protocol).isCoveredBy e = true

/-- Unless earlier rules share out what a rule matches, or one of them covers it, the rule matches
a key that they leave over. -/
theorem not_covered_iff :
    (∀ e ∈ earlier, rule.isCoveredBy e = false) ↔
      (∃ key : Candidate.Key,
        rule.matchesKey key = true ∧ ∀ e ∈ earlier, e.matchesKey key = false) ∨
      SharedOut earlier rule := by
  constructor
  · intro notAlone
    by_cases together : ∀ family protocol,
        admits rule.family family = true → admits rule.protocol protocol = true →
          ∃ e ∈ earlier, (rule.within family protocol).isCoveredBy e = true
    · exact .inr ⟨notAlone, together⟩
    · push Not at together
      obtain ⟨family, protocol, familyMeets, protocolMeets, uncovered⟩ := together
      exact .inl <| exists_leftOver familyMeets protocolMeets fun e member =>
        Bool.not_eq_true _ ▸ uncovered e member
  · rintro (⟨key, matched, left⟩ | shared) e member
    · rw [← Bool.not_eq_true, isCoveredBy_iff_keys]
      intro included
      have matchedToo := included key matched
      rw [left e member] at matchedToo
      cases matchedToo
    · exact shared.notAlone e member

/-- Rules too few to name all tags can share out only what they take a family each. -/
theorem sharedOut_iff_families (few : earlier.length < UInt64.size) :
    SharedOut earlier rule ↔
      (∀ e ∈ earlier, rule.isCoveredBy e = false) ∧ rule.family = none ∧
        ∀ family, ∃ e ∈ earlier,
          e.family = some family ∧ (rule.withFamily family).isCoveredBy e = true := by
  constructor
  · rintro ⟨notAlone, together⟩
    obtain ⟨fresh, unnamed⟩ :=
      Protocol.exists_notMem (Nat.lt_of_le_of_lt (List.length_filterMap_le protocol earlier) few)
    have taken (family : Family) (meets : admits rule.family family = true) :
        ∃ e ∈ earlier, (rule.withFamily family).isCoveredBy e = true := by
      obtain ⟨e, member, covered⟩ :=
        together family (rule.protocol.getD fresh) meets (admits_getD rule.protocol fresh)
      obtain ⟨ofFamily, ofLink, ofProtocol⟩ := isCoveredBy_iff_fields.1 covered
      have other : e.protocol ≠ some fresh := fun named =>
        unnamed (List.mem_filterMap.2 ⟨e, member, named⟩)
      exact ⟨e, member, isCoveredBy_iff_fields.2 ⟨ofFamily, ofLink,
        narrows_of_admits_getD other ((narrows_some _ e.protocol).symm.trans ofProtocol)⟩⟩
    have isOpen : rule.family = none := by
      cases given : rule.family with
      | none => rfl
      | some family =>
          obtain ⟨e, member, covered⟩ := taken family (by simp [given, admits])
          rw [withFamily, ← given] at covered
          rw [notAlone e member] at covered
          cases covered
    refine ⟨notAlone, isOpen, fun family => ?_⟩
    obtain ⟨e, member, covered⟩ := taken family (by simp [isOpen, admits])
    refine ⟨e, member, ?_, covered⟩
    obtain ⟨ofFamily, ofLink, ofProtocol⟩ := isCoveredBy_iff_fields.1 covered
    cases given : e.family with
    | none =>
        have alone : rule.isCoveredBy e = true :=
          isCoveredBy_iff_fields.2 ⟨by simp [isOpen, given, narrows], ofLink, ofProtocol⟩
        rw [notAlone e member] at alone
        cases alone
    | some wanted =>
        rw [given, withFamily, narrows_some] at ofFamily
        exact congrArg some (by simpa [admits] using ofFamily)
  · rintro ⟨notAlone, -, taken⟩
    refine ⟨notAlone, fun family protocol _ protocolMeets => ?_⟩
    obtain ⟨e, member, -, covered⟩ := taken family
    obtain ⟨ofFamily, ofLink, ofProtocol⟩ := isCoveredBy_iff_fields.1 covered
    exact ⟨e, member, isCoveredBy_iff_fields.2 ⟨ofFamily, ofLink,
      (narrows_some protocol e.protocol).trans (admits_of_narrows ofProtocol protocolMeets)⟩⟩

end Selector

/-! ## Ranks -/

namespace Policy

variable {policy : Policy} {c : Candidate} {i : Nat} {rule : Selector}

theorem rank_eq_ranked_iff (listed : policy.rules[i]? = some rule) :
    policy.rank c = .ranked i ↔
      rule.accepts c = true ∧ ∀ e ∈ policy.rules.take i, e.accepts c = false := by
  obtain ⟨inRange, rfl⟩ := List.getElem?_eq_some_iff.1 listed
  have first :
      policy.rank c = .ranked i ↔ policy.rules.findIdx? (·.accepts c) = some i := by
    rw [rank]
    cases policy.rules.findIdx? (·.accepts c) <;> simp
  rw [first, List.findIdx?_eq_some_iff_getElem]
  constructor
  · rintro ⟨_, accepted, before⟩
    refine ⟨accepted, fun e member => ?_⟩
    obtain ⟨j, inPlace, rfl⟩ := List.mem_take_iff_getElem.1 member
    exact Bool.not_eq_true _ ▸ before j (by omega)
  · rintro ⟨accepted, before⟩
    refine ⟨inRange, accepted, fun j earlier => ?_⟩
    rw [Bool.not_eq_true]
    exact before _ (List.mem_take_iff_getElem.2 ⟨j, by omega, rfl⟩)

/-- Some candidate ranks by a rule if the rule matches a key that the rules before it do not. -/
theorem exists_rank_iff (listed : policy.rules[i]? = some rule) :
    (∃ c, policy.rank c = .ranked i) ↔
      ∃ key : Candidate.Key,
        rule.matchesKey key = true ∧ ∀ e ∈ policy.rules.take i, e.matchesKey key = false := by
  constructor
  · rintro ⟨c, ranked⟩
    exact ⟨c.key, (rank_eq_ranked_iff listed).1 ranked⟩
  · rintro ⟨key, left⟩
    obtain ⟨c, rfl, -⟩ := Selector.exists_candidate key
    exact ⟨c, (rank_eq_ranked_iff listed).2 left⟩

end Policy

/-! ## What the configuration accepts -/

namespace Config

/-- The settings other than the rules are usable: a table that may be managed, intervals that pass,
and paths. -/
structure Serviceable (c : Config) : Prop where
  table : c.table ≠ 0 ∧ c.table ≠ 255
  resyncInterval : c.resyncIntervalSecs ≠ 0
  requestTimeout : c.requestTimeoutMs ≠ 0
  statePath : c.statePath ≠ ""
  pidPath : c.pidPath ≠ ""

variable {c : Config}

theorem check_eq_none_iff {p : Prop} [Decidable p] {fault : Fault} {later : Option Fault} :
    (if p then some fault else later) = none ↔ ¬p ∧ later = none := by
  split <;> simp [*]

theorem settingsFault?_eq_none_iff : c.settingsFault? = none ↔ c.Serviceable := by
  rw [settingsFault?, check_eq_none_iff, check_eq_none_iff, check_eq_none_iff, check_eq_none_iff]
  simp only [reservedTables, List.contains_eq_mem, List.mem_cons, List.not_mem_nil, or_false,
    decide_eq_true_eq, not_or, Bool.or_eq_true, String.isEmpty_iff, and_true]
  constructor
  · rintro ⟨table, resync, timeout, statePath, pidPath⟩
    exact ⟨table, resync, timeout, statePath, pidPath⟩
  · rintro ⟨table, resync, timeout, statePath, pidPath⟩
    exact ⟨table, resync, timeout, statePath, pidPath⟩

theorem ruleFault?_eq_none_iff {earlier : List Selector} {rule : Selector} :
    ruleFault? earlier rule = none ↔
      rule.link ≠ some "" ∧ ∀ e ∈ earlier, rule.isCoveredBy e = false := by
  unfold ruleFault?
  split
  · simp_all
  · rename_i named
    split
    · rename_i index found
      have covered := List.findIdx?_eq_some_iff_getElem.1 found
      obtain ⟨inRange, covered, -⟩ := covered
      simp only [reduceCtorEq, ne_eq, named, not_false_eq_true, true_and, false_iff, not_forall]
      exact ⟨_, List.getElem_mem inRange, by simp [covered]⟩
    · rename_i nothing
      simpa [named] using List.findIdx?_eq_none_iff.1 nothing

theorem rulesFault?_eq_none_iff {earlier rules : List Selector} :
    rulesFault? earlier rules = none ↔
      ∀ i rule, rules[i]? = some rule →
        rule.link ≠ some "" ∧ ∀ e ∈ earlier ++ rules.take i, rule.isCoveredBy e = false := by
  induction rules generalizing earlier with
  | nil => simp [rulesFault?]
  | cons first rest inductionHypothesis =>
      have split :
          rulesFault? earlier (first :: rest) = none ↔
            ruleFault? earlier first = none ∧ rulesFault? (earlier ++ [first]) rest = none := by
        rw [rulesFault?]
        cases ruleFault? earlier first <;> simp
      rw [split, ruleFault?_eq_none_iff, inductionHypothesis]
      constructor
      · rintro ⟨ofFirst, ofRest⟩ i rule listed
        cases i with
        | zero =>
            cases listed
            simpa using ofFirst
        | succ i => simpa [List.append_assoc] using ofRest i rule listed
      · intro all
        refine ⟨by simpa using all 0 first rfl, fun i rule listed => ?_⟩
        simpa [List.append_assoc] using all (i + 1) rule listed

/-- With the other settings usable, a configuration is valid if and only if no rule has an empty
link name and each rule is reached by some candidate, or shared out among several earlier rules
that none of them covers alone. Rules too few to name all tags share out a rule only by taking a
family each. -/
theorem validate_iff_reached (serviceable : c.Serviceable) :
    (c.validate = .ok () ↔
      ∀ i rule, c.priority[i]? = some rule →
        rule.link ≠ some "" ∧
          ((∃ candidate, c.policy.rank candidate = .ranked i) ∨
            Selector.SharedOut (c.priority.take i) rule)) ∧
      (c.priority.length < UInt64.size →
        ∀ i rule, Selector.SharedOut (c.priority.take i) rule ↔
          (∀ e ∈ c.priority.take i, rule.isCoveredBy e = false) ∧ rule.family = none ∧
            ∀ family, ∃ e ∈ c.priority.take i,
              e.family = some family ∧ (rule.withFamily family).isCoveredBy e = true) := by
  have valid : c.validate = .ok () ↔ rulesFault? [] c.priority = none := by
    rw [validate, fault?, settingsFault?_eq_none_iff.2 serviceable, Option.or_none]
    cases rulesFault? [] c.priority <;> simp
  constructor
  · rw [valid, rulesFault?_eq_none_iff]
    refine forall_congr' fun i => forall_congr' fun rule => forall_congr' fun listed => ?_
    rw [List.nil_append, Selector.not_covered_iff, Policy.exists_rank_iff listed]
    rfl
  · intro few i rule
    refine Selector.sharedOut_iff_families ?_
    exact Nat.lt_of_le_of_lt (by rw [List.length_take]; omega) few

/-- A rule for each family, and one for whatever is left. -/
def byFamily : Config where
  priority := [{ family := some .inet }, { family := some .inet6 }, {}]

theorem serviceable_byFamily : byFamily.Serviceable :=
  ⟨by decide, by decide, by decide, by decide, by decide⟩

theorem validate_iff_reached_byFamily :
    byFamily.Serviceable ∧ byFamily.validate = .ok () ∧
      Selector.SharedOut (byFamily.priority.take 2) {} := by
  obtain ⟨valid, families⟩ := validate_iff_reached serviceable_byFamily
  have shared : Selector.SharedOut (byFamily.priority.take 2) {} := by
    refine (families (by decide) 2 {}).2 ⟨by decide, rfl, fun family => ?_⟩
    exact ⟨{ family := some family }, by cases family <;> decide, rfl, by cases family <;> decide⟩
  refine ⟨serviceable_byFamily, valid.2 fun i rule listed => ?_, shared⟩
  match i, listed with
  | 0, rfl => exact ⟨by decide, .inl ⟨⟨.dhcp, .inet, "eth0", .v4 1, none, 0⟩, by decide⟩⟩
  | 1, rfl => exact ⟨by decide, .inl ⟨⟨.ra, .inet6, "eth0", .v6 1, none, 0⟩, by decide⟩⟩
  | 2, rfl => exact ⟨by decide, .inr shared⟩

/-- The last rule is accepted, but every candidate is of one of the two families before. -/
theorem accepted_but_unreached :
    byFamily.Serviceable ∧
      ¬(byFamily.validate = .ok () ↔
        (∀ rule ∈ byFamily.priority, rule.link ≠ some "") ∧
          ∀ i < byFamily.priority.length,
            ∃ candidate, byFamily.policy.rank candidate = .ranked i) := by
  refine ⟨serviceable_byFamily, fun claimed => ?_⟩
  obtain ⟨c, ranked⟩ := (claimed.1 (by decide)).2 2 (by decide)
  have listed : byFamily.policy.rules[2]? = some ({} : Selector) := rfl
  obtain ⟨-, left⟩ := (Policy.rank_eq_ranked_iff listed).1 ranked
  have other := left { family := some c.family } (by cases c.family <;> decide)
  simp [Selector.accepts, Selector.matchesKey, Selector.admits, Candidate.key] at other

end Config

end DefaultGateway
