import Mathlib.Logic.Nontrivial.Basic
import DefaultGateway.Store.Basic

/-!
# What a selector covers

Coverage is tested field by field. It means inclusion: nothing is matched by the one selector and
not by the other. As every field has more than one value, a field that is left open is covered only
by one that is left open too. So to enable a selector takes away the disabled selectors that match
nothing else.
-/

namespace DefaultGateway

namespace Selector

/-! ## One field -/

section Condition

variable {α : Type} [DecidableEq α] {condition other : Option α}

theorem admits_iff {a : α} : admits condition a = true ↔ ∀ wanted ∈ condition, wanted = a := by
  cases condition <;> simp [admits]

/-- Every condition admits something. -/
theorem exists_admits [Inhabited α] (condition : Option α) : ∃ a, admits condition a = true := by
  cases condition with
  | none => exact ⟨default, rfl⟩
  | some wanted => exact ⟨wanted, by simp [admits]⟩

/-- Where there are two values, the one condition narrows the other if it admits nothing more. -/
theorem narrows_iff [Nontrivial α] :
    narrows condition other = true ↔
      ∀ a, admits condition a = true → admits other a = true := by
  cases other with
  | none => simp [narrows, admits]
  | some wanted =>
      cases condition with
      | none =>
          obtain ⟨a, apart⟩ := exists_ne wanted
          have refused : admits (some wanted) a = false := by simpa [admits] using apart.symm
          constructor
          · intro narrow
            cases narrow
          · intro included
            rw [included a rfl] at refused
            cases refused
      | some given =>
          simp only [narrows, admits, beq_iff_eq]
          constructor
          · rintro rfl a same
            exact same
          · intro included
            exact (included given rfl).symm

end Condition

instance : Nontrivial Family := ⟨.inet, .inet6, by decide⟩

instance : Nontrivial Protocol := ⟨.dhcp, .ra, by decide⟩

instance : Nontrivial String := ⟨"", "a", by decide⟩

/-! ## All fields -/

variable {a b c : Selector}

theorem matchesKey_eq_true_iff {key : Candidate.Key} :
    a.matchesKey key = true ↔
      admits a.family key.family = true ∧ admits a.link key.interface = true ∧
        admits a.protocol key.protocol = true := by
  rw [matchesKey, Bool.and_eq_true, Bool.and_eq_true, and_assoc]

/-- A selector matches the keys that agree with it wherever it is not left open. -/
theorem matchesKey_iff {key : Candidate.Key} :
    a.matchesKey key = true ↔
      (∀ family ∈ a.family, family = key.family) ∧ (∀ link ∈ a.link, link = key.interface) ∧
        ∀ protocol ∈ a.protocol, protocol = key.protocol := by
  rw [matchesKey_eq_true_iff, admits_iff, admits_iff, admits_iff]

/-- The fields of a key can be chosen apart, so that coverage in each follows from that of keys. -/
theorem isCoveredBy_iff_keys :
    a.isCoveredBy b = true ↔
      ∀ key : Candidate.Key, a.matchesKey key = true → b.matchesKey key = true := by
  rw [isCoveredBy, Bool.and_eq_true, Bool.and_eq_true, and_assoc, narrows_iff, narrows_iff,
    narrows_iff]
  constructor
  · rintro ⟨families, links, protocols⟩ key matched
    obtain ⟨family, link, protocol⟩ := matchesKey_eq_true_iff.1 matched
    exact matchesKey_eq_true_iff.2
      ⟨families _ family, links _ link, protocols _ protocol⟩
  · intro included
    obtain ⟨family, familyMeets⟩ := exists_admits a.family
    obtain ⟨link, linkMeets⟩ := exists_admits a.link
    obtain ⟨protocol, protocolMeets⟩ := exists_admits a.protocol
    have matched {f : Family} {l : String} {p : Protocol} (familyMeets : admits a.family f = true)
        (linkMeets : admits a.link l = true) (protocolMeets : admits a.protocol p = true) :
        admits b.family f = true ∧ admits b.link l = true ∧ admits b.protocol p = true :=
      matchesKey_eq_true_iff.1 <|
        included ⟨p, l, f⟩ (matchesKey_eq_true_iff.2 ⟨familyMeets, linkMeets, protocolMeets⟩)
    exact ⟨fun _ meets => (matched meets linkMeets protocolMeets).1,
      fun _ meets => (matched familyMeets meets protocolMeets).2.1,
      fun _ meets => (matched familyMeets linkMeets meets).2.2⟩

/-- Every key is that of a candidate with a gateway of its family. -/
theorem exists_candidate (key : Candidate.Key) :
    ∃ c : Candidate, c.key = key ∧ c.gateway.family = c.family :=
  ⟨⟨key.protocol, key.family, key.interface, .unspecified key.family, none, 0⟩, rfl,
    Address.family_unspecified key.family⟩

theorem isCoveredBy_iff :
    a.isCoveredBy b = true ↔
      ∀ c : Candidate, a.accepts c = true → b.accepts c = true := by
  rw [isCoveredBy_iff_keys]
  constructor
  · exact fun included c matched => included c.key matched
  · intro included key matched
    obtain ⟨c, rfl, -⟩ := exists_candidate key
    exact included c matched

theorem isCoveredBy_refl (a : Selector) : a.isCoveredBy a = true :=
  isCoveredBy_iff.2 fun _ matched => matched

theorem isCoveredBy_trans (inner : a.isCoveredBy b = true) (outer : b.isCoveredBy c = true) :
    a.isCoveredBy c = true :=
  isCoveredBy_iff.2 fun candidate matched =>
    isCoveredBy_iff.1 outer candidate (isCoveredBy_iff.1 inner candidate matched)

/-- What is not covered shows in a candidate. -/
theorem isCoveredBy_eq_false_iff :
    a.isCoveredBy b = false ↔ ∃ c : Candidate, a.accepts c = true ∧ b.accepts c = false := by
  rw [← Bool.not_eq_true, isCoveredBy_iff]
  simp

end Selector

namespace Store

open Selector

theorem mem_disabled_enable {store : Store} {s d : Selector} :
    d ∈ (store.enable s).disabled ↔ d ∈ store.disabled ∧ d.isCoveredBy s = false := by
  simp [enable]

/-- Coverage is inclusion, and so a preorder. To enable a selector keeps exactly the disabled
selectors that match some candidate besides, and touches no gateway. -/
theorem enable_keeps_iff_outside :
    (∀ a b : Selector, a.isCoveredBy b = true ↔
      ∀ c : Candidate, a.accepts c = true → b.accepts c = true) ∧
      (∀ a : Selector, a.isCoveredBy a = true) ∧
      (∀ a b c : Selector, a.isCoveredBy b = true → b.isCoveredBy c = true →
        a.isCoveredBy c = true) ∧
      ∀ (store : Store) (s : Selector),
        (store.enable s).gateways = store.gateways ∧
          ∀ d : Selector, d ∈ (store.enable s).disabled ↔
            d ∈ store.disabled ∧ ∃ c : Candidate, d.accepts c = true ∧ s.accepts c = false := by
  refine ⟨fun _ _ => isCoveredBy_iff, isCoveredBy_refl, fun _ _ _ => isCoveredBy_trans, ?_⟩
  intro store s
  refine ⟨rfl, fun d => ?_⟩
  rw [mem_disabled_enable, isCoveredBy_eq_false_iff]

/-- What a selector does not match stays disabled when the selector is enabled, or not disabled. -/
theorem isDisabled_enable {store : Store} {s : Selector} {g : StoredGateway}
    (outside : s.matchesKey g.key = false) :
    (store.enable s).isDisabled g = store.isDisabled g := by
  have kept {d : Selector} (matched : d.matchesKey g.key = true) : d.isCoveredBy s = false := by
    rw [← Bool.not_eq_true, isCoveredBy_iff_keys]
    intro included
    rw [included g.key matched] at outside
    cases outside
  rw [Bool.eq_iff_iff, isDisabled, isDisabled, KeyedSet.any, KeyedSet.any, List.any_eq_true,
    List.any_eq_true]
  constructor
  · rintro ⟨d, member, matched⟩
    exact ⟨d, (mem_disabled_enable.1 member).1, matched⟩
  · rintro ⟨d, member, matched⟩
    exact ⟨d, mem_disabled_enable.2 ⟨member, kept matched⟩, matched⟩

end Store

end DefaultGateway
