import DefaultGateway.Proofs.References
import Mathlib.Data.List.Induction

/-!
# Only a reread leaves a route in the air

A model goes through events, snapshots, rereads of a family's default routes, records of granted
requests, and changes to what handlers have proposed. Through all of them an interface that an
address or a route names is known; but a reread takes the routes of a dump as they are, through
interfaces that nobody has heard of too. Such a route stays after its interface is deleted, since
the deletion of an unknown interface is passed over.
-/

namespace DefaultGateway.Model

/-- What may be done to a model. -/
inductive Mutation
  | event (event : Event)
  | snapshot (s : Snapshot)
  | reread (family : Family) (routes : List Route)
  | installed (route : Route)
  | withdrawn (route : Route)
  | register (c : Candidate)
  | withdraw (key : Candidate.Key)
  | setDisabled (disabled : SortedSet Selector)

/-- Whether the default routes of a family are replaced by those of a dump. -/
def Mutation.rereads (family : Family) : Mutation → Bool
  | .snapshot _ => true
  | .reread read _ => read == family
  | _ => false

def undergo (m : Model) : Mutation → Model
  | .event event => (m.apply event).1
  | .snapshot s => (m.replaceFacts s).1
  | .reread family routes => (m.resyncRoutes family routes).1
  | .installed route => m.recordInstalled route
  | .withdrawn route => m.recordWithdrawn route
  | .register c => (m.register c).1
  | .withdraw key => (m.withdraw key).1
  | .setDisabled disabled => (m.setDisabled disabled).1

def undergoAll (m : Model) (history : List Mutation) : Model := history.foldl undergo m

variable {m : Model} {index : LinkIndex} {fact : Fact} {history : List Mutation}

/-- The fact is a default route that the last reread of its family has listed, at a time when its
interface was not known. -/
inductive ReadUnknown (m : Model) (history : List Mutation) (index : LinkIndex) : Fact → Prop
  | listed {before after : List Mutation} {routes : List Route} {family : Family} {r : Route} :
      history = before ++ .reread family routes :: after → r ∈ routes →
        (m.undergoAll before).links.containsKey index = false →
          (∀ later ∈ after, later.rereads family = false) →
            m.ReadUnknown history index (.default family r)

theorem undergoAll_concat (m : Model) (history : List Mutation) (last : Mutation) :
    m.undergoAll (history ++ [last]) = (m.undergoAll history).undergo last :=
  List.foldl_concat ..

/-- What a reread has not listed was there before. -/
theorem holds_reread {family : Family} {routes : List Route}
    (held : (m.resyncRoutes family routes).1.Holds fact) :
    (∃ r ∈ routes, fact = .default family r) ∨
      m.Holds fact ∧ ∀ r, fact ≠ .default family r := by
  cases fact with
  | address a => exact .inr ⟨held, by simp⟩
  | linkRoute r => exact .inr ⟨held, by simp⟩
  | default other r =>
      by_cases ours : other = family
      · subst ours
        simp only [Holds, resyncRoutes, PerFamily.get_set_self, KeyedSet.mem_ofList_sorted,
          List.mem_filter] at held
        exact .inl ⟨r, held.1, rfl⟩
      · simp only [Holds, resyncRoutes, PerFamily.get_set_of_ne _ ours] at held
        refine .inr ⟨held, fun r same => ours ?_⟩
        injection same

/-- A mutation that does not read the kernel anew makes known the interfaces of what it adds. -/
theorem inheritsFrom_undergo (m : Model) {mutation : Mutation}
    (noReread : ∀ family, mutation.rereads family = false) :
    (m.undergo mutation).InheritsFrom m := by
  cases mutation with
  | event event => exact inheritsFrom_apply m event
  | snapshot s => cases noReread .inet
  | reread family routes => simp [Mutation.rereads] at noReread
  | installed route => exact inheritsFrom_addRoute m route true
  | withdrawn route => exact inheritsFrom_dropRoute m route
  | register c => exact inheritsFrom_of_subset rfl fun fact held => by cases fact <;> exact held
  | withdraw key => exact inheritsFrom_of_subset rfl fun fact held => by cases fact <;> exact held
  | setDisabled disabled =>
      exact inheritsFrom_of_subset rfl fun fact held => by cases fact <;> exact held

/-- Whatever names an unknown interface after a mutation has been listed by it, a reread, or was
there before; and before, too, the interface was unknown. -/
theorem undergo_cases (m : Model) (last : Mutation) {fact : Fact}
    (held : (m.undergo last).Holds fact) (named : index ∈ fact.link?) :
    (m.undergo last).links.containsKey index = true ∨
      m.links.containsKey index = false ∧
        ((∃ family routes, ∃ r ∈ routes,
            last = .reread family routes ∧ fact = .default family r) ∨
          m.Holds fact ∧ ∀ family r, fact = .default family r → last.rereads family = false) := by
  by_cases noReread : ∀ family, last.rereads family = false
  · rcases inheritsFrom_undergo m noReread fact held index named with known | ⟨before, unknown⟩
    · exact .inl known
    · exact .inr ⟨unknown, .inr ⟨before, fun family _ _ => noReread family⟩⟩
  · cases last with
    | snapshot s =>
        exact .inl (anchored_replaceFacts m s index (names_iff.2 ⟨fact, held, named⟩))
    | reread family routes =>
        cases knew : m.links.containsKey index with
        | true => exact .inl knew
        | false =>
            refine .inr ⟨rfl, ?_⟩
            rcases holds_reread held with ⟨r, listed, same⟩ | ⟨before, others⟩
            · exact .inl ⟨family, routes, r, listed, rfl, same⟩
            · refine .inr ⟨before, fun other r same => ?_⟩
              have apart : family ≠ other := fun ours => others r (ours ▸ same)
              simpa [Mutation.rereads] using apart
    | _ => exact absurd (fun _ => rfl) noReread

/-- A route in the air stays so until its family is read again. -/
theorem ReadUnknown.concat (read : m.ReadUnknown history index fact) {last : Mutation}
    (kept : ∀ family r, fact = .default family r → last.rereads family = false) :
    m.ReadUnknown (history ++ [last]) index fact := by
  cases read with
  | @listed before after routes family r whole listed unknown rest =>
      have longer : history ++ [last] = before ++ .reread family routes :: (after ++ [last]) := by
        rw [whole, List.append_assoc, List.cons_append]
      refine .listed longer listed unknown fun later member => ?_
      rcases List.mem_append.1 member with earlier | isLast
      · exact rest later earlier
      · rw [List.mem_singleton.1 isLast]
        exact kept family r rfl

/-- Through every history an interface that a fact names is known, unless the fact is a default
route that the last reread of its family has listed while the interface was unknown. -/
theorem known_or_readUnknown (table : UInt32) (history : List Mutation) :
    ∀ fact, ((empty table).undergoAll history).Holds fact → ∀ index ∈ fact.link?,
      ((empty table).undergoAll history).links.containsKey index = true ∨
        (empty table).ReadUnknown history index fact := by
  induction history using List.reverseRecOn with
  | nil =>
      intro fact held index named
      exact .inl (anchored_empty table index (names_iff.2 ⟨fact, held, named⟩))
  | append_singleton history last inductionHypothesis =>
      intro fact held index named
      rw [undergoAll_concat] at held ⊢
      rcases undergo_cases _ last held named with known | ⟨unknown, listed | ⟨before, kept⟩⟩
      · exact .inl known
      · obtain ⟨family, routes, r, member, rfl, rfl⟩ := listed
        exact .inr (.listed rfl member unknown (by simp))
      · rcases inductionHypothesis fact before index named with known | read
        · rw [known] at unknown
          cases unknown
        · exact .inr (read.concat kept)

/-- Nothing names an interface that was known and has been deleted. -/
theorem link?_ne_of_linkDelete (known : m.links.containsKey index = true)
    (held : (m.undergo (.event (.linkDelete index))).Holds fact) : fact.link? ≠ some index := by
  intro named
  have deleted : (m.undergo (.event (.linkDelete index))).links.containsKey index = false := by
    have erased : (m.undergo (.event (.linkDelete index))).links = m.links.erase index := by
      simp only [undergo, apply, applyLinkEvent, dropLink]
      rw [if_pos known]
      rfl
    rw [erased, KeyedSet.containsKey, KeyedSet.find?_erase, if_pos rfl]
    rfl
  rcases inheritsFrom_dropLink m index fact held index named with still | ⟨-, unknown⟩
  · exact Bool.false_ne_true (deleted.symm.trans still)
  · exact Bool.false_ne_true (unknown.symm.trans known)

/-- Through every history an interface that an address or a route names is known, unless the route
is a default route that the last reread of its family has listed while the interface was unknown;
without exception if every reread lists routes through known interfaces alone. Nothing names an
interface that was known and has just been deleted. -/
theorem unknown_only_reread (table : UInt32) (history : List Mutation) :
    let m := (empty table).undergoAll history
    (∀ fact, m.Holds fact → ∀ index ∈ fact.link?,
        m.links.containsKey index = true ∨ (empty table).ReadUnknown history index fact) ∧
      ((∀ before family routes after, history = before ++ .reread family routes :: after →
          ∀ r ∈ routes, ∀ index ∈ r.oif,
            ((empty table).undergoAll before).links.containsKey index = true) →
        ∀ fact, m.Holds fact → ∀ index ∈ fact.link?, m.links.containsKey index = true) ∧
      ∀ index, m.links.containsKey index = true →
        ∀ fact, (m.undergo (.event (.linkDelete index))).Holds fact → fact.link? ≠ some index := by
  have traced := known_or_readUnknown table history
  refine ⟨traced, fun heard fact held index named => ?_,
    fun _ known _ held => link?_ne_of_linkDelete known held⟩
  rcases traced fact held index named with known | read
  · exact known
  · cases read with
    | listed whole listed unknown rest =>
        rw [heard _ _ _ _ whole _ listed index named] at unknown
        cases unknown

/-- A dump lists a route through an interface that may not have been reported. -/
def unheard : Mutation := .reread .inet [.defaultVia .inet (.v4 0x0a000001#32) (some 5) 254 0]

/-- Where the interface has been reported first, the route goes with it. -/
theorem unknown_only_reread_reported :
    let m := (empty 254).undergoAll [.event (.linkUp ⟨5, some "wlan0", true⟩), unheard]
    (∀ fact, m.Holds fact → ∀ index ∈ fact.link?, m.links.containsKey index = true) ∧
      m.links.containsKey 5 = true ∧
      ∀ fact, (m.undergo (.event (.linkDelete 5))).Holds fact → fact.link? ≠ some 5 := by
  intro m
  have known : m.links.containsKey 5 = true := by decide +kernel
  obtain ⟨-, heard, deleted⟩ :=
    unknown_only_reread 254 [.event (.linkUp ⟨5, some "wlan0", true⟩), unheard]
  refine ⟨heard ?_, known, deleted 5 known⟩
  intro before family routes after whole r listed index through
  -- The dump comes second in the history, and lists one route.
  cases before with
  | nil => cases whole
  | cons first before =>
      cases before with
      | nil =>
          cases whole
          obtain rfl := List.mem_singleton.1 listed
          obtain rfl : 5 = index := Option.some.inj through
          decide +kernel
      | cons second before =>
          injection whole with _ whole
          injection whole with _ whole
          simp at whole

/-- Where it has not, the route names an unknown interface, and stays when that is deleted. -/
theorem reread_left_hanging :
    let m := (empty 254).undergo unheard
    let after := m.undergo (.event (.linkDelete 5))
    let fact := Fact.default .inet (.defaultVia .inet (.v4 0x0a000001#32) (some 5) 254 0)
    (m.Holds fact ∧ m.links.containsKey 5 = false) ∧
      after.Holds fact ∧ after.links.containsKey 5 = false ∧ fact.link? = some 5 := by
  refine ⟨⟨?_, by decide +kernel⟩, ?_, by decide +kernel, by decide +kernel⟩
  · unfold Holds
    decide +kernel
  · unfold Holds
    decide +kernel

end DefaultGateway.Model
