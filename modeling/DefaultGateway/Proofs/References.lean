import DefaultGateway.Proofs.KeyedSet
import DefaultGateway.Model

/-!
# Facts rest on known interfaces

An address or a route names an interface by its index. Every change to a model makes known the
interface of what it adds, and an interface that goes takes with it all that names it; so whatever
names an unknown interface has been there before, and did so before. The one exception is the
reading of a family's routes anew, which takes the routes of a dump as they are.
-/

namespace DefaultGateway.Model

/-! ## What is known of an interface -/

/-- Something is known that names an interface. -/
inductive Names (m : Model) (index : LinkIndex) : Prop
  | address (a : InterfaceAddress) : a ∈ m.addresses → a.index = index → m.Names index
  | linkRoute (r : Route) : r ∈ m.linkRoutes → r.oif = some index → m.Names index
  | default (family : Family) (r : Route) :
      r ∈ m.defaults.get family → r.oif = some index → m.Names index

/-- Every interface that an address or a route names is known. -/
def Anchored (m : Model) : Prop :=
  ∀ index, m.Names index → m.links.containsKey index = true

/-- What a model may hold that names an interface. -/
inductive Fact
  | address (a : InterfaceAddress)
  | linkRoute (r : Route)
  | default (family : Family) (r : Route)

/-- The interface that a fact names; a route may leave it open. -/
def Fact.link? : Fact → Option LinkIndex
  | .address a => some a.index
  | .linkRoute r => r.oif
  | .default _ r => r.oif

def Holds (m : Model) : Fact → Prop
  | .address a => a ∈ m.addresses
  | .linkRoute r => r ∈ m.linkRoutes
  | .default family r => r ∈ m.defaults.get family

variable {m n o : Model} {index : LinkIndex} {fact : Fact}

theorem names_iff : m.Names index ↔ ∃ fact, m.Holds fact ∧ fact.link? = some index := by
  constructor
  · intro named
    cases named with
    | address a member onIndex => exact ⟨.address a, member, congrArg some onIndex⟩
    | linkRoute r member through => exact ⟨.linkRoute r, member, through⟩
    | default family r member through => exact ⟨.default family r, member, through⟩
  · rintro ⟨fact, held, named⟩
    cases fact with
    | address a => exact .address a held (Option.some.inj named)
    | linkRoute r => exact .linkRoute r held named
    | default family r => exact .default family r held named

theorem Names.mono
    (named : n.Names index) (addresses : ∀ a ∈ n.addresses, a ∈ m.addresses)
    (linkRoutes : ∀ r ∈ n.linkRoutes, r ∈ m.linkRoutes)
    (defaults : ∀ family, ∀ r ∈ n.defaults.get family, r ∈ m.defaults.get family) :
    m.Names index := by
  cases named with
  | address a member onIndex => exact .address a (addresses a member) onIndex
  | linkRoute r member through => exact .linkRoute r (linkRoutes r member) through
  | default family r member through => exact .default family r (defaults family r member) through

theorem anchored_empty (table : UInt32) : (empty table).Anchored := by
  intro index named
  cases named with
  | address a member => exact absurd member (KeyedSet.not_mem_empty a)
  | linkRoute r member => exact absurd member (KeyedSet.not_mem_empty r)
  | default family r member =>
      rw [empty, PerFamily.get_both] at member
      exact absurd member (KeyedSet.not_mem_empty r)

/-! ## Changes add nothing that hangs in the air -/

/-- Whatever the model holds of an interface that it does not know, it has from the other model,
which did not know the interface either. -/
def InheritsFrom (n m : Model) : Prop :=
  ∀ fact, n.Holds fact → ∀ index ∈ fact.link?,
    n.links.containsKey index = true ∨ m.Holds fact ∧ m.links.containsKey index = false

theorem InheritsFrom.trans (later : o.InheritsFrom n) (first : n.InheritsFrom m) :
    o.InheritsFrom m := by
  intro fact held index named
  rcases later fact held index named with known | ⟨before, unknown⟩
  · exact .inl known
  · rcases first fact before index named with known | inherited
    · rw [known] at unknown
      cases unknown
    · exact .inr inherited

theorem InheritsFrom.anchored (inherits : n.InheritsFrom m) (anchored : m.Anchored) :
    n.Anchored := by
  intro index named
  obtain ⟨fact, held, named⟩ := names_iff.1 named
  rcases inherits fact held index named with known | ⟨before, unknown⟩
  · exact known
  · rw [anchored index (names_iff.2 ⟨fact, before, named⟩)] at unknown
    cases unknown

/-- A change that forgets no interface hands down what was there, and what is new must name
interfaces that are known then. -/
theorem inheritsFrom_of_grown
    (grown : ∀ index, m.links.containsKey index = true → n.links.containsKey index = true)
    (added : ∀ fact, n.Holds fact →
      m.Holds fact ∨ ∀ index ∈ fact.link?, n.links.containsKey index = true) :
    n.InheritsFrom m := by
  intro fact held index named
  rcases added fact held with before | known
  · cases knew : m.links.containsKey index with
    | true => exact .inl (grown index knew)
    | false => exact .inr ⟨before, rfl⟩
  · exact .inl (known index named)

/-- So does a change that leaves the interfaces alone and adds nothing. -/
theorem inheritsFrom_of_subset (sameLinks : n.links = m.links)
    (part : ∀ fact, n.Holds fact → m.Holds fact) : n.InheritsFrom m :=
  inheritsFrom_of_grown (fun _ known => sameLinks ▸ known) fun fact held => .inl (part fact held)

theorem InheritsFrom.refl (m : Model) : m.InheritsFrom m :=
  inheritsFrom_of_subset rfl fun _ held => held

theorem containsKey_insert_of_containsKey
    (link : Link) (known : m.links.containsKey index = true) :
    (m.links.insert link).containsKey index = true := by
  simp only [KeyedSet.containsKey, KeyedSet.find?_insert] at known ⊢
  split
  · rfl
  · exact known

theorem inheritsFrom_putLink (m : Model) (link : Link) : (m.putLink link).1.InheritsFrom m :=
  inheritsFrom_of_grown (fun _ known => containsKey_insert_of_containsKey link known)
    fun fact held => .inl (by cases fact <;> exact held)

/-- Only routes through other interfaces are left. -/
theorem holds_of_holds_flushRoutesOn (held : (m.flushRoutesOn index).Holds fact) :
    m.Holds fact := by
  cases fact with
  | address a => exact held
  | linkRoute r => exact (KeyedSet.mem_filter.1 held).1
  | default family r =>
      rw [Holds, flushRoutesOn, PerFamily.get_map, KeyedSet.mem_filter] at held
      exact held.1

theorem inheritsFrom_flushRoutesOn (m : Model) (index : LinkIndex) :
    (m.flushRoutesOn index).InheritsFrom m :=
  inheritsFrom_of_subset rfl fun _ held => holds_of_holds_flushRoutesOn held

theorem inheritsFrom_ensureLink (m : Model) (index : LinkIndex) :
    (m.ensureLink index).InheritsFrom m := by
  unfold ensureLink
  split
  · exact .refl m
  · exact inheritsFrom_putLink m (.placeholder index)

theorem containsKey_ensureLink (m : Model) (index : LinkIndex) :
    (m.ensureLink index).links.containsKey index = true := by
  unfold ensureLink
  split
  · assumption
  · exact KeyedSet.containsKey_iff.2 ⟨_, KeyedSet.mem_insert.2 (.inl rfl), rfl⟩

theorem inheritsFrom_ensureOif (m : Model) (route : Route) :
    (m.ensureOif route).InheritsFrom m := by
  unfold ensureOif
  split
  · exact inheritsFrom_ensureLink m _
  · exact .refl m

theorem containsKey_ensureOif (m : Model) {route : Route} (through : route.oif = some index) :
    (m.ensureOif route).links.containsKey index = true := by
  simp only [ensureOif, through]
  exact containsKey_ensureLink m index

theorem inheritsFrom_noteLink (m : Model) (link : Link) :
    (m.noteLink link).1.InheritsFrom m := by
  have put := inheritsFrom_putLink m link
  simp only [noteLink]
  split
  · exact (inheritsFrom_flushRoutesOn _ _).trans put
  · exact put

theorem inheritsFrom_dropLink (m : Model) (dropped : LinkIndex) :
    (m.dropLink dropped).1.InheritsFrom m := by
  unfold dropLink
  split
  · intro fact held index named
    -- What is left names no interface but those that stay.
    have left : m.Holds fact ∧ index ≠ dropped := by
      cases fact with
      | address a =>
          obtain ⟨member, apart⟩ := KeyedSet.mem_filter.1 held
          obtain rfl : a.index = index := Option.some.inj named
          exact ⟨member, by simpa using apart⟩
      | linkRoute r =>
          obtain ⟨member, apart⟩ := KeyedSet.mem_filter.1 held
          have through : r.oif = some index := named
          exact ⟨member, by simpa [through] using apart⟩
      | default family r =>
          simp only [Holds, flushRoutesOn, PerFamily.get_map, KeyedSet.mem_filter] at held
          have through : r.oif = some index := named
          exact ⟨held.1, by simpa [through] using held.2⟩
    cases knew : m.links.containsKey index with
    | false => exact .inr ⟨left.1, rfl⟩
    | true =>
        obtain ⟨link, member, sameIndex⟩ := KeyedSet.containsKey_iff.1 knew
        refine .inl (KeyedSet.containsKey_iff.2 ⟨link, KeyedSet.mem_erase.2 ⟨member, ?_⟩,
          sameIndex⟩)
        rw [Ne, Std.compare_eq_iff_eq, sameIndex]
        exact left.2
  · exact .refl m

theorem inheritsFrom_addAddress (m : Model) (a : InterfaceAddress) :
    (m.addAddress a).1.InheritsFrom m := by
  have ensured := inheritsFrom_ensureLink m a.index
  refine InheritsFrom.trans ?_ ensured
  refine inheritsFrom_of_grown (fun _ known => known) fun fact held => ?_
  cases fact with
  | address b =>
      rcases KeyedSet.mem_insert_sorted.1 held with rfl | before
      · refine .inr fun index named => ?_
        obtain rfl : b.index = index := Option.some.inj named
        exact containsKey_ensureLink m b.index
      · exact .inl before
  | linkRoute r => exact .inl held
  | default family r => exact .inl held

theorem inheritsFrom_dropAddress (m : Model) (a : InterfaceAddress) :
    (m.dropAddress a).1.InheritsFrom m :=
  inheritsFrom_of_subset rfl fun fact held => by
    cases fact with
    | address b => exact (KeyedSet.mem_erase.1 held).1
    | linkRoute r => exact held
    | default family r => exact held

theorem inheritsFrom_addLinkRoute
    {route : Route} (replacing : Bool)
    (known : ∀ oif ∈ route.oif, m.links.containsKey oif = true) :
    (m.addLinkRoute route replacing).1.InheritsFrom m := by
  unfold addLinkRoute
  split
  · exact .refl m
  · refine inheritsFrom_of_grown (fun _ known => known) fun fact held => ?_
    cases fact with
    | address a => exact .inl held
    | linkRoute r =>
        rcases KeyedSet.mem_insert_sorted.1 held with rfl | kept
        · exact .inr known
        · refine .inl ?_
          split at kept
          · exact (KeyedSet.mem_filter.1 kept).1
          · exact kept
    | default family r => exact .inl held

theorem inheritsFrom_addDefaultRoute
    {route : Route} (replacing : Bool)
    (known : ∀ oif ∈ route.oif, m.links.containsKey oif = true) :
    (m.addDefaultRoute route replacing).1.InheritsFrom m := by
  unfold addDefaultRoute
  split
  · exact .refl m
  · simp only
    split
    · exact .refl m
    · refine inheritsFrom_of_grown (fun _ known => known) fun fact held => ?_
      cases fact with
      | address a => exact .inl held
      | linkRoute r => exact .inl held
      | default family r =>
          by_cases ours : family = route.family
          · subst ours
            simp only [Holds, PerFamily.get_set_self, KeyedSet.mem_insert_sorted] at held
            rcases held with rfl | kept
            · exact .inr known
            · refine .inl ?_
              split at kept
              · exact (KeyedSet.mem_filter.1 kept).1
              · exact kept
          · simp only [Holds, PerFamily.get_set_of_ne _ ours] at held
            exact .inl held

theorem inheritsFrom_addRoute (m : Model) (route : Route) (replacing : Bool) :
    (m.addRoute route replacing).1.InheritsFrom m := by
  have ensured := inheritsFrom_ensureOif m route
  have known : ∀ oif ∈ route.oif, (m.ensureOif route).links.containsKey oif = true :=
    fun _ through => containsKey_ensureOif m through
  simp only [addRoute]
  split
  · exact (inheritsFrom_addDefaultRoute replacing known).trans ensured
  · exact (inheritsFrom_addLinkRoute replacing known).trans ensured

theorem inheritsFrom_dropRoute (m : Model) (route : Route) :
    (m.dropRoute route).1.InheritsFrom m := by
  unfold dropRoute
  split
  · refine inheritsFrom_of_subset rfl fun fact held => ?_
    cases fact with
    | address a => exact held
    | linkRoute r => exact (KeyedSet.mem_erase.1 held).1
    | default family r => exact held
  · split
    · exact .refl m
    · refine inheritsFrom_of_subset rfl fun fact held => ?_
      cases fact with
      | address a => exact held
      | linkRoute r => exact held
      | default family r =>
          by_cases ours : family = route.family
          · subst ours
            simp only [Holds, PerFamily.get_set_self, KeyedSet.mem_filter] at held
            exact held.1
          · simpa only [Holds, PerFamily.get_set_of_ne _ ours] using held

theorem inheritsFrom_apply (m : Model) (event : Event) : (m.apply event).1.InheritsFrom m := by
  cases event with
  | linkAdd link => exact inheritsFrom_noteLink m link
  | linkUp link => exact inheritsFrom_noteLink m link
  | linkDown link => exact inheritsFrom_noteLink m link
  | linkDelete index => exact inheritsFrom_dropLink m index
  | addressAdd a => exact inheritsFrom_addAddress m a
  | addressDelete a => exact inheritsFrom_dropAddress m a
  | routeAdd route => exact inheritsFrom_addRoute m route false
  | routeChange route => exact inheritsFrom_addRoute m route true
  | routeDelete route => exact inheritsFrom_dropRoute m route

/-! ## A snapshot makes known all that it names -/

theorem anchored_ofSnapshot (table : UInt32) (s : Snapshot) : (ofSnapshot table s).Anchored := by
  have links : (s.links.foldl (fun m link => (m.putLink link).1) (empty table)).Anchored :=
    List.foldlRecOn _ _ (anchored_empty table) fun m anchored link _ =>
      (inheritsFrom_putLink m link).anchored anchored
  have addresses := List.foldlRecOn s.addresses (fun m a => (m.addAddress a).1) links
    fun m anchored a _ => (inheritsFrom_addAddress m a).anchored anchored
  exact List.foldlRecOn s.routes (fun m route => (m.addRoute route false).1) addresses
    fun m anchored route _ => (inheritsFrom_addRoute m route false).anchored anchored

theorem anchored_replaceFacts (m : Model) (s : Snapshot) : (m.replaceFacts s).1.Anchored :=
  fun index named =>
    anchored_ofSnapshot m.table s index <|
      named.mono (fun _ member => member) (fun _ member => member) fun _ _ member => member

end DefaultGateway.Model
