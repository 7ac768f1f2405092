import DefaultGateway.Proofs.Replay

/-!
# What counts as a change

An event changes the model the first time at most: told again it finds everything as it says, and no
change is reported. What an event does beyond its report is to make a place for an interface that
nobody has heard of. There is one exception. A route that is put in the place of another, and is not
a default route, counts as a change even where it has been there before, however often it is told.
-/

namespace DefaultGateway

/-- Whether an event puts a route in the place of another among the link routes. -/
def Event.replacesLinkRoute : Event → Bool
  | .routeChange route => isLinkRoute route
  | _ => false

namespace Model

variable {m : Model} {route : Route} {replacing : Bool} {event : Event}

/-- The model with a place for the interface that an addition names. -/
def expecting (m : Model) : Event → Model
  | .addressAdd a => m.ensureLink a.index
  | .routeAdd route | .routeChange route => m.ensureOif route
  | _ => m

/-! ## Default routes that are there, and that are gone -/

/-- A default route that is known through an interface that is known is no change. -/
theorem addRoute_of_known
    (isDefault : route.isDefault = true)
    (known : ∀ oif ∈ route.oif, m.links.containsKey oif = true)
    (there : route.table = m.table → route ∈ m.defaults.get route.family) (replacing : Bool) :
    m.addRoute route replacing = (m, false) := by
  simp only [addRoute, ensureOif_eq_self known, isDefault, if_true, addDefaultRoute]
  by_cases sameTable : route.table = m.table
  · rw [if_neg (not_not_intro sameTable), if_pos (there sameTable)]
  · rw [if_pos sameTable]

/-- The deletion of a default route is no change where no route fits its description. -/
theorem dropRoute_of_gone
    (isDefault : route.isDefault = true)
    (gone : ∀ other ∈ m.defaults.get route.family, deletes route other = false) :
    m.dropRoute route = (m, false) := by
  have kept :
      (m.defaults.get route.family).filter (!deletes route ·) = m.defaults.get route.family :=
    KeyedSet.filter_eq_self fun other member => by rw [gone other member]; rfl
  rw [dropRoute, if_neg (by simp [isDefault])]
  split
  · rfl
  · simp only [kept, PerFamily.set_get, bne_self_eq_false]

/-! ## Events told again -/

theorem noteLink_again (m : Model) (link : Link) :
    (m.noteLink link).1.noteLink link = ((m.noteLink link).1, false) := by
  have known : (m.noteLink link).1.link? link.index = some link := by
    rw [link?, (links_noteLink m link).1, KeyedSet.find?_insert, if_pos rfl]
  generalize (m.noteLink link).1 = n at known
  have unchanged : (n.noteLink link).2 = false := by simp [noteLink, putLink, known]
  exact Prod.ext (noteLink_eq_of_unchanged unchanged) unchanged

theorem dropLink_again (m : Model) (index : LinkIndex) :
    (m.dropLink index).1.dropLink index = ((m.dropLink index).1, false) := by
  have missing : ¬ (m.dropLink index).1.links.containsKey index = true := by
    rw [dropLink]
    split
    · simp [flushRoutesOn, KeyedSet.containsKey, KeyedSet.find?_erase]
    · assumption
  exact if_neg missing

theorem addAddress_again (m : Model) (a : InterfaceAddress) :
    (m.addAddress a).1.addAddress a = ((m.addAddress a).1, false) := by
  have member : a ∈ (m.addAddress a).1.addresses := KeyedSet.mem_insert_sorted.2 (.inl rfl)
  have known : (m.addAddress a).1.links.containsKey a.index = true :=
    containsKey_ensureLink m a.index
  generalize (m.addAddress a).1 = n at member known
  have ensured : n.ensureLink a.index = n := if_pos known
  simp only [addAddress, ensured, KeyedSet.insert_of_mem member, member, not_true_eq_false,
    decide_false]

theorem dropAddress_again (m : Model) (a : InterfaceAddress) :
    (m.dropAddress a).1.dropAddress a = ((m.dropAddress a).1, false) := by
  have missing : a ∉ (m.dropAddress a).1.addresses := fun member =>
    (KeyedSet.mem_erase_sorted.1 member).2 rfl
  generalize (m.dropAddress a).1 = n at missing
  simp only [dropAddress, KeyedSet.erase_of_not_mem missing, missing, decide_false]

/-- A link route that takes the place of another does so again and again, and leaves what it has
left. -/
theorem addLinkRoute_again (m : Model) (route : Route) (replacing : Bool)
    (listed : Event.isLinkRoute route = true) :
    (m.addLinkRoute route replacing).1.addLinkRoute route replacing =
      ((m.addLinkRoute route replacing).1, replacing) := by
  have accepted : ¬ (route.oif.isNone || route.table == localTable) = true := by
    simp only [Event.isLinkRoute, Bool.and_eq_true, Bool.not_eq_true'] at listed
    simp [listed.2]
  simp only [addLinkRoute, if_neg accepted]
  cases replacing with
  | false =>
      have member : route ∈ m.linkRoutes.insert route := KeyedSet.mem_insert_sorted.2 (.inl rfl)
      simp only [Bool.false_eq_true, if_false, KeyedSet.insert_of_mem member, member,
        not_true_eq_false, decide_false]
  | true =>
      have same :
          ((m.linkRoutes.filter (!sameSlot · route)).insert route).filter (!sameSlot · route) =
            m.linkRoutes.filter (!sameSlot · route) := by
        apply KeyedSet.ext
        intro other
        simp only [KeyedSet.mem_filter, KeyedSet.mem_insert_sorted]
        constructor
        · rintro ⟨rfl | ⟨member, _⟩, apart⟩
          · simp [sameSlot] at apart
          · exact ⟨member, apart⟩
        · rintro ⟨member, apart⟩
          exact ⟨.inr ⟨member, apart⟩, apart⟩
      have pushedOut : route ∉ m.linkRoutes.filter (!sameSlot · route) := by simp [sameSlot]
      simp only [if_true, same, pushedOut, not_false_eq_true, decide_true]

/-- A default route of the managed table that has been recorded is there. -/
theorem mem_defaults_addRoute
    (isDefault : route.isDefault = true) (sameTable : route.table = m.table) (replacing : Bool) :
    route ∈ (m.addRoute route replacing).1.defaults.get route.family := by
  simp only [addRoute, ensureOif_eq, isDefault, if_true, addDefaultRoute, sameTable, ne_eq,
    not_true_eq_false, if_false]
  split
  · assumption
  · rw [PerFamily.get_set_self]
    exact KeyedSet.mem_insert_sorted.2 (.inl rfl)

theorem addRoute_again (m : Model) (route : Route) (replacing : Bool) :
    (m.addRoute route replacing).1.addRoute route replacing =
      ((m.addRoute route replacing).1, replacing && Event.isLinkRoute route) := by
  have table : (m.addRoute route replacing).1.table = m.table :=
    (updatesFacts_addRoute m route replacing).table
  have known : ∀ oif ∈ route.oif, (m.addRoute route replacing).1.links.containsKey oif = true := by
    intro oif through
    rw [(links_addRoute m route replacing).1]
    exact containsKey_ensureOif m through
  cases isDefault : route.isDefault with
  | true =>
      rw [addRoute_of_known isDefault known
          (fun sameTable => mem_defaults_addRoute isDefault (sameTable.trans table) replacing),
        Event.isLinkRoute, isDefault]
      simp
  | false =>
      generalize added : (m.addRoute route replacing).1 = n at known
      have second : n.addRoute route replacing = n.addLinkRoute route replacing := by
        simp only [addRoute, ensureOif_eq_self known, isDefault, Bool.false_eq_true, if_false]
      have first : ((m.ensureOif route).addLinkRoute route replacing).1 = n := by
        simpa only [addRoute, isDefault, Bool.false_eq_true, if_false] using added
      rw [second]
      cases listed : Event.isLinkRoute route with
      | true =>
          rw [← first, addLinkRoute_again _ _ _ listed, Bool.and_true]
      | false =>
          have refused : (route.oif.isNone || route.table == localTable) = true := by
            rw [Event.isLinkRoute, isDefault] at listed
            simpa only [Bool.not_false, Bool.true_and, Bool.not_eq_false'] using listed
          rw [addLinkRoute, if_pos refused, Bool.and_false]

theorem dropRoute_again (m : Model) (route : Route) :
    (m.dropRoute route).1.dropRoute route = ((m.dropRoute route).1, false) := by
  have table : (m.dropRoute route).1.table = m.table := (updatesFacts_dropRoute m route).table
  cases isDefault : route.isDefault with
  | true =>
      by_cases sameTable : route.table = m.table
      · refine dropRoute_of_gone isDefault fun other member => ?_
        rw [defaults_dropRoute, if_pos (Route.isManaged_iff.2 ⟨isDefault, rfl, sameTable⟩),
          KeyedSet.mem_filter] at member
        simpa using member.2
      · have untouched (n : Model) (elsewhere : route.table ≠ n.table) :
            n.dropRoute route = (n, false) := by
          simp [dropRoute, isDefault, elsewhere]
        exact untouched _ (table ▸ sameTable)
  | false =>
      have missing : route ∉ (m.dropRoute route).1.linkRoutes := by
        simp [dropRoute, isDefault, KeyedSet.mem_erase_sorted]
      generalize (m.dropRoute route).1 = n at missing
      simp only [dropRoute, isDefault, Bool.not_false, if_true,
        KeyedSet.erase_of_not_mem missing, missing, decide_false]

theorem apply_again (m : Model) (event : Event) :
    (m.apply event).1.apply event = ((m.apply event).1, event.replacesLinkRoute) := by
  cases event with
  | linkAdd link => exact noteLink_again m link
  | linkUp link => exact noteLink_again m link
  | linkDown link => exact noteLink_again m link
  | linkDelete index => exact dropLink_again m index
  | addressAdd a => exact addAddress_again m a
  | addressDelete a => exact dropAddress_again m a
  | routeAdd route => exact addRoute_again m route false
  | routeChange route => exact addRoute_again m route true
  | routeDelete route => exact dropRoute_again m route

/-! ## Reports -/

theorem addRoute_of_unchanged
    (unchanged : (m.addRoute route replacing).2 = false) :
    (m.addRoute route replacing).1 = m.ensureOif route := by
  simp only [addRoute] at unchanged ⊢
  split
  · rename_i isDefault
    rw [if_pos isDefault] at unchanged
    unfold addDefaultRoute at unchanged ⊢
    split
    · rfl
    · rename_i sameTable
      rw [if_neg sameTable] at unchanged
      simp only at unchanged ⊢
      split
      · rfl
      · rename_i missing
        rw [if_neg missing] at unchanged
        cases unchanged
  · rename_i isLinkRoute
    rw [if_neg isLinkRoute] at unchanged
    unfold addLinkRoute at unchanged ⊢
    split
    · rfl
    · rename_i listed
      rw [if_neg listed] at unchanged
      cases replacing with
      | true => simp [sameSlot] at unchanged
      | false =>
          have member : route ∈ (m.ensureOif route).linkRoutes := by simpa using unchanged
          simp only [Bool.false_eq_true, if_false, KeyedSet.insert_of_mem member]

theorem dropRoute_of_unchanged (unchanged : (m.dropRoute route).2 = false) :
    (m.dropRoute route).1 = m := by
  unfold dropRoute at unchanged ⊢
  split
  · rename_i isLinkRoute
    rw [if_pos isLinkRoute] at unchanged
    rw [KeyedSet.erase_of_not_mem (by simpa using unchanged)]
  · rename_i isDefault
    rw [if_neg isDefault] at unchanged
    split
    · rfl
    · rename_i sameTable
      rw [if_neg sameTable] at unchanged
      simp only [bne_eq_false_iff_eq] at unchanged ⊢
      rw [KeyedSet.filter_eq_self_of_size_eq unchanged, PerFamily.set_get]

/-- Where no change is reported there is at most a place for one more interface. -/
theorem apply_of_unchanged (unchanged : (m.apply event).2 = false) :
    (m.apply event).1 = m.expecting event := by
  cases event with
  | linkAdd link => exact noteLink_eq_of_unchanged unchanged
  | linkUp link => exact noteLink_eq_of_unchanged unchanged
  | linkDown link => exact noteLink_eq_of_unchanged unchanged
  | linkDelete index => exact dropLink_eq_of_unchanged unchanged
  | addressAdd a =>
      have member : a ∈ (m.ensureLink a.index).addresses := by
        simpa [apply, applyAddressEvent, addAddress] using unchanged
      simp only [apply, applyAddressEvent, addAddress, expecting, KeyedSet.insert_of_mem member]
  | addressDelete a =>
      have missing : a ∉ m.addresses := by
        simpa [apply, applyAddressEvent, dropAddress] using unchanged
      simp only [apply, applyAddressEvent, dropAddress, KeyedSet.erase_of_not_mem missing,
        expecting]
  | routeAdd route => exact addRoute_of_unchanged unchanged
  | routeChange route => exact addRoute_of_unchanged unchanged
  | routeDelete route => exact dropRoute_of_unchanged unchanged

/-- The place that an event makes is there when the event is told on top of it. -/
theorem apply_expecting (m : Model) (event : Event) :
    (m.expecting event).apply event = m.apply event := by
  have ensured (route : Route) : (m.ensureOif route).ensureOif route = m.ensureOif route :=
    ensureOif_eq_self fun _ through => containsKey_ensureOif m through
  cases event with
  | addressAdd a =>
      have known : (m.ensureLink a.index).ensureLink a.index = m.ensureLink a.index :=
        if_pos (containsKey_ensureLink m a.index)
      simp only [expecting, apply, applyAddressEvent, addAddress, known]
  | routeAdd route => simp only [expecting, apply, applyRouteEvent, addRoute, ensured]
  | routeChange route => simp only [expecting, apply, applyRouteEvent, addRoute, ensured]
  | _ => rfl

theorem eq_of_updatesFacts
    {n : Model} (updated : UpdatesFacts m n) (same : n.sameFacts m = true) : n = m := by
  rw [eq_withRegistry_of_sameFacts updated.table same, withRegistry, updated.candidates,
    updated.disabled]

/-- An event that leaves a model with a place for its interface as it was reports a change only if
it replaces a link route. -/
theorem report_of_apply_eq_expecting (same : (m.apply event).1 = m.expecting event) :
    (m.apply event).2 = event.replacesLinkRoute := by
  have again := apply_again m event
  rw [same, apply_expecting] at again
  rw [again]

/-- A link route that replaces is always reported. -/
theorem report_of_replacesLinkRoute (replaces : event.replacesLinkRoute = true) :
    (m.apply event).2 = true := by
  cases event with
  | routeChange route =>
      have listed : Event.isLinkRoute route = true := replaces
      simp only [Event.isLinkRoute, Bool.and_eq_true, Bool.not_eq_true'] at listed
      simp [apply, applyRouteEvent, addRoute, addLinkRoute, listed, sameSlot]
  | _ => cases replaces

/-- An event is reported exactly if it does more than to make a place for its interface, or
replaces a link route. Where one that does not is reported, the facts differ from before. Told
again, an event changes nothing, and is reported only if it replaces a link route. -/
theorem report_iff (m : Model) (event : Event) :
    ((m.apply event).2 = true ↔
        event.replacesLinkRoute = true ∨ (m.apply event).1 ≠ m.expecting event) ∧
      ((m.apply event).2 = true →
        event.replacesLinkRoute = true ∨ (m.apply event).1.sameFacts m = false) ∧
      (m.apply event).1.apply event = ((m.apply event).1, event.replacesLinkRoute) := by
  refine ⟨⟨fun reported => ?_, ?_⟩, fun reported => ?_, apply_again m event⟩
  · by_cases same : (m.apply event).1 = m.expecting event
    · exact .inl (report_of_apply_eq_expecting same ▸ reported)
    · exact .inr same
  · rintro (replaces | differs)
    · exact report_of_replacesLinkRoute replaces
    · cases report : (m.apply event).2 with
      | true => rfl
      | false => exact absurd (apply_of_unchanged report) differs
  · cases same : (m.apply event).1.sameFacts m with
    | false => exact .inr rfl
    | true =>
        -- What the event has left is what it has found, so to find it again is to be told again.
        have again := apply_again m event
        rw [eq_of_updatesFacts (updatesFacts_apply m event) same] at again
        exact .inl (by rw [again] at reported; exact reported)

/-- The first change of a route to a neighbourhood is none, for the route is there already, and
neither is the second. Both are reported. -/
theorem replacement_reported_again :
    let neighbourhood : Route := ⟨⟨.v4 0x0a000000#32, 24, by decide⟩, none, some 2, 254, 0⟩
    let m := (((empty 254).apply (.linkUp ⟨2, some "eth0", true⟩)).1.apply
      (.routeAdd neighbourhood)).1
    m.linkRoutes.toList = [neighbourhood] ∧
      m.apply (.routeAdd neighbourhood) = (m, false) ∧
        m.apply (.routeChange neighbourhood) = (m, true) ∧
          (m.apply (.routeChange neighbourhood)).1.apply (.routeChange neighbourhood) =
            (m, true) := by
  decide +kernel

end Model

end DefaultGateway
