import DefaultGateway.Proofs.Calm
import DefaultGateway.Proofs.StoreEdits
import DefaultGateway.Proofs.VersionOrder

/-!
# What the registrar makes of a store

The store checks a gateway when it is added, and the registrar checks it again when it is carried
over. The registrar asks more: it wants a name that an interface can have, and an address that
belongs to one host. What it does not accept is counted as rejected and leaves no trace, so a new
engine ends up with the candidates of exactly the gateways that pass both.
-/

namespace DefaultGateway

variable {σ : Type}

/-! ## What the store has checked -/

theorem Store.addFault?_eq_none_iff
    {key : Candidate.Key} {address : Address} {source : Option Address} :
    addFault? key address source = none ↔
      key.interface.isEmpty = false ∧ key.family.contains address = true ∧
        ∀ a ∈ source, key.family.contains a = true := by
  unfold addFault?
  cases key.family.contains address with
  | false => simp
  | true =>
      cases key.interface.isEmpty with
      | true => split <;> simp
      | false => cases source <;> simp

/-- What a gateway that the store has checked may still lack. -/
theorem StoredGateway.accepted_iff
    {g : StoredGateway} (sound : Store.addFault? g.key g.address g.source = none) :
    g.Accepted ↔
      Registration.isInterfaceName g.link = true ∧
        g.address.isUnspecified = false ∧ g.address.isMulticast = false := by
  obtain ⟨-, address, source⟩ := Store.addFault?_eq_none_iff.1 sound
  rw [Accepted, Registration.fault?_eq_none_iff]
  constructor
  · rintro ⟨name, -, specified, unicast, -⟩
    exact ⟨name, specified, unicast⟩
  · rintro ⟨name, specified, unicast⟩
    exact ⟨name, address, specified, unicast, source⟩

namespace Store

/-- No key occurs twice, and every gateway would be let in again. -/
structure Checked (s : Store) : Prop where
  keys : (s.gateways.map StoredGateway.key).Nodup
  sound : ∀ g ∈ s.gateways, addFault? g.key g.address g.source = none

variable {s : Store}

theorem checked_empty : Checked {} where
  keys := .nil
  sound _ member := absurd member List.not_mem_nil

theorem Checked.edit (checked : s.Checked) (e : Edit) : (s.edit e).Checked := by
  cases e with
  | disable selector => exact ⟨checked.keys, checked.sound⟩
  | enable selector => exact ⟨checked.keys, checked.sound⟩
  | remove selector =>
      exact {
        keys := checked.keys.sublist (List.filter_sublist.map _)
        sound := fun g member => checked.sound g (List.mem_of_mem_filter member) }
  | add now key address source =>
      rw [Store.edit]
      cases ended : s.add now key address source with
      | error error => exact checked
      | ok done =>
          refine ⟨nodup_keys_of_add checked.keys ended, fun g member => ?_⟩
          rcases List.mem_cons.1 ((gateways_of_add ended).mem_iff.1 member) with rfl | kept
          · exact sound_of_add ended
          · exact checked.sound g (List.mem_of_mem_filter kept)

theorem checked_editAll (edits : List Edit) : (({} : Store).editAll edits).Checked :=
  List.foldlRecOn edits _ checked_empty fun _ checked e _ => checked.edit e

end Store

/-! ## What a connected engine does -/

namespace RouteChannel.Connected

variable [RouteChannel σ] {P : σ → Prop} {failure : Error → Prop}
variable (connected : Connected P failure)

open Engine

include connected

theorem within_outcome (turn : Turn σ) (held : P turn.engine.channel) :
    match turn.outcome with
    | (.ok _, after) => P after.channel
    | (.error error, after) => P after.channel ∧ failure error := by
  have later := connected.within_reconcile turn.decision turn.engine.toManaged held
  cases ended : (Reconciler.reconcile turn.decision).runFrom turn.engine.toManaged with
  | mk outcome t =>
      rw [ended] at later
      rw [Turn.outcome_of_reconcile ended]
      cases outcome with
      | ok report => exact later
      | error error => exact later

theorem within_reevaluate (families : List Family) :
    Step.Within (fun e : Engine σ => P e.channel) failure (reevaluate families) := by
  induction families with
  | nil => exact .pure []
  | cons family rest inductionHypothesis =>
      intro e held
      have later := connected.within_outcome ⟨family, e⟩ held
      rw [runFrom_reevaluate_cons]
      cases ended : (Turn.mk family e).outcome with
      | mk outcome after =>
          rw [ended] at later
          cases outcome with
          | ok report => exact inductionHypothesis.bind (fun _ => .pure _) after later
          | error error => exact later

theorem within_putCandidate
    (key : Candidate.Key) (gateway : Address) (source : Option Address) :
    Step.Within (fun e : Engine σ => P e.channel) failure (putCandidate key gateway source) := by
  intro e held
  rw [runFrom_putCandidate]
  exact (connected.within_reevaluate [key.family]).bind (fun _ => .pure _)
    (e.entered (e.freshCandidate key gateway source)) held

theorem within_setDisabled (disabled : SortedSet Selector) :
    Step.Within (fun e : Engine σ => P e.channel) failure (setDisabled disabled) := by
  intro e held
  rw [runFrom_setDisabled]
  exact connected.within_reevaluate _ { e with model := (e.model.setDisabled disabled).1 } held

end RouteChannel.Connected

/-! ## What is registered -/

/-- The summary once the gateways of a list that are accepted have been registered, and the others
rejected. -/
def SyncSummary.admitting (summary : SyncSummary) (l : List StoredGateway) : SyncSummary :=
  { summary with
    registered := summary.registered + l.countP (·.Accepted)
    rejected := summary.rejected + l.countP (¬·.Accepted) }

theorem SyncSummary.admitting_of_accepted
    (summary : SyncSummary) {g : StoredGateway} (accepted : g.Accepted) (l : List StoredGateway) :
    (summary.add .registered).admitting l = summary.admitting (g :: l) := by
  simp [admitting, add, accepted, Nat.add_assoc, Nat.add_comm 1]

theorem SyncSummary.admitting_of_refused
    (summary : SyncSummary) {g : StoredGateway} (refused : ¬g.Accepted) (l : List StoredGateway) :
    (summary.add .rejected).admitting l = summary.admitting (g :: l) := by
  simp [admitting, add, refused, Nat.add_assoc, Nat.add_comm 1]

namespace Synced

/-! ### The first sync -/

theorem find?_new (e : Engine σ) (key : Candidate.Key) : (new e).applied.find? key = none := rfl

theorem changed_new_perm
    (e : Engine σ) {store : Store} (distinct : (store.gateways.map StoredGateway.key).Nodup) :
    ((new e).changed store).Perm store.gateways := by
  have all : store.gateways.filter (!(new e).holds ·) = store.gateways :=
    List.filter_eq_self.2 fun _ _ => rfl
  have perm := changed_perm (s := new e) distinct
  rwa [all] at perm

/-- Where nothing is remembered, nothing has vanished. -/
theorem runFrom_apply_new [RouteChannel σ] (store : Store) (e : Engine σ) :
    (apply store).runFrom (new e) =
      (countAll registerChanged {} ((new e).changed store) >>= fun summary =>
        onEngine (Engine.setDisabled store.disabled) >>= fun _ => pure summary).runFrom
          (new e) := by
  have vanished : (new e).vanished store = [] := rfl
  rw [apply, Step.runFrom_bind_of_ok (Step.runFrom_get _), vanished, countAll, pure_bind,
    Step.runFrom_bind_of_ok (Step.runFrom_get _)]

/-- An engine that was new has the candidates of the gateways taken in, and no others. -/
theorem TakesAll.candidates_of_new
    {e : Engine σ} {t : Synced σ} {l : List StoredGateway} (takes : TakesAll l (new e) t)
    (faithful : (new e).Faithful) (distinct : (l.map StoredGateway.key).Nodup) :
    (∀ g ∈ l, ∃ version,
      t.engine.model.candidate? g.key = some { g.candidate with version := version }) ∧
      ∀ key, (∀ g ∈ l, g.key ≠ key) → t.engine.model.candidate? key = none := by
  have remembered := (takes.faithful faithful).candidates
  constructor
  · intro g member
    obtain ⟨i, listed⟩ := List.mem_iff_getElem?.1 member
    rw [remembered, takes.find? distinct listed]
    exact ⟨_, rfl⟩
  · intro key unlisted
    rw [remembered, (takes.apart unlisted).applied, find?_new]
    rfl

section Connected

variable [RouteChannel σ] {P : σ → Prop} {failure : Error → Prop} {s : Synced σ}
variable {l : List StoredGateway}

variable (connected : RouteChannel.Connected P failure)
variable (refusals : ∀ error, failure error → error.IsRefusal)

include connected refusals

/-- A gateway that is not remembered is registered if it is accepted, and passed over if not. -/
theorem admits_registerChanged
    (keyed : s.Keyed) (held : P s.engine.channel) {g : StoredGateway}
    (unknown : s.applied.find? g.key = none) :
    match (registerChanged g).runFrom s with
    | (.ok counted, t) =>
        P t.engine.channel ∧
          if g.Accepted then counted = .registered ∧ Takes g s t
          else counted = .rejected ∧ t = s
    | (.error error, _) => failure error := by
  have admitted := runFrom_registerChanged g s
  rw [unknown] at admitted
  by_cases accepted : g.Accepted
  · have put :
        s.admission g =
          (Engine.putCandidate g.key g.address g.source : Step (Engine σ) Registration) := by
      have passed : Registration.fault? g.key.family g.key.interface g.address g.source = none :=
        accepted
      rw [admission, unknown, Engine.register, passed]
    have later := connected.within_putCandidate g.key g.address g.source s.engine held
    rw [← put] at later
    cases ended : (s.admission g).runFrom s.engine with
    | mk outcome after =>
        rw [ended] at admitted later
        cases outcome with
        | ok registration =>
            rcases registerChanged_cases keyed admitted with ⟨takes, -⟩ | ⟨-, rejected⟩
            · rw [admitted]
              simp only [if_pos accepted]
              exact ⟨later, rfl, takes⟩
            · cases rejected _ rfl
        | error error =>
            obtain ⟨errno, refused⟩ := Option.isSome_iff_exists.1 (refusals error later.2)
            rw [admitted]
            cases error with
            | kernel operation errno => exact later.2
            | _ => cases refused
  · obtain ⟨fault, faulty⟩ := Option.ne_none_iff_exists'.1 accepted
    have refused :
        (s.admission g).runFrom s.engine = (.error fault.toError, s.engine) := by
      have passed : Registration.fault? g.key.family g.key.interface g.address g.source =
          some fault := faulty
      rw [admission, unknown, Engine.register, passed]
      rfl
    rw [admitted, refused, KeyedSet.erase_of_find?_eq_none unknown]
    simp only [if_neg accepted]
    exact ⟨held, rfl, rfl⟩

/-- Of gateways of different keys that are not remembered the accepted are taken in. -/
theorem admits_countAll
    (keyed : s.Keyed) (held : P s.engine.channel) (distinct : (l.map StoredGateway.key).Nodup)
    (unknown : ∀ g ∈ l, s.applied.find? g.key = none) (summary : SyncSummary) :
    match (countAll registerChanged summary l).runFrom s with
    | (.ok final, t) =>
        P t.engine.channel ∧ final = summary.admitting l ∧ TakesAll (l.filter (·.Accepted)) s t
    | (.error error, _) => failure error := by
  induction l generalizing s summary with
  | nil => exact ⟨held, rfl, .nil s⟩
  | cons g rest inductionHypothesis =>
      obtain ⟨apart, distinctRest⟩ := List.nodup_cons.1 distinct
      obtain ⟨unknownFirst, unknownRest⟩ := List.forall_mem_cons.1 unknown
      have first := admits_registerChanged connected refusals keyed held unknownFirst
      rw [countAll, Step.runFrom_bind]
      cases ended : (registerChanged g).runFrom s with
      | mk outcome t =>
          rw [ended] at first
          cases outcome with
          | error error => exact first
          | ok counted =>
              obtain ⟨heldThen, taken⟩ := first
              by_cases accepted : g.Accepted
              · rw [if_pos accepted] at taken
                obtain ⟨rfl, takes⟩ := taken
                have unknownThen : ∀ h ∈ rest, t.applied.find? h.key = none := by
                  intro h member
                  have other : h.key ≠ g.key := fun same =>
                    apart (same ▸ List.mem_map_of_mem member)
                  rw [(takes.apart other).applied, unknownRest h member]
                have later := inductionHypothesis (takes.keyed keyed) heldThen distinctRest
                  unknownThen (summary.add .registered)
                rw [summary.admitting_of_accepted accepted] at later
                dsimp only
                cases done :
                    (countAll registerChanged (summary.add .registered) rest).runFrom t with
                | mk outcome u =>
                    rw [done] at later
                    cases outcome with
                    | error error => exact later
                    | ok final =>
                        obtain ⟨heldAfter, count, takesRest⟩ := later
                        rw [List.filter_cons_of_pos (by simpa using accepted)]
                        exact ⟨heldAfter, count, .cons takes takesRest⟩
              · rw [if_neg accepted] at taken
                obtain ⟨rfl, rfl⟩ := taken
                rw [← summary.admitting_of_refused accepted,
                  List.filter_cons_of_neg (by simpa using accepted)]
                exact inductionHypothesis keyed held distinctRest unknownRest _

/-- A store that has been edited from nothing is carried over into a new engine. Unless reading the
routes again fails, the sync succeeds. It registers the gateways whose link has a name that an
interface can have and whose address belongs to one host, and no others: the others are counted as
rejected. -/
theorem registered_iff_accepted
    {channel : σ} (ready : P channel) (settings : EngineSettings) (policy : Policy)
    (edits : List Store.Edit) :
    let store := ({} : Store).editAll edits
    (∀ g ∈ store.gateways,
      (g.Accepted ↔
        Registration.isInterfaceName g.link = true ∧
          g.address.isUnspecified = false ∧ g.address.isMulticast = false)) ∧
      ((∃ error t,
        (apply store).runFrom (.new (Engine.new channel settings policy)) = (.error error, t) ∧
          failure error) ∨
      ∃ summary t,
        (apply store).runFrom (.new (Engine.new channel settings policy)) = (.ok summary, t) ∧
          summary =
            { registered := store.gateways.countP (·.Accepted)
              rejected := store.gateways.countP (¬·.Accepted) } ∧
          (∀ g ∈ store.gateways, g.Accepted →
            ∃ version,
              t.engine.model.candidate? g.key = some { g.candidate with version := version }) ∧
          ∀ key, (∀ g ∈ store.gateways, g.Accepted → g.key ≠ key) →
            t.engine.model.candidate? key = none) := by
  intro store
  have checked : store.Checked := Store.checked_editAll edits
  refine ⟨fun g member => StoredGateway.accepted_iff (checked.sound g member), ?_⟩
  have faithful : (new (Engine.new channel settings policy)).Faithful :=
    (mirrors_new channel settings policy).faithful
  have held : P (Engine.new channel settings policy).channel := ready
  generalize Engine.new channel settings policy = e at held faithful ⊢
  have perm := changed_new_perm e checked.keys
  have registered := admits_countAll connected refusals faithful.keyed held
    (nodup_keys_changed (new e) store) (fun g _ => find?_new e g.key) {}
  rw [runFrom_apply_new, Step.runFrom_bind]
  cases registration : (countAll registerChanged {} ((new e).changed store)).runFrom (new e) with
  | mk outcome t =>
      rw [registration] at registered
      cases outcome with
      | error error => exact .inl ⟨error, t, rfl, registered⟩
      | ok summary =>
          obtain ⟨heldThen, count, takes⟩ := registered
          have last := connected.within_setDisabled store.disabled t.engine heldThen
          obtain ⟨-, sameCandidates, -, -⟩ := state_disabling store.disabled t
          have listed :
              ∀ g, g ∈ ((new e).changed store).filter (·.Accepted) ↔
                g ∈ store.gateways ∧ g.Accepted := fun g => by
            rw [List.mem_filter, perm.mem_iff, decide_eq_true_iff]
          have distinct :
              ((((new e).changed store).filter (·.Accepted)).map StoredGateway.key).Nodup :=
            (nodup_keys_changed (new e) store).sublist (List.filter_sublist.map _)
          obtain ⟨present, absent⟩ := takes.candidates_of_new faithful distinct
          dsimp only
          rw [Step.runFrom_bind]
          rw [onEngine, Step.runFrom_on] at sameCandidates ⊢
          cases disabling : (Engine.setDisabled store.disabled).runFrom t.engine with
          | mk outcome after =>
              rw [disabling] at last sameCandidates
              cases outcome with
              | error error => exact .inl ⟨error, _, rfl, last.2⟩
              | ok reports =>
                  refine .inr ⟨summary, _, rfl, ?_, fun g member accepted => ?_, ?_⟩
                  · rw [count, SyncSummary.admitting, perm.countP_eq, perm.countP_eq,
                      Nat.zero_add, Nat.zero_add]
                  · rw [Model.candidate?, sameCandidates]
                    exact present g ((listed g).2 ⟨member, accepted⟩)
                  · intro key unlisted
                    rw [Model.candidate?, sameCandidates]
                    exact absent key fun g member =>
                      unlisted g ((listed g).1 member).1 ((listed g).1 member).2

end Connected

/-- Gateways that the store lets in, two of them without an address of one host. -/
def mixed : List Store.Edit := [
  .add default ⟨.dhcp, "eth0", .inet⟩ (.v4 0x0a000001#32) none,
  .add default ⟨.static, "eth0", .inet⟩ (.v4 0x00000000#32) none,
  .add default ⟨.ra, "wlan0", .inet6⟩ (.v6 0xff020000000000000000000000000001#128) none]

theorem registered_iff_accepted_mixed :
    ∃ t,
      (apply (({} : Store).editAll mixed)).runFrom (.new (Engine.new Engine.twoUplinks {} {})) =
          (.ok { registered := 1, rejected := 2 }, t) ∧
        ∃ version,
          t.engine.model.candidate? ⟨.dhcp, "eth0", .inet⟩ =
            some ⟨.dhcp, .inet, "eth0", .v4 0x0a000001#32, none, version⟩ := by
  have faultFree : Engine.twoUplinks.FaultFree := ⟨by decide +kernel, by decide +kernel⟩
  have stored :
      (({} : Store).editAll mixed).gateways = [
        ⟨.inet, "eth0", .dhcp, .v4 0x0a000001#32, none, 1, default⟩,
        ⟨.inet6, "wlan0", .ra, .v6 0xff020000000000000000000000000001#128, none, 3, default⟩,
        ⟨.inet, "eth0", .static, .v4 0x00000000#32, none, 2, default⟩] := by
    simp only [Store.editAll, mixed, List.foldl_cons, List.foldl_nil, Store.edit, Store.add,
      Store.sortGateways_eq_insertionSort]
    decide +kernel
  obtain ⟨-, synced⟩ :=
    registered_iff_accepted Kernel.Session.FaultFree.connected (fun _ impossible => impossible.elim)
      faultFree {} {} mixed
  rcases synced with ⟨error, t, -, impossible⟩ | ⟨summary, t, ended, count, present, -⟩
  · exact impossible.elim
  · rw [stored] at count present
    have counts : summary = { registered := 1, rejected := 2 } := count.trans (by decide +kernel)
    rw [counts] at ended
    obtain ⟨version, known⟩ := present _ List.mem_cons_self (by decide +kernel)
    exact ⟨t, ended, version, known⟩

/-- The store lets a gateway in that the sync rejects, though nothing fails. -/
theorem let_in_but_rejected :
    Engine.twoUplinks.FaultFree ∧
      ∃ added store,
        ({} : Store).add default ⟨.static, "eth0/1", .inet⟩ (.v4 0x0a000001#32) none =
            .ok (added, store) ∧
          ((apply store).runFrom (.new (Engine.new Engine.twoUplinks {} {}))).1 =
            .ok { rejected := 1 } := by
  refine ⟨⟨by decide +kernel, by decide +kernel⟩,
    ⟨.inet, "eth0/1", .static, .v4 0x0a000001#32, none, 1, default⟩,
    { gateways := [⟨.inet, "eth0/1", .static, .v4 0x0a000001#32, none, 1, default⟩] }, ?_, ?_⟩
  · simp only [Store.add, Store.sortGateways_eq_insertionSort]
    decide +kernel
  · simp only [apply, changed_eq_insertionSort]
    decide +kernel

end Synced

end DefaultGateway
