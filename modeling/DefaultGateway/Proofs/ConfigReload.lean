import DefaultGateway.Proofs.Errors
import DefaultGateway.Recovery

/-!
# A new configuration

A configuration is read whole before anything is done with it, and one that is of no use is as if
there had been none. The rules of a sound one are the engine's from then on. The configuration has
them only when both families have been decided anew: if a request for that fails in such a way that
the reconciliation fails too, the engine goes by the new rules and the configuration by the old.
-/

namespace DefaultGateway

/-! ## Configurations that are read -/

namespace Config

/-- A configuration comes of a text only if it has rules, and no fault. -/
theorem sound_of_ofText {text : String} {c : Config} (read : ofText text = .ok c) :
    c.priority ≠ [] ∧ c.validate = .ok () := by
  unfold ofText at read
  split at read
  · cases read
  · rename_i written _
    by_cases ruleless : written.priority.isEmpty = true
    · rw [if_pos ruleless] at read
      cases read
    · rw [if_neg ruleless] at read
      cases checked : written.validate with
      | error error =>
          rw [checked] at read
          cases read
      | ok _ =>
          rw [checked] at read
          cases read
          exact ⟨by simpa using ruleless, checked⟩

/-- A file is loaded if it can be read, and a configuration comes of its text. -/
theorem load_eq_ok_iff {path : String} {host : Host} {c : Config} :
    ((load path).runFrom host).1 = .ok c ↔
      ∃ text, ((Host.read path).runFrom host).1 = .ok text ∧ ofText text = .ok c := by
  rw [load, Step.runFrom_bind_of_ok (Step.runFrom_attempt _ host)]
  cases ((Host.read path).runFrom host).1 with
  | error error => cases error <;> simp
  | ok text => cases written : ofText text <;> simp [written]

end Config

/-! ## Rules of an engine -/

namespace Engine

variable {σ : Type} [RouteChannel σ]

/-- No turn changes the rules. -/
theorem policy_reevaluate (families : List Family) (e : Engine σ) :
    ((reevaluate families).runFrom e).2.policy = e.policy :=
  (forall_turnsOf (P := fun after => after.policy = e.policy) (fun _ same => same) families rfl).2

/-- However the decisions go, the new rules are in force. -/
theorem policy_reloadPolicy (policy : Policy) (e : Engine σ) :
    ((reloadPolicy policy).runFrom e).2.policy = policy := by
  rw [runFrom_reloadPolicy]
  split
  · rename_i same
    exact same.symm
  · exact policy_reevaluate Family.all _

theorem sound_reloadPolicy (policy : Policy) :
    (reloadPolicy policy : Step (Engine σ) (List Report)).Sound σ := by
  rw [reloadPolicy]
  refine .bind (Step.sound_of_ok fun _ => ⟨_, rfl⟩) fun e => ?_
  split
  · exact .pure []
  · exact .bind (Step.sound_of_ok fun _ => ⟨_, rfl⟩) fun _ => sound_reevaluate Family.all

end Engine

namespace Configured

variable {σ : Type} [RouteChannel σ]

/-! ## Outcomes -/

theorem runFrom_reload_error (error : Error) (c : Configured σ) :
    (reload (.error error)).runFrom c = (.ok (), c) := rfl

/-- The configuration takes the rules over when the engine has dealt with them. -/
theorem runFrom_reload_ok (fresh : Config) (c : Configured σ) :
    (reload (.ok fresh)).runFrom c =
      match (Engine.reloadPolicy fresh.policy).runFrom c.engine with
      | (.ok _, engine) =>
          (.ok (), ⟨engine, { c.config with priority := fresh.priority }⟩)
      | (.error error, engine) => (.error error, ⟨engine, c.config⟩) := by
  rw [reload, Step.runFrom_bind, onEngine, Step.runFrom_on]
  cases (Engine.reloadPolicy fresh.policy).runFrom c.engine with
  | mk outcome engine =>
      cases outcome with
      | ok reports => rfl
      | error error => rfl

/-- The same with a record of its requests, of which there are none yet. -/
def onRecord (c : Configured σ) : Configured (Recorded σ) := ⟨c.engine.seen .fresh, c.config⟩

/-- The requests to the kernel that are put when a configuration is taken. -/
def requestsOn (loaded : Except Error Config) (c : Configured σ) : List Kernel.Request :=
  ((reload loaded).runFrom c.onRecord).2.engine.channel.log

/-- Rules that are in force already are taken over without a request. -/
theorem requestsOn_of_same {fresh : Config} {c : Configured σ}
    (same : fresh.policy = c.engine.policy) : requestsOn (.ok fresh) c = [] := by
  have unchanged : fresh.policy = c.onRecord.engine.policy := same
  rw [requestsOn, runFrom_reload_ok, Engine.runFrom_reloadPolicy, if_pos unchanged]
  rfl

theorem policy_reload (fresh : Config) (c : Configured σ) :
    ((reload (.ok fresh)).runFrom c).2.engine.policy = fresh.policy := by
  have ruling := Engine.policy_reloadPolicy fresh.policy c.engine
  rw [runFrom_reload_ok]
  cases dealt : (Engine.reloadPolicy fresh.policy).runFrom c.engine with
  | mk result engine =>
      rw [dealt] at ruling
      cases result with
      | ok reports => exact ruling
      | error error => exact ruling

/-- The rules are taken over by the engine and the configuration both, or by the engine alone, and
then an error of the channel is why. -/
theorem reload_cases (fresh : Config) (c : Configured σ) :
    let ended := (reload (.ok fresh)).runFrom c
    ended.1 = .ok () ∧ ended.2.config = { c.config with priority := fresh.priority } ∨
      ∃ error,
        ended.1 = .error error ∧ ended.2.config = c.config ∧ fresh.policy ≠ c.engine.policy ∧
          RouteChannel.Raises σ error := by
  have raises := Engine.sound_reloadPolicy (σ := σ) fresh.policy c.engine trivial
  rw [runFrom_reload_ok]
  cases dealt : (Engine.reloadPolicy fresh.policy).runFrom c.engine with
  | mk result engine =>
      rw [dealt] at raises
      cases result with
      | ok reports => exact .inl ⟨rfl, rfl⟩
      | error error =>
          refine .inr ⟨error, rfl, rfl, fun same => ?_, raises.2⟩
          rw [Engine.runFrom_reloadPolicy, if_pos same] at dealt
          cases dealt

/-- To take a configuration a second time ends well, even if the first time did not, but nothing is
decided anew. -/
theorem reload_again (fresh : Config) (c : Configured σ) :
    let once := ((reload (.ok fresh)).runFrom c).2
    (reload (.ok fresh)).runFrom once =
        (.ok (), { once with config := { once.config with priority := fresh.priority } }) ∧
      requestsOn (.ok fresh) once = [] := by
  intro once
  have same : fresh.policy = once.engine.policy := (policy_reload fresh c).symm
  refine ⟨?_, requestsOn_of_same same⟩
  rw [runFrom_reload_ok, Engine.runFrom_reloadPolicy, if_pos same]

/-! ## Main result -/

/-- Engine and configuration that have the same rules have the same again when a file is loaded for
them, exactly if that ends well. A file that cannot be loaded changes nothing, and no request is
put. If one is loaded, its text has rules and no fault, and the engine has its rules however it
ends; the configuration has them too, if that is well, and otherwise stays as it was. It ends badly
only by an error of the channel. -/
theorem same_rules_iff_reload_ok
    (c : Configured σ) (path : String) (host : Host)
    (together : c.engine.policy = c.config.policy) :
    let loaded := ((Config.load path).runFrom host).1
    let ended := (reload loaded).runFrom c
    (ended.2.engine.policy = ended.2.config.policy ↔ ended.1 = .ok ()) ∧
      (∀ error, loaded = .error error → ended = (.ok (), c) ∧ requestsOn loaded c = []) ∧
      (∀ fresh, loaded = .ok fresh →
        (∃ text,
          ((Host.read path).runFrom host).1 = .ok text ∧ Config.ofText text = .ok fresh) ∧
          fresh.priority ≠ [] ∧ fresh.validate = .ok () ∧ ended.2.engine.policy = fresh.policy ∧
          (fresh.policy = c.engine.policy → ended.1 = .ok () ∧ requestsOn loaded c = []) ∧
          (ended.1 = .ok () → ended.2.config = { c.config with priority := fresh.priority }) ∧
          (ended.1 ≠ .ok () → ended.2.config = c.config)) ∧
      ∀ error, ended.1 = .error error → RouteChannel.Raises σ error := by
  intro loaded
  generalize read : loaded = result
  cases result with
  | error error =>
      rw [runFrom_reload_error]
      exact ⟨by simpa using together, fun _ _ => ⟨rfl, rfl⟩, nofun, nofun⟩
  | ok fresh =>
      obtain ⟨text, written, described⟩ := Config.load_eq_ok_iff.1 read
      obtain ⟨ruled, valid⟩ := Config.sound_of_ofText described
      have ruling := policy_reload fresh c
      have ways := reload_cases fresh c
      dsimp only at ways ⊢
      generalize (reload (.ok fresh)).runFrom c = ended at ruling ways ⊢
      rcases ways with ⟨well, taken⟩ | ⟨error, failed, left, altered, raised⟩
      · refine ⟨⟨fun _ => well, fun _ => ?_⟩, nofun, ?_, fun error failed => ?_⟩
        · rw [ruling, taken]
          rfl
        · rintro _ ⟨⟩
          exact ⟨⟨text, written, described⟩, ruled, valid, ruling,
            fun same => ⟨well, requestsOn_of_same same⟩, fun _ => taken,
            fun failed => absurd well failed⟩
        · rw [well] at failed
          cases failed
      · have unfinished : ended.1 ≠ .ok () := by simp [failed]
        refine ⟨⟨fun same => ?_, fun well => absurd well unfinished⟩, nofun, ?_, ?_⟩
        · rw [ruling, left, ← together] at same
          exact absurd same altered
        · rintro _ ⟨⟩
          exact ⟨⟨text, written, described⟩, ruled, valid, ruling,
            fun same => absurd same altered, fun well => absurd well unfinished, fun _ => left⟩
        · rw [failed]
          rintro _ ⟨⟩
          exact raised

/-- A file with one rule, for one of the two interfaces. -/
def onlyWired : Host where
  entries := [(["gateways.yaml"], .file "priority:\n- link: eth0\n")]
  pid := 1

/-- Each of two interfaces has a gateway, and the connection is lost at the third request for a
change. -/
def aboutToLose : Configured Kernel.Session where
  engine :=
    (Engine.new { Engine.twoUplinks with mutationFaults := [none, none, some .connectionLost] }
      {} {}).run [
        .call .seed,
        .call (.register ⟨.dhcp, "eth0", .inet⟩ (.v4 0x0a000001#32) none),
        .call (.register ⟨.dhcp, "wlan0", .inet⟩ (.v4 0x0a010001#32) none)]
  config := {}

theorem same_rules_iff_reload_ok_lost :
    aboutToLose.engine.policy = aboutToLose.config.policy ∧
      RouteChannel.Raises Kernel.Session (.netlink "connection reset") := by
  have together : aboutToLose.engine.policy = aboutToLose.config.policy := by decide +kernel
  have lost :
      ((reload ((Config.load "gateways.yaml").runFrom onlyWired).1).runFrom aboutToLose).1 =
        .error (.netlink "connection reset") := by
    decide +kernel
  obtain ⟨-, -, -, raised⟩ :=
    same_rules_iff_reload_ok aboutToLose "gateways.yaml" onlyWired together
  exact ⟨together, raised _ lost⟩

/-- The rules are the same before a file is loaded that calls for the other gateway. When the
request for it is lost, the engine goes by the rules of the file, and the configuration by its
own. -/
theorem unfinished_reload :
    let ended :=
      (reload ((Config.load "gateways.yaml").runFrom onlyWired).1).runFrom aboutToLose
    aboutToLose.engine.policy = aboutToLose.config.policy ∧
      ended.1 = .error (.netlink "connection reset") ∧
      ended.2.engine.policy = ⟨[{ link := some "eth0" }]⟩ ∧ ended.2.config.policy = ⟨[]⟩ := by
  decide +kernel

end Configured

end DefaultGateway
