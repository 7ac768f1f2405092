import DefaultGateway.Proofs.Paths
import DefaultGateway.Proofs.StoreText

/-!
# Every update counts once

An update of the store reads the file, runs a change on what it has read, and writes the result. Of
a change that fails, or makes no difference, nothing is left in the file, and so it is where the
file cannot be read. What is written is the result in full, and the daemon is told; so after any
number of updates the file holds what the changes that succeeded make of the store in turn. Main
statement: `updates_fold`.
-/

namespace DefaultGateway

/-- A step as a function of the state: of what it has done before it fails nothing is kept. -/
def Step.result {σ α : Type} (step : Step σ α) (s : σ) : Except Error (α × σ) :=
  match step.runFrom s with
  | (.ok a, t) => .ok (a, t)
  | (.error error, _) => .error error

theorem Step.runFrom_lift {σ α : Type} (outcome : Except Error α) (s : σ) :
    (liftM outcome : Step σ α).runFrom s = (outcome, s) := rfl

/-- The files that an update writes have a place. -/
structure Config.Usable (c : Config) (h : Host) : Prop where
  lock : h.Offers c.lockPath
  draft : h.Offers (c.statePath ++ ".tmp")
  file : h.Offers c.statePath

/-- Whether a file holds the number of the process that can be signalled. -/
def Host.isAddressed (h : Host) (pidPath : String) : Bool :=
  match ((Host.read pidPath).runFrom h).1 with
  | .ok text => Text.readInteger 0x80000000 (Text.trim text).toList == some h.pid
  | .error _ => false

theorem Host.isAddressed_withSignals (pidPath : String) (h : Host) (signals : Nat) :
    ({ h with signals := signals } : Host).isAddressed pidPath = h.isAddressed pidPath := by
  rw [isAddressed, isAddressed, read_congr (entryAt_withSignals pidPath h signals)]

theorem Config.Usable.of_sameDirectories {c : Config} {h g : Host} (usable : c.Usable h)
    (same : h.SameDirectories g) : c.Usable g where
  lock := (same.offers_iff _).1 usable.lock
  draft := (same.offers_iff _).1 usable.draft
  file := (same.offers_iff _).1 usable.file

namespace Store

variable {c : Config} {h g : Host} {α : Type}

/-! ## Reading and signalling -/

theorem runFrom_load (path : String) (h : Host) :
    (load path).runFrom h =
      (match ((Host.read path).runFrom h).1 with
        | .ok text =>
          match ofText? text with
          | some store => .ok store
          | none => .error (.store s!"Failed to parse {path}: not a registration store")
        | .error (.io fault) => if fault = .system .noEntry then .ok {} else .error (.io fault)
        | .error error => .error error, h) := by
  rw [load, Step.runFrom_bind, Step.runFrom_attempt, Host.state_read]
  cases ((Host.read path).runFrom h).1 with
  | ok text =>
      dsimp only
      cases ofText? text <;> rfl
  | error error =>
      cases error with
      | io fault =>
          dsimp only
          split <;> rfl
      | _ => rfl

theorem runFrom_load_eq (path : String) (h : Host) :
    (load path).runFrom h = (((load path).runFrom h).1, h) := by
  rw [runFrom_load]

/-- What is loaded depends on what is found alone. -/
theorem load_congr {path : String} (same : g.entryAt path = h.entryAt path) :
    ((load path).runFrom g).1 = ((load path).runFrom h).1 := by
  rw [runFrom_load, runFrom_load, Host.read_congr same]

/-- A signal reaches at most the one process, and leaves the files alone. -/
theorem state_signalDaemon (pidPath : String) (h : Host) :
    ((signalDaemon pidPath).runFrom h).2 =
      { h with signals := h.signals + if h.isAddressed pidPath then 1 else 0 } := by
  have stays := Host.state_read pidPath h
  rw [signalDaemon, Step.runFrom_bind, Host.isAddressed]
  cases reading : (Host.read pidPath).runFrom h with
  | mk outcome t =>
      obtain rfl : t = h := by rw [reading] at stays; exact stays
      cases outcome with
      | error error => rfl
      | ok text =>
          dsimp only
          rcases Option.eq_none_or_eq_some
            (Text.readInteger 0x80000000 (Text.trim text).toList) with parsed | ⟨pid, parsed⟩
          · simp only [parsed]
            rfl
          · simp only [parsed, Step.runFrom_bind, Host.signal, Step.runFrom_change]
            by_cases own : pid = t.pid <;> simp [own]

/-! ## One update -/

/-- The file is what it was, or still missing, and nothing has been signalled. -/
structure Untouched (c : Config) (h g : Host) : Prop where
  file : g.entryAt c.statePath = h.entryAt c.statePath
  signals : g.signals = h.signals

theorem Untouched.trans {k : Host} (first : Untouched c h g) (second : Untouched c g k) :
    Untouched c h k where
  file := second.file.trans first.file
  signals := second.signals.trans first.signals

theorem Untouched.load_eq (kept : Untouched c h g) :
    ((load c.statePath).runFrom g).1 = ((load c.statePath).runFrom h).1 :=
  load_congr kept.file

/-- How an update ends that runs a change. The file and the signals are untouched unless the change
succeeds and makes a difference. Then the file holds what the change has made of the store, and the
process is signalled once if its number is in the pid file; if not, the update succeeds all the
same. -/
inductive Updated (c : Config) (change : Step Store α) (h : Host) : Except Error α × Host → Prop
  | unreadable {error g} (refused : ((load c.statePath).runFrom h).1 = .error error)
      (kept : Untouched c h g) : Updated c change h (.error error, g)
  | failed {before error after g} (read : ((load c.statePath).runFrom h).1 = .ok before)
      (refused : change.runFrom before = (.error error, after))
      (kept : Untouched c h g) : Updated c change h (.error error, g)
  | unchanged {before a g} (read : ((load c.statePath).runFrom h).1 = .ok before)
      (made : change.runFrom before = (.ok a, before))
      (kept : Untouched c h g) : Updated c change h (.ok a, g)
  | written {before a after g} (read : ((load c.statePath).runFrom h).1 = .ok before)
      (made : change.runFrom before = (.ok a, after)) (different : after ≠ before)
      (file : ((Host.read c.statePath).runFrom g).1 = .ok after.text)
      (held : ((load c.statePath).runFrom g).1 = .ok after)
      (signals : g.signals = h.signals + if g.isAddressed c.pidPath then 1 else 0) :
      Updated c change h (.ok a, g)

/-- The lock is beside the file, so taking it leaves the file alone. -/
theorem touch_lockPath (usable : c.Usable h) :
    ∃ t, (Host.touch c.lockPath).runFrom h = (.ok (), t) ∧ h.SameDirectories t ∧
      Untouched c h t := by
  obtain ⟨t, touched, same, elsewhere⟩ := Host.touch_of_offers usable.lock
  obtain ⟨place, leads, -⟩ := usable.file
  have beside : h.locate c.lockPath ≠ .ok place := fun leadsToo =>
    Host.locate_append_ne (by decide) (by decide) leads leadsToo rfl
  exact ⟨t, touched, same.directories,
    Host.entryAt_congr same.directories leads (elsewhere place beside), same.signals⟩

/-- A store is saved where it can be, and nothing is signalled. -/
theorem save_of_usable (usable : c.Usable h) (s : Store) :
    ∃ g, (save c.statePath s).runFrom h = (.ok (), g) ∧ h.SameButFiles g ∧
      (Host.read c.statePath).runFrom g = (.ok s.text, g) := by
  obtain ⟨g, saved⟩ := exists_save_iff.2 ⟨usable.draft, usable.file⟩
  obtain ⟨_, t, written, renamed⟩ := Step.ok_of_runFrom_bind saved
  have draft := Host.read_write written
  exact ⟨g, saved, (Host.sameButFiles_write written).trans (Host.sameButFiles_rename draft renamed),
    Host.read_rename draft renamed⟩

theorem updated_update (usable : c.Usable h) (change : Step Store α) :
    Updated c change h ((update c change.result).runFrom h) ∧
      c.Usable ((update c change.result).runFrom h).2 := by
  obtain ⟨t, touched, directories, kept⟩ := touch_lockPath usable
  have usableStill := usable.of_sameDirectories directories
  rw [update, Step.runFrom_bind_of_ok touched, Step.runFrom_bind, runFrom_load_eq]
  cases loaded : ((load c.statePath).runFrom t).1 with
  | error error => exact ⟨.unreadable (kept.load_eq.symm.trans loaded) kept, usableStill⟩
  | ok before =>
      have read := kept.load_eq.symm.trans loaded
      dsimp only
      rw [Step.runFrom_bind, Step.runFrom_lift, Step.result]
      cases ended : change.runFrom before with
      | mk outcome after =>
          cases outcome with
          | error error => exact ⟨.failed read ended kept, usableStill⟩
          | ok a =>
              dsimp only
              by_cases same : after = before
              · rw [if_neg (not_not_intro same)]
                exact ⟨.unchanged read (same ▸ ended) kept, usableStill⟩
              · rw [if_pos same]
                -- Only the signal comes after the file, and it changes nothing that is read.
                obtain ⟨g, saved, others, held⟩ := save_of_usable usableStill after
                rw [Step.runFrom_bind_of_ok saved, Step.runFrom_bind, Step.runFrom_attempt]
                dsimp only
                rw [Step.runFrom_pure, state_signalDaemon]
                refine ⟨.written read ended same ?_ ?_ ?_, ?_⟩
                · rw [Host.read_congr (Host.entryAt_withSignals _ _ _), held]
                · rw [load_congr (Host.entryAt_withSignals _ _ _), load_of_save saved]
                · simp only [Host.isAddressed_withSignals, others.signals, kept.signals]
                · exact usableStill.of_sameDirectories (others.directories.trans fun _ => .rfl)

/-! ## Any number of updates -/

/-- A change of the store, with what it gives. -/
structure Update where
  Result : Type
  change : Step Store Result

namespace Update

/-- The host that an update leaves. -/
def host (c : Config) (h : Host) (u : Update) : Host := ((update c u.change.result).runFrom h).2

/-- The store that a change makes of another; of one that fails nothing is kept. -/
def next (s : Store) (u : Update) : Store :=
  match u.change.runFrom s with
  | (.ok _, after) => after
  | (.error _, _) => s

end Update

theorem Updated.load_eq {change : Step Store α} {ended : Except Error α × Host}
    (updated : Updated c change h ended) :
    ((load c.statePath).runFrom ended.2).1 =
      ((load c.statePath).runFrom h).1.map (Update.next · ⟨α, change⟩) := by
  cases updated with
  | unreadable refused kept => rw [kept.load_eq, refused, Except.map]
  | failed read refused kept => rw [kept.load_eq, read, Except.map, Update.next, refused]
  | unchanged read made kept => rw [kept.load_eq, read, Except.map, Update.next, made]
  | written read made different file held signals =>
      rw [held, read, Except.map, Update.next, made]

theorem Updated.untouched {change : Step Store α} {ended : Except Error α × Host}
    (updated : Updated c change h ended) {error : Error}
    (corrupt : ((load c.statePath).runFrom h).1 = .error error) : Untouched c h ended.2 := by
  cases updated with
  | unreadable refused kept => exact kept
  | failed read refused kept => exact kept
  | unchanged read made kept => exact kept
  | written read made different file held signals => cases corrupt.symm.trans read

theorem usable_foldl (usable : c.Usable h) (updates : List Update) :
    c.Usable (updates.foldl (Update.host c) h) := by
  induction updates generalizing h with
  | nil => exact usable
  | cons u rest inductionHypothesis =>
      exact inductionHypothesis (updated_update usable u.change).2

theorem load_foldl (usable : c.Usable h) (updates : List Update) :
    ((load c.statePath).runFrom (updates.foldl (Update.host c) h)).1 =
      ((load c.statePath).runFrom h).1.map (updates.foldl Update.next) := by
  induction updates generalizing h with
  | nil =>
      rw [List.foldl_nil]
      cases ((load c.statePath).runFrom h).1 <;> rfl
  | cons u rest inductionHypothesis =>
      obtain ⟨updated, usableStill⟩ := updated_update usable u.change
      rw [List.foldl_cons]
      refine (inductionHypothesis usableStill).trans ?_
      rw [updated.load_eq]
      cases ((load c.statePath).runFrom h).1 <;> rfl

/-- A file that cannot be read is never written. -/
theorem untouched_foldl (usable : c.Usable h) {error : Error}
    (corrupt : ((load c.statePath).runFrom h).1 = .error error) (updates : List Update) :
    Untouched c h (updates.foldl (Update.host c) h) := by
  induction updates generalizing h with
  | nil => exact ⟨rfl, rfl⟩
  | cons u rest inductionHypothesis =>
      obtain ⟨updated, usableStill⟩ := updated_update usable u.change
      have first := updated.untouched corrupt
      exact first.trans (inductionHypothesis usableStill (first.load_eq.trans corrupt))

/-- Of any number of updates, each is as `Updated` tells of the host that those before it have
left. So what is loaded in the end is what the changes that succeed make, in turn, of what was
loaded in the beginning; and a file that could not be read is as it was. -/
theorem updates_fold (usable : c.Usable h) (updates : List Update) :
    (∀ earlier u later, updates = earlier ++ u :: later →
      Updated c u.change (earlier.foldl (Update.host c) h)
        ((update c u.change.result).runFrom (earlier.foldl (Update.host c) h))) ∧
    ((load c.statePath).runFrom (updates.foldl (Update.host c) h)).1 =
      ((load c.statePath).runFrom h).1.map (updates.foldl Update.next) ∧
    ∀ error, ((load c.statePath).runFrom h).1 = .error error →
      Untouched c h (updates.foldl (Update.host c) h) :=
  ⟨fun earlier u _ _ => (updated_update (usable_foldl usable earlier) u.change).1,
    load_foldl usable updates, fun _ corrupt => untouched_foldl usable corrupt updates⟩

/-- Files in a directory, the store as yet blank. -/
def desk : Host where
  entries := [(["", "run"], .directory), (["", "run", "state"], .file " \n"),
    (["", "run", "pid"], .file "7\n")]
  pid := 7

def deskConfig : Config where
  statePath := "/run/state"
  pidPath := "/run/pid"

/-- Two changes that succeed, with one between that fails after it has disabled everything, and
one that makes no difference. -/
def editing : List Update := [
  ⟨Unit, modify (·.disable { family := some .inet })⟩,
  ⟨Unit, do modify (·.disable {}); throw (.store "no space left")⟩,
  ⟨Nat, return 3⟩,
  ⟨Unit, modify (·.disable { family := some .inet6 })⟩]

theorem updates_fold_editing :
    deskConfig.Usable desk ∧
      ((load deskConfig.statePath).runFrom (editing.foldl (Update.host deskConfig) desk)).1 =
        .ok { disabled := .ofList [{ family := some .inet }, { family := some .inet6 }] } := by
  have usable : deskConfig.Usable desk := {
    lock := ⟨["", "run", "state.lock"], by decide +kernel, by decide +kernel⟩
    draft := ⟨["", "run", "state.tmp"], by decide +kernel, by decide +kernel⟩
    file := ⟨["", "run", "state"], by decide +kernel, by decide +kernel⟩ }
  have blank : ((load deskConfig.statePath).runFrom desk).1 = .ok {} := by decide +kernel
  have made : editing.foldl Update.next {} =
      { disabled := .ofList [{ family := some .inet }, { family := some .inet6 }] } := by
    decide +kernel
  obtain ⟨-, folded, -⟩ := updates_fold usable editing
  refine ⟨usable, ?_⟩
  rw [folded, blank, Except.map, made]

end Store

end DefaultGateway
