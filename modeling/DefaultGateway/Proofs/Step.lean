import DefaultGateway.Channel

/-!
# Running steps

What each building block of a step does to the state, and properties of the state that a step
keeps however it ends.
-/

namespace DefaultGateway.Step

variable {σ τ α β : Type}

/-! ## Outcomes -/

@[simp]
theorem runFrom_pure (a : α) (s : σ) :
    (pure a : Step σ α).runFrom s = (.ok a, s) := rfl

@[simp]
theorem runFrom_throw (error : Error) (s : σ) :
    (throw error : Step σ α).runFrom s = (.error error, s) := rfl

@[simp]
theorem runFrom_get (s : σ) :
    (get : Step σ σ).runFrom s = (.ok s, s) := rfl

@[simp]
theorem runFrom_set (s t : σ) :
    (set t : Step σ PUnit).runFrom s = (.ok ⟨⟩, t) := rfl

@[simp]
theorem runFrom_modify (f : σ → σ) (s : σ) :
    (modify f : Step σ PUnit).runFrom s = (.ok ⟨⟩, f s) := rfl

@[simp]
theorem runFrom_of (effect : σ → Except Error α × σ) (s : σ) :
    (of effect).runFrom s = effect s := rfl

@[simp]
theorem runFrom_change (effect : σ → α × σ) (s : σ) :
    (change effect).runFrom s = (.ok (effect s).1, (effect s).2) := rfl

@[simp]
theorem runFrom_on
    (part : τ → σ) (withPart : τ → σ → τ) (step : Step σ α) (t : τ) :
    (step.on part withPart).runFrom t =
      ((step.runFrom (part t)).1, withPart t (step.runFrom (part t)).2) := rfl

@[simp]
theorem runFrom_attempt (step : Step σ α) (s : σ) :
    step.attempt.runFrom s = (.ok (step.runFrom s).1, (step.runFrom s).2) := rfl

/-- A sequence goes on where its first part has ended, unless that has failed. -/
theorem runFrom_bind
    (step : Step σ α) (next : α → Step σ β) (s : σ) :
    (step >>= next).runFrom s =
      match step.runFrom s with
      | (.ok a, t) => (next a).runFrom t
      | (.error error, t) => (.error error, t) := by
  have continued :
      (step >>= next).runFrom s =
        (ExceptT.bindCont next (step.runFrom s).1) (step.runFrom s).2 := rfl
  rw [continued]
  cases step.runFrom s with
  | mk outcome t =>
      cases outcome with
      | ok a => rfl
      | error error => rfl

theorem runFrom_bind_of_ok
    {step : Step σ α} {next : α → Step σ β} {s t : σ} {a : α}
    (first : step.runFrom s = (.ok a, t)) :
    (step >>= next).runFrom s = (next a).runFrom t := by
  rw [runFrom_bind, first]

theorem runFrom_bind_of_error
    {step : Step σ α} {next : α → Step σ β} {s t : σ} {error : Error}
    (first : step.runFrom s = (.error error, t)) :
    (step >>= next).runFrom s = (.error error, t) := by
  rw [runFrom_bind, first]

theorem runFrom_eq_of_ok {step : Step σ α} {s : σ} {a : α} (ended : (step.runFrom s).1 = .ok a) :
    step.runFrom s = (.ok a, (step.runFrom s).2) := Prod.ext ended rfl

/-- A sequence that has succeeded consists of two steps that have. -/
theorem ok_of_runFrom_bind
    {step : Step σ α} {next : α → Step σ β} {s u : σ} {b : β}
    (whole : (step >>= next).runFrom s = (.ok b, u)) :
    ∃ a t, step.runFrom s = (.ok a, t) ∧ (next a).runFrom t = (.ok b, u) := by
  rw [runFrom_bind] at whole
  cases first : step.runFrom s with
  | mk outcome t =>
      rw [first] at whole
      cases outcome with
      | ok a => exact ⟨a, t, rfl, whole⟩
      | error error => cases whole

/-- A step whose result is dropped succeeds where the step does. -/
theorem ok_of_runFrom_dropped
    {step : Step σ α} {s t : σ}
    (whole : (step >>= fun _ => (pure () : Step σ Unit)).runFrom s = (.ok (), t)) :
    ∃ a, step.runFrom s = (.ok a, t) := by
  obtain ⟨a, _, first, last⟩ := ok_of_runFrom_bind whole
  cases last
  exact ⟨a, first⟩

/-- What is made of a step's result does not touch the state. -/
theorem state_bind_pure (step : Step σ α) (f : α → β) (s : σ) :
    ((step >>= fun a => pure (f a)).runFrom s).2 = (step.runFrom s).2 := by
  rw [runFrom_bind]
  cases step.runFrom s with
  | mk outcome t =>
      cases outcome with
      | ok a => rfl
      | error error => rfl

/-! ## Properties that a step keeps -/

/-- The step keeps a property of the state, whether it succeeds or fails. -/
def Keeps (P : σ → Prop) (step : Step σ α) : Prop :=
  ∀ s, P s → P (step.runFrom s).2

variable {P : σ → Prop}

theorem Keeps.pure (a : α) : Keeps P (pure a : Step σ α) :=
  fun _ held => held

theorem Keeps.throw (error : Error) : Keeps P (throw error : Step σ α) :=
  fun _ held => held

theorem Keeps.bind
    {step : Step σ α} {next : α → Step σ β}
    (first : Keeps P step) (rest : ∀ a, Keeps P (next a)) :
    Keeps P (step >>= next) := by
  intro s held
  have heldBetween := first s held
  rw [runFrom_bind]
  cases outcome : step.runFrom s with
  | mk result t =>
      rw [outcome] at heldBetween
      cases result with
      | ok a => exact rest a t heldBetween
      | error error => exact heldBetween

theorem Keeps.attempt {step : Step σ α} (keeps : Keeps P step) : Keeps P step.attempt := keeps

/-- A step on a part keeps what the part has to do with. -/
theorem Keeps.on
    {step : Step σ α} {part : τ → σ} {withPart : τ → σ → τ} {Q : τ → Prop}
    (keeps : Keeps P step) (taken : ∀ t, Q t → P (part t))
    (given : ∀ t s, Q t → P s → Q (withPart t s)) :
    Keeps Q (step.on part withPart) :=
  fun t held => given t _ held (keeps (part t) (taken t held))

end DefaultGateway.Step
