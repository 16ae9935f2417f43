import RemoteCall.Failure

/-! How steps that keep a state run, one after the other. -/

namespace RemoteCall

variable {ε σ α β : Type}

@[simp] theorem run_pure (answer : α) (state : σ) :
    (pure answer : EStateM ε σ α) state = .ok answer state := rfl

@[simp] theorem run_throw (failure : ε) (state : σ) :
    (throw failure : EStateM ε σ α) state = .error failure state := rfl

@[simp] theorem run_get (state : σ) : (get : EStateM ε σ σ) state = .ok state state := rfl

@[simp] theorem run_set (state before : σ) :
    (set state : EStateM ε σ PUnit) before = .ok ⟨⟩ state := rfl

@[simp] theorem run_modify (change : σ → σ) (state : σ) :
    (modify change : EStateM ε σ PUnit) state = .ok ⟨⟩ (change state) := rfl

@[simp] theorem run_modifyGet (change : σ → α × σ) (state : σ) :
    (modifyGet change : EStateM ε σ α) state = .ok (change state).1 (change state).2 := rfl

@[simp] theorem run_map (change : α → β) (step : EStateM ε σ α) (state : σ) :
    (change <$> step) state =
      match step state with
      | .ok answer after => .ok (change answer) after
      | .error failure after => .error failure after := rfl

/-- A sequence runs its first step, and then the next one where the first left off. -/
@[simp] theorem run_bind (first : EStateM ε σ α) (next : α → EStateM ε σ β) (state : σ) :
    (first >>= next) state =
      match first state with
      | .ok answer between => next answer between
      | .error failure between => .error failure between := rfl

/-- A sequence succeeds exactly when both of its steps do. -/
theorem run_bind_eq_ok_iff {first : EStateM ε σ α} {next : α → EStateM ε σ β} {state after : σ}
    {result : β} :
    (first >>= next) state = .ok result after ↔
      ∃ answer between, first state = .ok answer between ∧
        next answer between = .ok result after := by
  -- Only the answer and the state of the first step decide what the second one meets.
  rw [run_bind]
  cases first state with
  | ok answer between =>
    constructor
    · intro done
      exact ⟨answer, between, rfl, done⟩
    · intro facts
      obtain ⟨_, _, ran, done⟩ := facts
      cases ran
      exact done
  -- A failure of the first step is the failure of the sequence.
  | error failure between => simp

/-- A sequence fails exactly when its first step does, or its second one after that. -/
theorem run_bind_eq_error_iff {first : EStateM ε σ α} {next : α → EStateM ε σ β}
    {state after : σ} {failure : ε} :
    (first >>= next) state = .error failure after ↔
      first state = .error failure after ∨
        ∃ answer between, first state = .ok answer between ∧
          next answer between = .error failure after := by
  -- A first step that succeeds leaves the failure to the second one.
  rw [run_bind]
  cases first state with
  | ok answer between =>
    constructor
    · intro failed
      exact .inr ⟨answer, between, rfl, failed⟩
    · rintro (failed | ⟨_, _, ran, failed⟩)
      · cases failed
      · cases ran
        exact failed
  | error failure between => simp

@[simp] theorem run_ofExcept_ok (answer : α) (state : σ) :
    (MonadExcept.ofExcept (Except.ok answer : Except ε α) : EStateM ε σ α) state =
      .ok answer state := rfl

@[simp] theorem run_ofExcept_error (failure : ε) (state : σ) :
    (MonadExcept.ofExcept (Except.error failure : Except ε α) : EStateM ε σ α) state =
      .error failure state := rfl

/-- A sequence without a state succeeds exactly when both of its steps do. -/
theorem except_bind_eq_ok_iff {first : Except ε α} {next : α → Except ε β} {result : β} :
    first >>= next = .ok result ↔ ∃ answer, first = .ok answer ∧ next answer = .ok result := by
  -- The second step is reached with the answer of the first one, or not at all.
  cases first with
  | ok answer =>
    constructor
    · intro done
      exact ⟨answer, rfl, done⟩
    · intro facts
      obtain ⟨_, same, done⟩ := facts
      cases same
      exact done
  | error failure =>
    constructor
    · intro done
      cases done
    · intro facts
      obtain ⟨_, same, _⟩ := facts
      cases same

/-- An answer that is changed twice is changed once, and a failure is not changed at all. -/
theorem except_map_map {γ : Type} (result : Except ε α) (first : α → β) (next : β → γ) :
    (result.map first).map next = result.map fun answer => next (first answer) := by
  cases result with
  | ok answer => rfl
  | error failure => rfl

/-- What a step leaves behind, with an answer or without one. -/
def stateAfter : EStateM.Result ε σ α → σ
  -- A step that fails has still changed the state.
  | .ok _ after => after
  | .error _ after => after

/-- What a step came to, without the state that it left behind. -/
def outcome : EStateM.Result ε σ α → Except ε α
  | .ok answer _ => .ok answer
  | .error failure _ => .error failure

/-- Runs steps one after the other, each from where the one before it stopped, failed or not. -/
def runEach : List (EStateM ε σ α) → σ → List (Except ε α) × σ
  | [], state => ([], state)
  | step :: steps, state =>
    let rest := runEach steps (stateAfter (step state))
    (outcome (step state) :: rest.1, rest.2)

variable {kept : σ → Prop}

/-- A step keeps something of the state, also where it fails. -/
def Keeps (kept : σ → Prop) (step : EStateM ε σ α) : Prop :=
  -- The answer does not matter.
  ∀ state, kept state → kept (stateAfter (step state))

namespace Keeps

/-- An answer at hand changes nothing. -/
theorem pure (answer : α) : Keeps kept (Pure.pure answer : EStateM ε σ α) := by
  intro state holds
  exact holds

/-- A failure alone changes nothing. -/
theorem throw (failure : ε) : Keeps kept (MonadExcept.throw failure : EStateM ε σ α) := by
  intro state holds
  exact holds

/-- A result at hand changes nothing, whichever it is. -/
theorem ofExcept (result : Except ε α) :
    Keeps kept (MonadExcept.ofExcept result : EStateM ε σ α) := by
  cases result with
  | ok answer => exact Keeps.pure answer
  | error failure => exact Keeps.throw failure

/-- Steps in sequence keep what both of them keep. -/
theorem bind {first : EStateM ε σ α} {next : α → EStateM ε σ β} (keeps : Keeps kept first)
    (keepsNext : ∀ answer, Keeps kept (next answer)) : Keeps kept (first >>= next) := by
  intro state holds
  have between := keeps state holds
  rw [run_bind]
  -- Only a first step that succeeds is followed by the second one.
  cases ran : first state with
  | ok answer after =>
    rw [ran] at between
    exact keepsNext answer after between
  | error failure after =>
    rw [ran] at between
    exact between

/-- What holds after a step that answered. -/
theorem of_ok {step : EStateM ε σ α} (keeps : Keeps kept step) {state after : σ} {answer : α}
    (holds : kept state) (ran : step state = .ok answer after) : kept after := by
  have left := keeps state holds
  rwa [ran] at left

/-- What holds after a step that failed. -/
theorem of_error {step : EStateM ε σ α} (keeps : Keeps kept step) {state after : σ} {failure : ε}
    (holds : kept state) (ran : step state = .error failure after) : kept after := by
  have left := keeps state holds
  rwa [ran] at left

/-- What every one of some steps keeps holds when all of them have run. -/
theorem runEach {steps : List (EStateM ε σ α)} (keeps : ∀ step ∈ steps, Keeps kept step) {state : σ}
    (holds : kept state) : kept (runEach steps state).2 := by
  -- Whether a step failed does not matter to those behind it.
  induction steps generalizing state with
  | nil => exact holds
  | cons step steps ih =>
    have between := keeps step (by simp) state holds
    exact ih (fun other member => keeps other (by simp [member])) between

end Keeps

end RemoteCall
