import Mathlib.Data.List.Basic

/-! Computations on a state that log events and may stop at an error. What happened to the
state and what was logged before the error both survive it.
-/

namespace Foundations

universe u

/-- The state afterwards, the events in order, and the outcome. -/
structure Step (σ ω ε : Type) (α : Type u) where
  state : σ
  log : List ω
  result : Except ε α

def Stateful (σ ω ε : Type) (α : Type u) : Type u := σ → Step σ ω ε α

namespace Stateful

variable {σ ω ε : Type} {α β : Type u}

/-- Sequencing runs the second stage in the state the first one left, unless it stopped. -/
protected def bind (first : Stateful σ ω ε α) (next : α → Stateful σ ω ε β)
    : Stateful σ ω ε β :=
  fun state =>
    let step := first state
    match step.result with
    | .ok value =>
        let rest := next value step.state
        ⟨rest.state, step.log ++ rest.log, rest.result⟩
    | .error error => ⟨step.state, step.log, .error error⟩

instance : Monad (Stateful σ ω ε) where
  pure value := fun state => ⟨state, [], .ok value⟩
  bind := Stateful.bind

/-- An outcome that neither reads nor changes the state. -/
def ofExcept (outcome : Except ε α) : Stateful σ ω ε α := fun state => ⟨state, [], outcome⟩

/-- Stop at an error. -/
def raise (error : ε) : Stateful σ ω ε α := ofExcept (.error error)

/-- Log one event. -/
def emit (event : ω) : Stateful σ ω ε PUnit := fun state => ⟨state, [event], .ok ⟨⟩⟩

/-- What the state shows. -/
def view (f : σ → α) : Stateful σ ω ε α := fun state => ⟨state, [], .ok (f state)⟩

def modify (f : σ → σ) : Stateful σ ω ε PUnit := fun state => ⟨f state, [], .ok ⟨⟩⟩

instance : MonadLift (Except ε) (Stateful σ ω ε) := ⟨ofExcept⟩

@[simp] theorem liftM_eq_ofExcept (outcome : Except ε α)
    : (liftM outcome : Stateful σ ω ε α) = ofExcept outcome :=
  rfl

theorem bind_of_ok {first : Stateful σ ω ε α} {state : σ} {value : α}
    (h : (first state).result = .ok value) (next : α → Stateful σ ω ε β)
    : (first >>= next) state
      = ⟨
          (next value (first state).state).state,
          (first state).log ++ (next value (first state).state).log,
          (next value (first state).state).result
        ⟩ := by
  show Stateful.bind first next state = _
  simp only [Stateful.bind, h]

theorem bind_of_error {first : Stateful σ ω ε α} {state : σ} {error : ε}
    (h : (first state).result = .error error) (next : α → Stateful σ ω ε β)
    : (first >>= next) state = ⟨(first state).state, (first state).log, .error error⟩ := by
  show Stateful.bind first next state = _
  simp only [Stateful.bind, h]

@[simp] theorem ofExcept_ok_bind (value : α) (next : α → Stateful σ ω ε β)
    : ofExcept (.ok value) >>= next = next value :=
  rfl

@[simp] theorem ofExcept_error_bind (error : ε) (next : α → Stateful σ ω ε β)
    : ofExcept (.error error) >>= next = ofExcept (.error error) :=
  rfl

/-- A sequence returns exactly when both stages do. -/
theorem bind_result_eq_ok {first : Stateful σ ω ε α} {next : α → Stateful σ ω ε β} {state : σ}
    {output : β}
    : ((first >>= next) state).result = .ok output
      ↔ ∃ value,
          (first state).result = .ok value
          ∧ (next value (first state).state).result = .ok output := by
  cases h : (first state).result with
  | ok value => simp [bind_of_ok h]
  | error error => simp [bind_of_error h]

/-- A function of the value changes nothing but the outcome. -/
theorem map_run (f : α → β) (run : Stateful σ ω ε α) (state : σ)
    : (f <$> run) state = ⟨(run state).state, (run state).log, (run state).result.map f⟩ := by
  show (run >>= fun value => pure (f value)) state = _
  cases h : (run state).result with
  | ok value =>
      rw [bind_of_ok h]
      exact congrArg (Step.mk _ · _) (List.append_nil _)
  | error error =>
      rw [bind_of_error h]
      rfl

/-- A second stage that only judges the value changes nothing but the outcome. -/
theorem bind_ofExcept (first : Stateful σ ω ε α) (judge : α → Except ε β) (state : σ)
    : (first >>= fun value => ofExcept (judge value)) state
      = ⟨(first state).state, (first state).log, (first state).result >>= judge⟩ := by
  cases h : (first state).result with
  | ok value =>
      rw [bind_of_ok h]
      simp only [ofExcept, List.append_nil]
      rfl
  | error error =>
      rw [bind_of_error h]
      rfl

-----------------------------------------------------------------------------------------
-- Conditions on the state and the history
-----------------------------------------------------------------------------------------

/-- From any state and history with `before`, the run leads to ones with `after`, whether it
returns or stops.
-/
def Moves (before after : σ → List ω → Prop) (run : Stateful σ ω ε α) : Prop :=
  ∀ state history,
    before state history → after (run state).state (history ++ (run state).log)

variable {before middle after : σ → List ω → Prop}

theorem Moves.of_silent {run : Stateful σ ω ε α} (same : ∀ state, (run state).state = state)
    (silent : ∀ state, (run state).log = [])
    (h : ∀ state history, before state history → after state history)
    : run.Moves before after := by
  intro state history holds
  rw [same, silent, List.append_nil]
  exact h state history holds

/-- The second stage starts where the first one ends; where the first one stops, its own end
must do.
-/
theorem Moves.bind {first : Stateful σ ω ε α} {next : α → Stateful σ ω ε β}
    (head : first.Moves before middle) (tail : ∀ value, (next value).Moves middle after)
    (stopped : ∀ state history, middle state history → after state history)
    : (first >>= next).Moves before after := by
  intro state history holds
  have reached := head state history holds
  cases h : (first state).result with
  | ok value =>
      rw [bind_of_ok h, ← List.append_assoc]
      exact tail value _ _ reached
  | error error =>
      rw [bind_of_error h]
      exact stopped _ _ reached

/-- A second stage that only judges the value moves nothing. -/
theorem Moves.judge {first : Stateful σ ω ε α} (h : first.Moves before after)
    (judge : α → Except ε β)
    : (first >>= fun value => ofExcept (judge value)).Moves before after := by
  intro state history holds
  rw [bind_ofExcept]
  exact h state history holds

end Stateful

end Foundations
