import Mathlib.Data.List.Basic

/-! Computations that log events and may stop at an error. The log survives the error, so
what a failed run did before it failed stays visible.
-/

namespace Foundations

universe u

/-- A run with its log of events, in order, and its outcome. -/
structure Traced (ε ω : Type) (α : Type u) where
  log : List ω
  result : Except ε α

namespace Traced

variable {ε ω : Type} {α β : Type u}

/-- A computation without events. -/
def ofExcept (outcome : Except ε α) : Traced ε ω α := ⟨[], outcome⟩

/-- Stop at an error. -/
def raise (error : ε) : Traced ε ω α := ⟨[], .error error⟩

/-- Log one event. -/
def emit (event : ω) : Traced ε ω PUnit := ⟨[event], .ok ⟨⟩⟩

/-- Sequencing appends the logs until the first error. -/
protected def bind (first : Traced ε ω α) (next : α → Traced ε ω β) : Traced ε ω β :=
  match first.result with
  | .ok value => ⟨first.log ++ (next value).log, (next value).result⟩
  | .error error => ⟨first.log, .error error⟩

instance : Monad (Traced ε ω) where
  pure value := ⟨[], .ok value⟩
  bind := Traced.bind

instance : MonadLift (Except ε) (Traced ε ω) := ⟨ofExcept⟩

@[simp] theorem pure_log (value : α) : (pure value : Traced ε ω α).log = [] := rfl

@[simp] theorem pure_result (value : α)
    : (pure value : Traced ε ω α).result = .ok value :=
  rfl

@[simp] theorem ofExcept_log (outcome : Except ε α)
    : (ofExcept outcome : Traced ε ω α).log = [] :=
  rfl

@[simp] theorem ofExcept_result (outcome : Except ε α)
    : (ofExcept outcome : Traced ε ω α).result = outcome :=
  rfl

@[simp] theorem raise_log (error : ε) : (raise error : Traced ε ω α).log = [] := rfl

@[simp] theorem raise_result (error : ε)
    : (raise error : Traced ε ω α).result = .error error :=
  rfl

@[simp] theorem emit_log (event : ω) : (emit event : Traced ε ω PUnit).log = [event] := rfl

@[simp] theorem emit_result (event : ω)
    : (emit event : Traced ε ω PUnit).result = .ok ⟨⟩ :=
  rfl

@[simp] theorem liftM_eq_ofExcept (outcome : Except ε α)
    : (liftM outcome : Traced ε ω α) = ofExcept outcome :=
  rfl

@[simp] theorem monadLift_eq_ofExcept (outcome : Except ε α)
    : (MonadLift.monadLift outcome : Traced ε ω α) = ofExcept outcome :=
  rfl

-----------------------------------------------------------------------------------------
-- Inversion of sequencing
-----------------------------------------------------------------------------------------

theorem bind_of_ok {first : Traced ε ω α} {value : α} (h : first.result = .ok value)
    (next : α → Traced ε ω β)
    : first >>= next = ⟨first.log ++ (next value).log, (next value).result⟩ := by
  show Traced.bind first next = _
  simp only [Traced.bind, h]

theorem bind_of_error {first : Traced ε ω α} {error : ε} (h : first.result = .error error)
    (next : α → Traced ε ω β)
    : first >>= next = ⟨first.log, .error error⟩ := by
  show Traced.bind first next = _
  simp only [Traced.bind, h]

/-- The second stage matters only on what the first one returns. -/
theorem bind_congr_of_result {first : Traced ε ω α} {next next' : α → Traced ε ω β}
    (h : ∀ value, first.result = .ok value → next value = next' value)
    : first >>= next = first >>= next' := by
  cases returned : first.result with
  | ok value => rw [bind_of_ok returned, bind_of_ok returned, h value returned]
  | error error => rw [bind_of_error returned, bind_of_error returned]

/-- A sequence returns exactly when both stages do. -/
theorem bind_result_eq_ok {first : Traced ε ω α} {next : α → Traced ε ω β} {output : β}
    : (first >>= next).result = .ok output
      ↔ ∃ value, first.result = .ok value ∧ (next value).result = .ok output := by
  cases h : first.result with
  | ok value => simp [bind_of_ok h]
  | error error => simp [bind_of_error h]

/-- A sequence fails exactly when the first stage does, or returns into a failing second. -/
theorem bind_result_eq_error {first : Traced ε ω α} {next : α → Traced ε ω β} {error : ε}
    : (first >>= next).result = .error error
      ↔ first.result = .error error
        ∨ ∃ value, first.result = .ok value ∧ (next value).result = .error error := by
  cases h : first.result with
  | ok value => simp [bind_of_ok h]
  | error other => simp [bind_of_error h]

/-- An event of a sequence belongs to the first stage, or to the second once the first
has returned.
-/
theorem mem_bind_log {first : Traced ε ω α} {next : α → Traced ε ω β} {event : ω}
    : event ∈ (first >>= next).log
      ↔ event ∈ first.log
        ∨ ∃ value, first.result = .ok value ∧ event ∈ (next value).log := by
  cases h : first.result with
  | ok value => simp [bind_of_ok h]
  | error error => simp [bind_of_error h]

/-- A silent second stage leaves the log to the first. -/
theorem bind_log_of_silent {first : Traced ε ω α} {next : α → Traced ε ω β}
    (h : ∀ value, (next value).log = [])
    : (first >>= next).log = first.log := by
  cases returned : first.result with
  | ok value => simp [bind_of_ok returned, h]
  | error error => simp [bind_of_error returned]

@[simp] theorem ofExcept_ok_bind (value : α) (next : α → Traced ε ω β)
    : (ofExcept (.ok value) >>= next) = next value :=
  rfl

@[simp] theorem ofExcept_error_bind (error : ε) (next : α → Traced ε ω β)
    : (ofExcept (.error error) >>= next) = raise error :=
  rfl

@[simp] theorem raise_bind (error : ε) (next : α → Traced ε ω β)
    : (raise error >>= next) = raise error :=
  rfl

@[simp] theorem pure_bind' (value : α) (next : α → Traced ε ω β)
    : (pure value >>= next) = next value :=
  rfl

-----------------------------------------------------------------------------------------
-- Rules for what a run may log and how it may fail
-----------------------------------------------------------------------------------------

/-- Every event the run logs satisfies `allowed`. -/
def Logs (allowed : ω → Prop) (run : Traced ε ω α) : Prop :=
  ∀ event ∈ run.log, allowed event

/-- Every error the run stops at satisfies `expected`. -/
def FailsWith (expected : ε → Prop) (run : Traced ε ω α) : Prop :=
  ∀ error, run.result = .error error → expected error

variable {allowed : ω → Prop} {expected : ε → Prop}

/-- A pure computation logs nothing. -/
theorem Logs.ofExcept (outcome : Except ε α)
    : (Traced.ofExcept outcome : Traced ε ω α).Logs allowed := by
  simp [Logs]

theorem Logs.pure (value : α) : (Pure.pure value : Traced ε ω α).Logs allowed := by
  simp [Logs]

theorem Logs.raise (error : ε) : (Traced.raise error : Traced ε ω α).Logs allowed := by
  simp [Logs]

theorem Logs.emit {event : ω} (h : allowed event)
    : (Traced.emit event : Traced ε ω PUnit).Logs allowed := by
  simpa [Logs] using h

/-- The second stage's events matter only where the first stage returns. -/
theorem Logs.bind {first : Traced ε ω α} {next : α → Traced ε ω β}
    (head : first.Logs allowed)
    (tail : ∀ value, first.result = .ok value → (next value).Logs allowed)
    : (first >>= next).Logs allowed := by
  intro event member
  rcases mem_bind_log.mp member with early | ⟨value, returned, late⟩
  · exact head event early
  · exact tail value returned event late

/-- A sequence fails as expected exactly when its first stage does, and its second does
wherever it is reached.
-/
theorem failsWith_bind {first : Traced ε ω α} {next : α → Traced ε ω β}
    : (first >>= next).FailsWith expected
      ↔ first.FailsWith expected
        ∧ ∀ value, first.result = .ok value → (next value).FailsWith expected := by
  simp only [FailsWith, bind_result_eq_error]
  constructor
  · intro h
    exact ⟨fun error failed => h error (Or.inl failed),
      fun value returned error failed => h error (Or.inr ⟨value, returned, failed⟩)⟩
  · intro h error given
    obtain ⟨head, tail⟩ := h
    rcases given with failed | ⟨value, returned, failed⟩
    · exact head error failed
    · exact tail value returned error failed

end Traced

end Foundations
