import Mathlib.Algebra.Order.Floor.Ring
import Mathlib.Tactic.Linarith
import Mathlib.Tactic.Ring

/-! Leases. A grant is good for a length of time; it may be given up earlier, or replaced before
it is used up. The grants that waited for an end of the lease before them are bounded by the time
that has passed.
-/

namespace Foundations

variable {K : Type} [Field K] [LinearOrder K]

/-- The books at the time `clock`: when the lease that is held was granted, and how many grants
there were, less those that did not wait and those that were given up.
-/
structure Paced (start length clock : K) (held : Option K) (waited : Int) : Prop where
  holding : ∀ granted ∈ held, granted ≤ clock ∧ ((waited - 1 : Int) : K) * length ≤ granted - start
  free : held = none → (waited : K) * length ≤ clock - start

namespace Paced

variable {start length clock now : K} {held : Option K} {waited : Int}

variable [IsStrictOrderedRing K]

theorem later (h : Paced start length clock held waited) (advances : clock ≤ now)
    : Paced start length now held waited where
  holding granted member :=
    ⟨(h.holding granted member).1.trans advances, (h.holding granted member).2⟩
  free none := (h.free none).trans (by linarith)

/-- One less than what waited fits into the time that has passed. -/
theorem pred_le (h : Paced start length clock held waited) (positive : 0 < length)
    : ((waited - 1 : Int) : K) * length ≤ clock - start := by
  cases held with
  | none =>
      have free := h.free rfl
      push_cast
      linarith
  | some granted =>
      obtain ⟨past, fits⟩ := h.holding granted rfl
      linarith

/-- What waited fits into the time that has passed, when the lease is at its end. -/
theorem le_of_ended (h : Paced start length clock held waited) (advances : clock ≤ now)
    (ended : ∀ granted ∈ held, granted + length < now)
    : (waited : K) * length ≤ now - start := by
  cases held with
  | none => exact (h.later advances).free rfl
  | some granted =>
      have fits := (h.holding granted rfl).2
      have late := ended granted rfl
      push_cast at fits
      linarith

/-- A grant after the end of the lease before it is one more that waited. -/
theorem renew (h : Paced start length clock held waited) (advances : clock ≤ now)
    (ended : ∀ granted ∈ held, granted + length < now)
    : Paced start length now (some now) (waited + 1) where
  holding granted member := by
    cases member
    refine ⟨le_refl _, ?_⟩
    rw [add_sub_cancel_right]
    exact h.le_of_ended advances ended
  free none := by cases none

/-- A lease that is given up at its end leaves as many grants that waited. -/
theorem giveUp (h : Paced start length clock held waited) (advances : clock ≤ now)
    (ended : ∀ granted ∈ held, granted + length < now)
    : Paced start length now none waited where
  holding granted member := by cases member
  free _ := h.le_of_ended advances ended

/-- A grant that replaces the lease before its end is none that waited. -/
theorem replace (h : Paced start length clock held waited) (positive : 0 < length)
    (advances : clock ≤ now)
    : Paced start length now (some now) waited where
  holding granted member := by
    cases member
    exact ⟨le_refl _, (h.later advances).pred_le positive⟩
  free none := by cases none

/-- A lease that is given up before its end is one less that waited. -/
theorem forfeit (h : Paced start length clock held waited) (positive : 0 < length)
    (advances : clock ≤ now)
    : Paced start length now none (waited - 1) where
  holding granted member := by cases member
  free _ := (h.later advances).pred_le positive

end Paced

end Foundations
