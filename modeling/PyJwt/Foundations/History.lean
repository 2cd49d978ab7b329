import Mathlib.Data.List.Basic

/-! Histories of events: the most recent event of a kind, and conditions on each event in view
of the events before it.
-/

namespace Foundations

variable {β γ : Type}

/-- What the most recent event that shows something shows. -/
def latest (shows : β → Option γ) (history : List β) : Option γ :=
  (history.filterMap shows).getLast?

@[simp] theorem latest_nil (shows : β → Option γ) : latest shows [] = none :=
  rfl

theorem latest_concat_of_some {shows : β → Option γ} {event : β} {shown : γ}
    (h : shows event = some shown) (history : List β)
    : latest shows (history ++ [event]) = some shown := by
  simp [latest, List.filterMap_append, h]

theorem latest_concat_of_none {shows : β → Option γ} {event : β} (h : shows event = none)
    (history : List β)
    : latest shows (history ++ [event]) = latest shows history := by
  simp [latest, List.filterMap_append, h]

/-- Each event of the history satisfies the condition in view of the events before it. -/
def Throughout (condition : List β → β → Prop) (history : List β) : Prop :=
  ∀ before event after, history = before ++ event :: after → condition before event

theorem throughout_nil (condition : List β → β → Prop) : Throughout condition [] := by
  intro before event after split
  simp at split

/-- A longer history adds one condition, by the place where it is split. -/
theorem throughout_concat {condition : List β → β → Prop} {history : List β} {event : β}
    : Throughout condition (history ++ [event])
      ↔ Throughout condition history ∧ condition history event := by
  constructor
  · intro h
    refine ⟨?_, h history event [] rfl⟩
    intro before other after split
    exact h before other (after ++ [event]) (by simp [split])
  · intro h before other after split
    rcases List.eq_nil_or_concat after with rfl | ⟨rest, last, rfl⟩
    · obtain ⟨sameHistory, sameEvent⟩ := List.append_inj' split rfl
      cases sameEvent
      exact sameHistory ▸ h.2
    · rw [List.concat_eq_append, ← List.cons_append, ← List.append_assoc] at split
      obtain ⟨sameHistory, _⟩ := List.append_inj' split rfl
      exact h.1 before other rest sameHistory

end Foundations
