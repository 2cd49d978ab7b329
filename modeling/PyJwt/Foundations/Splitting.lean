import Mathlib.Data.List.Basic

/-! Splitting a list once, at its first or at its last separator. -/

namespace Foundations

variable {α : Type} [DecidableEq α]

/-- The parts around the first `separator`. -/
def splitFirst (separator : α) : List α → Option (List α × List α)
  | [] => none
  | head :: rest =>
      if head = separator then some ([], rest)
      else (splitFirst separator rest).map (fun parts => (head :: parts.1, parts.2))

/-- The parts around the last `separator`. -/
def splitLast (separator : α) : List α → Option (List α × List α)
  | [] => none
  | head :: rest =>
      match splitLast separator rest with
      | some parts => some (head :: parts.1, parts.2)
      | none => if head = separator then some ([], rest) else none

@[simp] theorem splitFirst_nil {separator : α} : splitFirst separator [] = none :=
  rfl

@[simp] theorem splitFirst_cons {separator head : α} {rest : List α}
    : splitFirst separator (head :: rest)
      = if head = separator then some ([], rest)
        else (splitFirst separator rest).map (fun parts => (head :: parts.1, parts.2)) :=
  rfl

@[simp] theorem splitLast_nil {separator : α} : splitLast separator [] = none :=
  rfl

/-- The head is looked at only where no separator is further on. -/
theorem splitLast_cons {separator head : α} {rest : List α}
    : splitLast separator (head :: rest)
      = (splitLast separator rest).elim
          (if head = separator then some ([], rest) else none)
          (fun parts => some (head :: parts.1, parts.2)) := by
  rw [splitLast]
  cases splitLast separator rest with
  | none => rfl
  | some parts => rfl

/-- Splitting at the first separator leaves none on the left, by induction on the input. -/
theorem splitFirst_eq_some_iff {separator : α} {input left right : List α}
    : splitFirst separator input = some (left, right)
      ↔ input = left ++ separator :: right ∧ separator ∉ left := by
  induction input generalizing left with
  | nil => simp
  | cons head rest ih =>
      by_cases here : head = separator
      · subst here
        cases left with
        | nil => simp [eq_comm]
        | cons first more =>
            simp only [splitFirst_cons, if_true, Option.some.injEq, Prod.mk.injEq,
              List.cons_append, List.cons.injEq, List.mem_cons, not_or]
            constructor
            · intro h
              obtain ⟨bad, _⟩ := h
              cases bad
            · intro h
              obtain ⟨⟨same, _⟩, differs, _⟩ := h
              exact absurd same differs
      · cases left with
        | nil => simp [here]
        | cons first more =>
            simp only [splitFirst_cons, if_neg here, Option.map_eq_some_iff, Prod.mk.injEq,
              List.cons_append, List.cons.injEq, List.mem_cons, not_or]
            constructor
            · intro h
              obtain ⟨⟨_, _⟩, found, ⟨rfl, rfl⟩, rfl⟩ := h
              obtain ⟨tail, absent⟩ := ih.mp found
              exact ⟨⟨rfl, tail⟩, Ne.symm here, absent⟩
            · intro h
              obtain ⟨⟨rfl, tail⟩, _, absent⟩ := h
              exact ⟨(more, right), ih.mpr ⟨tail, absent⟩, ⟨rfl, rfl⟩, rfl⟩

/-- Only an input without the separator cannot be split at its last one. -/
theorem splitLast_eq_none_iff {separator : α} {input : List α}
    : splitLast separator input = none ↔ separator ∉ input := by
  induction input with
  | nil => simp
  | cons head rest ih =>
      cases found : splitLast separator rest with
      | none =>
          have absent := ih.mp found
          rw [splitLast_cons, found, Option.elim_none]
          by_cases here : head = separator
          · simp [here]
          · simp [here, absent, Ne.symm here]
      | some parts =>
          have present : separator ∈ rest := by
            by_contra absent
            simp [ih.mpr absent] at found
          simp [splitLast_cons, found, present]

/-- Splitting at the last separator leaves none on the right, by induction on the input. -/
theorem splitLast_eq_some_iff {separator : α} {input left right : List α}
    : splitLast separator input = some (left, right)
      ↔ input = left ++ separator :: right ∧ separator ∉ right := by
  induction input generalizing left right with
  | nil => simp
  | cons head rest ih =>
      cases found : splitLast separator rest with
      | none =>
          have absent := splitLast_eq_none_iff.mp found
          rw [splitLast_cons, found, Option.elim_none]
          cases left with
          | nil =>
              by_cases here : head = separator
              · subst here
                simp only [if_true, Option.some.injEq, Prod.mk.injEq, true_and,
                  List.nil_append, List.cons.injEq]
                exact ⟨fun same => ⟨same, same ▸ absent⟩, fun same => same.1⟩
              · simp [here]
          | cons first more =>
              constructor
              · intro bad
                by_cases here : head = separator <;> simp [here] at bad
              · intro h
                obtain ⟨whole, _⟩ := h
                simp only [List.cons_append, List.cons.injEq] at whole
                exact absurd (by simp [whole.2] : separator ∈ rest) absent
      | some parts =>
          obtain ⟨before, after⟩ := parts
          obtain ⟨inner, absent⟩ := ih.mp found
          rw [splitLast_cons, found, Option.elim_some]
          cases left with
          | nil =>
              simp only [Option.some.injEq, Prod.mk.injEq, List.nil_append, List.cons.injEq]
              constructor
              · intro h
                obtain ⟨bad, _⟩ := h
                cases bad
              · intro h
                obtain ⟨⟨_, same⟩, clean⟩ := h
                exact absurd (by simp [← same, inner] : separator ∈ right) clean
          | cons first more =>
              simp only [Option.some.injEq, Prod.mk.injEq, List.cons_append, List.cons.injEq]
              constructor
              · intro h
                obtain ⟨⟨rfl, rfl⟩, rfl⟩ := h
                exact ⟨⟨rfl, inner⟩, absent⟩
              · intro h
                obtain ⟨⟨rfl, tail⟩, clean⟩ := h
                have again := ih.mpr ⟨tail, clean⟩
                rw [found] at again
                simp only [Option.some.injEq, Prod.mk.injEq] at again
                exact ⟨⟨rfl, again.1⟩, again.2⟩

/-- A prefix free of separators is what a first split gives back. -/
theorem splitFirst_append {separator : α} {left : List α} (h : separator ∉ left)
    (right : List α)
    : splitFirst separator (left ++ separator :: right) = some (left, right) :=
  splitFirst_eq_some_iff.mpr ⟨rfl, h⟩

/-- A suffix free of separators is what a last split gives back. -/
theorem splitLast_append {separator : α} (left : List α) {right : List α}
    (h : separator ∉ right)
    : splitLast separator (left ++ separator :: right) = some (left, right) :=
  splitLast_eq_some_iff.mpr ⟨rfl, h⟩

end Foundations
