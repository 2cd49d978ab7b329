import Mathlib.Data.List.Basic

/-! Objects that are made one after another and called by reference. What an object is depends
on how it was made and on the messages it received, and on nothing else.
-/

namespace Foundations

/-- One more object is made, or the object at a reference receives a message. -/
inductive ObjectAction (α κ : Type)
  | make (object : α)
  | send (ref : Nat) (message : κ)

namespace ObjectAction

variable {α κ : Type} {receive : α → κ → α}

/-- The objects afterwards. A message to a reference that no object has is lost. -/
def apply (receive : α → κ → α) (objects : List α) : ObjectAction α κ → List α
  | make object => objects ++ [object]
  | send ref message => objects.modify ref (receive · message)

/-- The message that the object at the reference receives. -/
def message? (ref : Nat) : ObjectAction α κ → Option κ
  | make _ => none
  | send target message => if target = ref then some message else none

/-- The messages that the object at the reference receives, in their order. -/
def received (ref : Nat) (actions : List (ObjectAction α κ)) : List κ :=
  actions.filterMap (message? ref)

theorem received_cons (ref : Nat) (action : ObjectAction α κ)
    (rest : List (ObjectAction α κ))
    : received ref (action :: rest) = (action.message? ref).toList ++ received ref rest := by
  unfold received
  cases h : action.message? ref <;> simp [h]

/-- One action changes an object only by a message to it. -/
theorem getElem?_apply {objects : List α} {ref : Nat} {object : α}
    (h : objects[ref]? = some object) (action : ObjectAction α κ)
    : (action.apply receive objects)[ref]?
      = some ((action.message? ref).toList.foldl receive object) := by
  cases action with
  | make made =>
      obtain ⟨bound, _⟩ := List.getElem?_eq_some_iff.mp h
      simpa [apply, message?, List.getElem?_append_left bound] using h
  | send target message =>
      simp only [apply, message?, List.getElem?_modify, h]
      by_cases same : target = ref
      · simp [same]
      · simp [same]

/-- An object is what the messages it received have made of it, by induction on the actions. -/
theorem getElem?_foldl {objects : List α} {ref : Nat} {object : α}
    (h : objects[ref]? = some object) (actions : List (ObjectAction α κ))
    : (actions.foldl (apply receive) objects)[ref]?
      = some ((received ref actions).foldl receive object) := by
  induction actions generalizing objects object with
  | nil => exact h
  | cons action rest ih =>
      rw [List.foldl_cons, ih (getElem?_apply h action), received_cons, List.foldl_append]

/-- An object that is made is the next one, and is what later messages make of it. -/
theorem getElem?_made (objects : List α) (before : List (ObjectAction α κ)) (object : α)
    (rest : List (ObjectAction α κ))
    : ((before ++ make object :: rest).foldl (apply receive) objects)[
          (before.foldl (apply receive) objects).length]?
      = some ((received (before.foldl (apply receive) objects).length rest).foldl receive
          object) := by
  rw [List.foldl_append, List.foldl_cons]
  exact getElem?_foldl (by simp [apply]) rest

/-- No action takes an object away. -/
theorem length_le_length_foldl (objects : List α) (actions : List (ObjectAction α κ))
    : objects.length ≤ (actions.foldl (apply receive) objects).length := by
  induction actions generalizing objects with
  | nil => exact Nat.le_refl _
  | cons action rest ih =>
      refine Nat.le_trans ?_ (ih _)
      cases action <;> simp [apply]

end ObjectAction

end Foundations
