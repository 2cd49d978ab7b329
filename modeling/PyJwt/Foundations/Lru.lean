import Mathlib.Data.Finset.Card
import PyJwt.Foundations.Stateful

/-! Caches that keep the most recently used entries, and computations that go through one.
What such a cache holds is a function of the uses made of it.
-/

namespace Foundations

variable {κ ν : Type} [DecidableEq κ]

-----------------------------------------------------------------------------------------
-- Recent uses
-----------------------------------------------------------------------------------------

/-- The entries after one more use: the used entry comes first. -/
def useEntry (entries : List (κ × ν)) (use : κ × ν) : List (κ × ν) :=
  use :: entries.filter (fun entry => entry.1 ≠ use.1)

/-- The last use of each key in the history, the most recent one first. -/
def recent (history : List (κ × ν)) : List (κ × ν) :=
  history.foldl useEntry []

@[simp] theorem recent_nil : recent ([] : List (κ × ν)) = [] :=
  rfl

@[simp] theorem recent_concat (history : List (κ × ν)) (use : κ × ν)
    : recent (history ++ [use]) = useEntry (recent history) use := by
  simp [recent]

/-- A key that is used stands for the key's earlier entry, so the keys stay distinct. -/
theorem nodup_useEntry {entries : List (κ × ν)} (h : (entries.map Prod.fst).Nodup)
    (use : κ × ν)
    : ((useEntry entries use).map Prod.fst).Nodup := by
  rw [useEntry, List.map_cons, List.nodup_cons]
  refine ⟨?_, h.sublist (List.filter_sublist.map _)⟩
  intro member
  obtain ⟨entry, kept, same⟩ := List.mem_map.mp member
  exact of_decide_eq_true (List.mem_filter.mp kept).2 same

theorem nodup_recent (history : List (κ × ν)) : ((recent history).map Prod.fst).Nodup := by
  induction history using List.reverseRecOn with
  | nil => exact List.nodup_nil
  | append_singleton history use ih =>
      rw [recent_concat]
      exact nodup_useEntry ih use

/-- The keys of the recent uses are all the keys of the history. -/
theorem mem_keys_recent {history : List (κ × ν)} {key : κ}
    : key ∈ (recent history).map Prod.fst ↔ key ∈ history.map Prod.fst := by
  induction history using List.reverseRecOn with
  | nil => rfl
  | append_singleton history use ih =>
      rw [recent_concat, useEntry, List.map_cons, List.mem_cons, List.map_append,
        List.mem_append, List.map_singleton, List.mem_singleton, ← ih]
      by_cases same : key = use.1
      · simp [same]
      · simp [same]

/-- There are as many recent uses as keys. -/
theorem length_recent (history : List (κ × ν))
    : (recent history).length = (history.map Prod.fst).toFinset.card := by
  have sameKeys : ((recent history).map Prod.fst).toFinset = (history.map Prod.fst).toFinset := by
    ext key
    rw [List.mem_toFinset, List.mem_toFinset, mem_keys_recent]
  rw [← sameKeys, List.toFinset_card_of_nodup (nodup_recent history), List.length_map]

/-- Later uses come first, and replace the earlier ones of their keys. By induction on the
later uses.
-/
theorem recent_append (before after : List (κ × ν))
    : recent (before ++ after)
      = recent after
        ++ (recent before).filter (fun entry => entry.1 ∉ after.map Prod.fst) := by
  induction after using List.reverseRecOn with
  | nil => simp
  | append_singleton after use ih =>
      rw [← List.append_assoc, recent_concat, ih, recent_concat]
      simp only [useEntry, List.filter_append, List.filter_filter, List.cons_append]
      congr 2
      apply List.filter_congr
      intro entry _
      simp only [List.map_append, List.map_singleton, List.mem_append, List.mem_singleton,
        not_or, Bool.decide_and, Bool.and_comm]

/-- A key that was used was used for a last time, by induction on the history. -/
theorem exists_lastUse {history : List (κ × ν)} {key : κ} (h : key ∈ history.map Prod.fst)
    : ∃ before value after,
        history = before ++ (key, value) :: after ∧ key ∉ after.map Prod.fst := by
  induction history with
  | nil => cases h
  | cons use rest ih =>
      by_cases later : key ∈ rest.map Prod.fst
      · obtain ⟨before, value, after, rfl, last⟩ := ih later
        exact ⟨use :: before, value, after, rfl, last⟩
      · obtain rfl : key = use.1 := by simpa [later] using h
        exact ⟨[], use.2, rest, rfl, later⟩

/-- The last use of a key comes after the uses of the keys that were used since. -/
theorem recent_lastUse (before after : List (κ × ν)) {key : κ} (value : ν)
    (last : key ∉ after.map Prod.fst)
    : ∃ older, recent (before ++ (key, value) :: after) = recent after ++ (key, value) :: older := by
  refine ⟨(recent before).filter
    (fun entry => entry.1 ∉ ((key, value) :: after).map Prod.fst), ?_⟩
  have single : recent [(key, value)] = [(key, value)] := rfl
  rw [recent_append, ← List.singleton_append, recent_append, single]
  simp [last]

-----------------------------------------------------------------------------------------
-- The cache
-----------------------------------------------------------------------------------------

/-- Entries under distinct keys, the most recently used first, and at most `capacity` of them. -/
structure Lru (κ ν : Type) where
  capacity : Nat
  entries : List (κ × ν)
  distinct : (entries.map Prod.fst).Nodup
  bounded : entries.length ≤ capacity

namespace Lru

def empty (capacity : Nat) : Lru κ ν := ⟨capacity, [], List.nodup_nil, Nat.zero_le _⟩

def get? (self : Lru κ ν) (key : κ) : Option ν :=
  self.entries.lookup key

/-- The used entry comes first, whether it is new or not, and what no longer fits is evicted
from the end.
-/
def use (self : Lru κ ν) (key : κ) (value : ν) : Lru κ ν where
  capacity := self.capacity
  entries := (useEntry self.entries (key, value)).take self.capacity
  distinct := (nodup_useEntry self.distinct (key, value)).sublist
    ((List.take_sublist _ _).map _)
  bounded := List.length_take_le _ _

/-- The cache after the uses, in order. -/
def useAll (self : Lru κ ν) (uses : List (κ × ν)) : Lru κ ν :=
  uses.foldl (fun cache entry => cache.use entry.1 entry.2) self

end Lru

/-- The computation with a cache before it: what it has returned for a key is returned again
while the cache has it, and what it stops at is not kept.
-/
def memoized {σ ω ε : Type} (run : κ → Stateful σ ω ε ν) (key : κ)
    : Stateful (σ × Lru κ ν) ω ε ν :=
  fun state =>
    match state.2.get? key with
    | some value => ⟨(state.1, state.2.use key value), [], .ok value⟩
    | none =>
        let step := run key state.1
        match step.result with
        | .ok value => ⟨(step.state, state.2.use key value), step.log, .ok value⟩
        | .error error => ⟨(step.state, state.2), step.log, .error error⟩

-----------------------------------------------------------------------------------------
-- What the cache holds
-----------------------------------------------------------------------------------------

/-- Of a list with distinct keys, taking a prefix before the removal of a key leaves at least
what fits beside that key.
-/
theorem take_filter_take {entries : List (κ × ν)} (h : (entries.map Prod.fst).Nodup) (key : κ)
    (count : Nat)
    : ((entries.take (count + 1)).filter (fun entry => entry.1 ≠ key)).take count
      = (entries.filter (fun entry => entry.1 ≠ key)).take count := by
  induction entries generalizing count with
  | nil => rfl
  | cons head rest ih =>
      rw [List.map_cons, List.nodup_cons] at h
      by_cases same : head.1 = key
      · have absent : ∀ entry ∈ rest, decide (entry.1 ≠ key) = true := by
          intro entry member
          refine decide_eq_true ?_
          intro again
          exact h.1 (same.trans again.symm ▸ List.mem_map_of_mem member)
        have absentPrefix : ∀ entry ∈ rest.take count, decide (entry.1 ≠ key) = true := by
          intro entry member
          exact absent entry (List.mem_of_mem_take member)
        simp only [List.take_succ_cons, List.filter_cons, same, ne_eq, not_true, decide_false,
          Bool.false_eq_true, if_false]
        rw [List.filter_eq_self.mpr absent, List.filter_eq_self.mpr absentPrefix,
          List.take_take, Nat.min_self]
      · cases count with
        | zero => rfl
        | succ count =>
            simp only [List.take_succ_cons, List.filter_cons, same, ne_eq, not_false_eq_true,
              decide_true, if_true]
            exact congrArg (head :: ·) (ih h.2 count)

namespace Lru

/-- The cache holds as many of the recent uses as fit. -/
def Recalls (self : Lru κ ν) (history : List (κ × ν)) : Prop :=
  self.entries = (recent history).take self.capacity

theorem recalls_empty (capacity : Nat) : (empty capacity : Lru κ ν).Recalls [] :=
  List.take_nil.symm

/-- Every use keeps the cache recalling the history. -/
theorem Recalls.use {self : Lru κ ν} {history : List (κ × ν)} (h : self.Recalls history)
    (key : κ) (value : ν)
    : (self.use key value).Recalls (history ++ [(key, value)]) := by
  unfold Recalls at h ⊢
  rw [recent_concat]
  show (useEntry self.entries (key, value)).take self.capacity = _
  rw [h, useEntry, useEntry]
  show _ = List.take self.capacity _
  cases self.capacity with
  | zero => rfl
  | succ count =>
      simp only [List.take_succ_cons]
      exact congrArg ((key, value) :: ·) (take_filter_take (nodup_recent history) key count)

theorem Recalls.useAll {self : Lru κ ν} {history : List (κ × ν)} (h : self.Recalls history)
    (uses : List (κ × ν))
    : (self.useAll uses).Recalls (history ++ uses)
      ∧ (self.useAll uses).capacity = self.capacity := by
  induction uses generalizing self history with
  | nil =>
      rw [List.append_nil]
      exact ⟨h, rfl⟩
  | cons entry rest ih =>
      rw [List.append_cons]
      exact ih (h.use entry.1 entry.2)

/-- The value was used with the key the last time, and since then fewer other keys than fit. -/
def Keeps (capacity : Nat) (history : List (κ × ν)) (key : κ) (value : ν) : Prop :=
  ∃ before after,
    history = before ++ (key, value) :: after
    ∧ key ∉ after.map Prod.fst
    ∧ (after.map Prod.fst).toFinset.card < capacity

/-- Nothing is found among entries with other keys. -/
theorem lookup_eq_none {entries : List (κ × ν)} {key : κ} (h : key ∉ entries.map Prod.fst)
    : entries.lookup key = none := by
  rw [List.lookup_eq_none_iff]
  intro entry member
  rw [bne_iff_ne]
  intro same
  exact h (same ▸ List.mem_map_of_mem member)

/-- A key that was never used is not found. -/
theorem Recalls.get?_of_unused {self : Lru κ ν} {history : List (κ × ν)}
    (h : self.Recalls history) {key : κ} (unused : key ∉ history.map Prod.fst)
    : self.get? key = none := by
  refine lookup_eq_none ?_
  rw [h]
  intro member
  exact unused (mem_keys_recent.mp ((List.take_sublist _ _).map _ |>.subset member))

/-- The last use of a key is found until too many other keys have been used. -/
theorem Recalls.get?_of_lastUse {self : Lru κ ν} {before after : List (κ × ν)} {key : κ}
    {value : ν} (h : self.Recalls (before ++ (key, value) :: after))
    (last : key ∉ after.map Prod.fst)
    : self.get? key
      = if (after.map Prod.fst).toFinset.card < self.capacity then some value else none := by
  obtain ⟨older, shape⟩ := recent_lastUse before after value last
  have absent : key ∉ (recent after).map Prod.fst := last ∘ mem_keys_recent.mp
  unfold get?
  rw [h, shape, ← length_recent, List.take_append, List.lookup_append]
  have newer : ((recent after).take self.capacity).lookup key = none := by
    refine lookup_eq_none ?_
    intro member
    exact absent ((List.take_sublist _ _).map _ |>.subset member)
  rw [newer, Option.none_or]
  split
  · rename_i fits
    obtain ⟨room, count⟩ := Nat.exists_eq_add_of_lt fits
    rw [show self.capacity - (recent after).length = room + 1 by omega, List.take_succ_cons]
    exact List.lookup_cons_self
  · rename_i full
    rw [Nat.sub_eq_zero_of_le (Nat.le_of_not_lt full)]
    rfl

/-- An entry is found precisely where its key was used and too few others have been since. -/
theorem Recalls.get?_eq_some_iff {self : Lru κ ν} {history : List (κ × ν)}
    (h : self.Recalls history) {key : κ} {value : ν}
    : self.get? key = some value ↔ Keeps self.capacity history key value := by
  constructor
  · intro found
    by_cases used : key ∈ history.map Prod.fst
    · obtain ⟨before, kept, after, rfl, last⟩ := exists_lastUse used
      rw [h.get?_of_lastUse last] at found
      split at found
      · rename_i fits
        cases found
        exact ⟨before, after, rfl, last, fits⟩
      · cases found
    · rw [h.get?_of_unused used] at found
      cases found
  · intro kept
    obtain ⟨before, after, rfl, last, fits⟩ := kept
    rw [h.get?_of_lastUse last, if_pos fits]

end Lru

-----------------------------------------------------------------------------------------
-- Computations through a cache
-----------------------------------------------------------------------------------------

section Memoized

variable {σ ω ε : Type} {run : κ → Stateful σ ω ε ν} {key : κ} {state : σ} {cache : Lru κ ν}

/-- The use that a computation makes of its key: one, if it returns. -/
def answered (key : κ) : Except ε ν → List (κ × ν)
  | .ok value => [(key, value)]
  | .error _ => []

theorem memoized_of_hit {value : ν} (h : cache.get? key = some value)
    : memoized run key (state, cache) = ⟨(state, cache.use key value), [], .ok value⟩ := by
  simp only [memoized, h]

/-- Without an entry the computation runs as it does without the cache. -/
theorem memoized_of_miss (h : cache.get? key = none)
    : memoized run key (state, cache)
      = ⟨
          ((run key state).state,
            cache.useAll (answered key (run key state).result)),
          (run key state).log,
          (run key state).result
        ⟩ := by
  simp only [memoized, h]
  cases (run key state).result <;> rfl

end Memoized

end Foundations
