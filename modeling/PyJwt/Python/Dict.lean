import Mathlib.Data.List.Nodup
import PyJwt.Python.Text

/-! Python dictionaries with string keys: insertion-ordered entries under distinct keys. -/

namespace PyJwt.Python

universe u

variable {β : Type u}

/-- `entries[key]` of an entry list; `none` when the key is absent. -/
def getEntry (key : PyStr) : List (PyStr × β) → Option β
  | [] => none
  | head :: rest => if head.1 = key then some head.2 else getEntry key rest

/-- `entries[key] = value`: an existing key keeps its place, a new one goes last. -/
def setEntry (key : PyStr) (value : β) : List (PyStr × β) → List (PyStr × β)
  | [] => [(key, value)]
  | head :: rest =>
      if head.1 = key then (head.1, value) :: rest else head :: setEntry key value rest

/-- Setting an entry changes the keys only by appending a missing one. -/
theorem setEntry_keys (key : PyStr) (value : β) (entries : List (PyStr × β))
    : (setEntry key value entries).map Prod.fst
      = if key ∈ entries.map Prod.fst then entries.map Prod.fst
        else entries.map Prod.fst ++ [key] := by
  induction entries with
  | nil => simp [setEntry]
  | cons head rest ih =>
      by_cases same : head.1 = key
      · simp [setEntry, same]
      · simp only [setEntry, if_neg same, List.map_cons, ih, List.mem_cons,
          Ne.symm same, false_or]
        split <;> simp

/-- Setting an entry keeps the keys distinct. -/
theorem setEntry_nodup (key : PyStr) (value : β) {entries : List (PyStr × β)}
    (h : (entries.map Prod.fst).Nodup)
    : ((setEntry key value entries).map Prod.fst).Nodup := by
  rw [setEntry_keys]
  split
  · exact h
  · rename_i absent
    refine List.nodup_append.mpr ⟨h, by simp, ?_⟩
    intro present member other single same
    exact absent (List.mem_singleton.mp single ▸ same ▸ member)

/-- A lookup after setting an entry sees the new value at its key and the old ones
elsewhere, by induction on the entries.
-/
theorem getEntry_setEntry (key other : PyStr) (value : β) (entries : List (PyStr × β))
    : getEntry other (setEntry key value entries)
      = if other = key then some value else getEntry other entries := by
  induction entries with
  | nil => simp [setEntry, getEntry, eq_comm]
  | cons head rest ih =>
      by_cases here : head.1 = key
      · subst here
        by_cases same : other = head.1
        · simp [setEntry, getEntry, same]
        · simp [setEntry, getEntry, same, Ne.symm same]
      · simp only [setEntry, if_neg here, getEntry, ih]
        by_cases same : other = key
        · simp [same, here]
        · simp [same]

/-- `dict`. Distinct keys are part of the value. -/
structure Dict (β : Type u) where
  entries : List (PyStr × β)
  nodupKeys : (entries.map Prod.fst).Nodup

namespace Dict

@[ext] theorem ext {left right : Dict β} (h : left.entries = right.entries)
    : left = right := by
  cases left
  cases right
  simpa using h

def empty : Dict β := ⟨[], by simp⟩

/-- `dict.get(key)`; `none` when the key is absent. -/
def get? (dict : Dict β) (key : PyStr) : Option β :=
  getEntry key dict.entries

/-- `key in dict`. -/
def contains (dict : Dict β) (key : PyStr) : Bool :=
  (dict.get? key).isSome

def keys (dict : Dict β) : List PyStr :=
  dict.entries.map Prod.fst

/-- `dict[key] = value`. -/
def set (dict : Dict β) (key : PyStr) (value : β) : Dict β :=
  ⟨setEntry key value dict.entries, setEntry_nodup key value dict.nodupKeys⟩

/-- `del dict[key]` for a key that may be absent. -/
def erase (dict : Dict β) (key : PyStr) : Dict β :=
  ⟨
    dict.entries.filter (fun entry => entry.1 ≠ key),
    dict.nodupKeys.sublist (List.filter_sublist.map _)
  ⟩

/-- `dict.update(entries)`, also the reading of an entry list in which a repeated key
keeps its last value.
-/
def update (dict : Dict β) (entries : List (PyStr × β)) : Dict β :=
  entries.foldl (fun dict entry => dict.set entry.1 entry.2) dict

/-- `dict(entries)`. -/
def ofEntries (entries : List (PyStr × β)) : Dict β :=
  empty.update entries

/-- `{key: value for key, value in dict.items() if keep(key)}`. -/
def filterKeys (dict : Dict β) (keep : PyStr → Bool) : Dict β :=
  ⟨
    dict.entries.filter (fun entry => keep entry.1),
    dict.nodupKeys.sublist (List.filter_sublist.map _)
  ⟩

@[simp] theorem get?_empty (key : PyStr) : (empty : Dict β).get? key = none := rfl

@[simp] theorem get?_set (dict : Dict β) (key other : PyStr) (value : β)
    : (dict.set key value).get? other
      = if other = key then some value else dict.get? other :=
  getEntry_setEntry key other value dict.entries

/-- Keeping some keys hides exactly the others, by induction on the entries. -/
theorem get?_filterKeys (dict : Dict β) (keep : PyStr → Bool) (key : PyStr)
    : (dict.filterKeys keep).get? key = if keep key then dict.get? key else none := by
  obtain ⟨entries, nodup⟩ := dict
  simp only [get?, filterKeys]
  clear nodup
  induction entries with
  | nil => simp [getEntry]
  | cons head rest ih =>
      by_cases kept : keep head.1 = true
      · rw [List.filter_cons_of_pos (by exact kept)]
        simp only [getEntry, ih]
        by_cases same : head.1 = key
        · simp [same, same ▸ kept]
        · simp [same]
      · rw [List.filter_cons_of_neg (by exact kept), ih]
        by_cases same : head.1 = key
        · simp [← same, kept]
        · simp [getEntry, same]

/-- Erasing a key hides exactly that key: the others are kept. -/
@[simp] theorem get?_erase (dict : Dict β) (key other : PyStr)
    : (dict.erase key).get? other = if other = key then none else dict.get? other := by
  refine (get?_filterKeys dict (fun name => name ≠ key) other).trans ?_
  by_cases same : other = key <;> simp [same]

@[simp] theorem update_nil (dict : Dict β) : dict.update [] = dict := rfl

@[simp] theorem update_cons (dict : Dict β) (head : PyStr × β) (rest : List (PyStr × β))
    : dict.update (head :: rest) = (dict.set head.1 head.2).update rest :=
  rfl

/-- A key the update does not mention keeps its value. -/
theorem get?_update_of_not_mem (dict : Dict β) (entries : List (PyStr × β)) {key : PyStr}
    (h : key ∉ entries.map Prod.fst)
    : (dict.update entries).get? key = dict.get? key := by
  induction entries generalizing dict with
  | nil => rfl
  | cons head rest ih =>
      simp only [List.map_cons, List.mem_cons, not_or] at h
      rw [update_cons, ih _ h.2, get?_set, if_neg h.1]

/-- An update by a dictionary overrides the keys it has, by induction on its entries. -/
theorem get?_update (dict other : Dict β) (key : PyStr)
    : (dict.update other.entries).get? key = (other.get? key).or (dict.get? key) := by
  obtain ⟨entries, nodup⟩ := other
  change (dict.update entries).get? key = (getEntry key entries).or (dict.get? key)
  induction entries generalizing dict with
  | nil => simp [getEntry]
  | cons head rest ih =>
      simp only [List.map_cons, List.nodup_cons] at nodup
      rw [update_cons]
      by_cases same : head.1 = key
      · rw [get?_update_of_not_mem _ _ (same ▸ nodup.1), get?_set, if_pos same.symm]
        simp [getEntry, same]
      · rw [ih _ nodup.2, get?_set, if_neg (Ne.symm same)]
        simp [getEntry, same]

/-- Updating with new keys appends them, by induction on the update. -/
theorem update_entries (dict : Dict β) (entries : List (PyStr × β))
    (h : ((dict.entries ++ entries).map Prod.fst).Nodup)
    : (dict.update entries).entries = dict.entries ++ entries := by
  induction entries generalizing dict with
  | nil => simp
  | cons head rest ih =>
      have fresh : head.1 ∉ dict.entries.map Prod.fst := by
        intro member
        simp only [List.map_append, List.map_cons, List.nodup_append] at h
        exact h.2.2 head.1 member head.1 List.mem_cons_self rfl
      have appended (entries : List (PyStr × β)) (h : head.1 ∉ entries.map Prod.fst)
          : setEntry head.1 head.2 entries = entries ++ [head] := by
        induction entries with
        | nil => rfl
        | cons first more ih =>
            simp only [List.map_cons, List.mem_cons, not_or] at h
            simp only [setEntry, if_neg (Ne.symm h.1), ih h.2, List.cons_append]
      have grown : (dict.set head.1 head.2).entries = dict.entries ++ [head] :=
        appended dict.entries fresh
      rw [update_cons, ih, grown, List.append_assoc, List.singleton_append]
      rwa [grown, List.append_assoc, List.singleton_append]

/-- Reading a dictionary's own entries back gives the dictionary. -/
@[simp] theorem ofEntries_entries (dict : Dict β) : ofEntries dict.entries = dict := by
  apply ext
  simpa [ofEntries, empty] using update_entries empty dict.entries (by
    simp [empty, dict.nodupKeys])

/-- Entries with distinct keys are looked up where they stand. -/
theorem get?_ofEntries {entries : List (PyStr × β)} (h : (entries.map Prod.fst).Nodup)
    (key : PyStr)
    : (ofEntries entries).get? key = getEntry key entries := by
  have kept : (ofEntries entries).entries = entries := update_entries empty entries h
  rw [get?, kept]

/-- A key is present exactly when it is one of the keys. -/
theorem contains_iff_mem_keys {dict : Dict β} {key : PyStr}
    : dict.contains key = true ↔ key ∈ dict.keys := by
  obtain ⟨entries, nodup⟩ := dict
  simp only [contains, get?, keys]
  clear nodup
  induction entries with
  | nil => simp [getEntry]
  | cons head rest ih =>
      by_cases same : head.1 = key
      · simp [getEntry, same]
      · simpa [getEntry, same, Ne.symm same] using ih

/-- `{key: f(value) for key, value in dict.items()}`. -/
def mapValues {γ : Type u} (dict : Dict β) (f : β → γ) : Dict γ :=
  ⟨
    dict.entries.map (fun entry => (entry.1, f entry.2)),
    by
      rw [List.map_map]
      exact dict.nodupKeys
  ⟩

/-- A lookup finds the mapped value, by induction on the entries. -/
theorem get?_mapValues {γ : Type u} (dict : Dict β) (f : β → γ) (key : PyStr)
    : (dict.mapValues f).get? key = (dict.get? key).map f := by
  obtain ⟨entries, nodup⟩ := dict
  simp only [mapValues, get?]
  clear nodup
  induction entries with
  | nil => rfl
  | cons head rest ih =>
      by_cases same : head.1 = key
      · simp [getEntry, same]
      · simpa [getEntry, same] using ih

/-- Setting a present key rewrites its entry in place, by induction on the entries. -/
theorem set_entries_of_get? {dict : Dict β} {key : PyStr} {old : β}
    (found : dict.get? key = some old) (value : β)
    : (dict.set key value).entries
      = dict.entries.map (fun entry => if entry.1 = key then (key, value) else entry) := by
  obtain ⟨entries, nodup⟩ := dict
  simp only [get?, set] at found ⊢
  induction entries with
  | nil => cases found
  | cons head rest ih =>
      simp only [List.map_cons, List.nodup_cons] at nodup
      by_cases same : head.1 = key
      · subst same
        have others : rest.map (fun entry => if entry.1 = head.1 then (head.1, value) else entry)
            = rest := by
          refine (List.map_congr_left (fun entry member => ?_)).trans (List.map_id rest)
          rw [if_neg (fun again => nodup.1 (List.mem_map.mpr ⟨entry, member, again⟩))]
          rfl
        simp [setEntry, others]
      · simp only [getEntry, if_neg same] at found
        simp [setEntry, same, ih nodup.2 found]

end Dict

end PyJwt.Python
