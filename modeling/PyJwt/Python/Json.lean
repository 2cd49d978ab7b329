import Mathlib.Data.List.Lex
import Mathlib.Data.List.Sort
import PyJwt.Python.Dict

/-! The values `json.loads` produces and `json.dumps` accepts. A `dict` node lists its
entries; the ones that come from a Python dictionary have distinct keys.
-/

namespace PyJwt.Python

/-- `float`, in exact arithmetic where finite. -/
inductive PyFloat
  | finite (value : Rat)
  | posInf
  | negInf
  | nan

inductive Json
  | null
  | bool (value : Bool)
  | int (value : Int)
  | float (value : PyFloat)
  | str (value : PyStr)
  | list (items : List Json)
  | dict (entries : List (PyStr × Json))

/-- `bool(value)`. Only a zero is a false number; `nan` is true. -/
def PyFloat.truthy : PyFloat → Bool
  | finite value => value ≠ 0
  | posInf | negInf | nan => true

/-- `bool(value)`. -/
def Json.truthy : Json → Bool
  | null => false
  | bool value => value
  | int value => value ≠ 0
  | float value => value.truthy
  | str value => value ≠ ""
  | list items => !items.isEmpty
  | dict entries => !entries.isEmpty

/-- `isinstance(value, dict)`, with the value read as a dictionary. -/
def Json.asDict? : Json → Option (Dict Json)
  | dict entries => some (Dict.ofEntries entries)
  | _ => none

/-- `isinstance(value, str)`, with the value read as a string. -/
def Json.asStr? : Json → Option PyStr
  | str value => some value
  | _ => none

/-- A Python dictionary as a JSON value. -/
def Dict.toJson (dict : Dict Json) : Json := .dict dict.entries

@[simp] theorem Dict.asDict?_toJson (dict : Dict Json) : dict.toJson.asDict? = some dict := by
  simp [Dict.toJson, Json.asDict?]

theorem Json.asStr?_eq_some {value : Json} {text : PyStr}
    : value.asStr? = some text ↔ value = .str text := by
  cases value <;> simp [Json.asStr?]

/-- `value is False`: only the constant itself, no other false value. -/
def Json.isFalse : Json → Bool
  | bool false => true
  | _ => false

theorem Json.isFalse_iff {value : Json} : value.isFalse = true ↔ value = .bool false := by
  constructor
  · intro h
    cases value with
    | bool value => cases value <;> simp_all [Json.isFalse]
    | _ => simp [Json.isFalse] at h
  · rintro rfl
    rfl

-----------------------------------------------------------------------------------------
-- `sort_keys=True`
-----------------------------------------------------------------------------------------

/-- Strings compare by the code points at the first difference. -/
def PyStr.le (left right : PyStr) : Bool :=
  left.codePoints.map CodePoint.ord ≤ right.codePoints.map CodePoint.ord

/-- `sorted(dict.items())`: keys are distinct, so only they are compared. -/
def sortEntries {β : Type} (entries : List (PyStr × β)) : List (PyStr × β) :=
  entries.insertionSort (fun left right => left.1.le right.1)

mutual
/-- The value whose plain dump is the `sort_keys=True` dump of `value`. -/
def Json.sortKeys : Json → Json
  | .list items => .list (sortItems items)
  | .dict entries => .dict (sortEntries (sortValues entries))
  | .null => .null
  | .bool value => .bool value
  | .int value => .int value
  | .float value => .float value
  | .str value => .str value

def sortItems : List Json → List Json
  | [] => []
  | head :: rest => head.sortKeys :: sortItems rest

def sortValues : List (PyStr × Json) → List (PyStr × Json)
  | [] => []
  | (key, value) :: rest => (key, value.sortKeys) :: sortValues rest
end

@[simp] theorem Json.sortKeys_list (items : List Json)
    : (Json.list items).sortKeys = .list (sortItems items) :=
  rfl

@[simp] theorem Json.sortKeys_dict (entries : List (PyStr × Json))
    : (Json.dict entries).sortKeys = .dict (sortEntries (sortValues entries)) :=
  rfl

@[simp] theorem Json.sortKeys_null : Json.null.sortKeys = .null := rfl

@[simp] theorem Json.sortKeys_bool (value : Bool) : (Json.bool value).sortKeys = .bool value := rfl

@[simp] theorem Json.sortKeys_int (value : Int) : (Json.int value).sortKeys = .int value := rfl

@[simp] theorem Json.sortKeys_float (value : PyFloat)
    : (Json.float value).sortKeys = .float value :=
  rfl

@[simp] theorem Json.sortKeys_str (value : PyStr) : (Json.str value).sortKeys = .str value := rfl

@[simp] theorem sortItems_nil : sortItems [] = [] := rfl

@[simp] theorem sortItems_cons (head : Json) (rest : List Json)
    : sortItems (head :: rest) = head.sortKeys :: sortItems rest :=
  rfl

@[simp] theorem sortValues_nil : sortValues [] = [] := rfl

@[simp] theorem sortValues_cons (entry : PyStr × Json) (rest : List (PyStr × Json))
    : sortValues (entry :: rest) = (entry.1, entry.2.sortKeys) :: sortValues rest :=
  rfl

theorem sortEntries_perm {β : Type} (entries : List (PyStr × β))
    : (sortEntries entries).Perm entries :=
  List.perm_insertionSort _ entries

/-- Sorting a dictionary's values leaves its keys in place, by induction on the entries. -/
theorem sortValues_keys (entries : List (PyStr × Json))
    : (sortValues entries).map Prod.fst = entries.map Prod.fst := by
  induction entries with
  | nil => simp
  | cons head rest ih => simp [ih]

/-- A lookup finds the sorted value of the key, by induction on the entries. -/
theorem getEntry_sortValues (key : PyStr) (entries : List (PyStr × Json))
    : getEntry key (sortValues entries) = (getEntry key entries).map Json.sortKeys := by
  induction entries with
  | nil => simp [getEntry]
  | cons head rest ih =>
      obtain ⟨first, value⟩ := head
      by_cases same : first = key <;> simp [getEntry, same, ih]

/-- A present key's value is the one its entry holds. -/
theorem getEntry_eq_some_iff {β : Type} {entries : List (PyStr × β)} {key : PyStr}
    {value : β} (h : (entries.map Prod.fst).Nodup)
    : getEntry key entries = some value ↔ (key, value) ∈ entries := by
  induction entries with
  | nil => simp [getEntry]
  | cons head rest ih =>
      obtain ⟨first, stored⟩ := head
      simp only [List.map_cons, List.nodup_cons] at h
      by_cases same : first = key
      · subst same
        have absent : (first, value) ∉ rest := fun member =>
          h.1 (List.mem_map_of_mem (f := Prod.fst) member)
        simp [getEntry, absent, eq_comm]
      · simp [getEntry, same, ih h.2, Ne.symm same]

/-- Reordering distinct keys changes no lookup. -/
theorem getEntry_perm {β : Type} {left right : List (PyStr × β)} (h : left.Perm right)
    (nodup : (left.map Prod.fst).Nodup) (key : PyStr)
    : getEntry key left = getEntry key right := by
  apply Option.ext
  intro value
  rw [getEntry_eq_some_iff nodup, getEntry_eq_some_iff ((h.map Prod.fst).nodup_iff.mp nodup),
    h.mem_iff]

/-- The dictionary written by a dump, which `sort_keys` orders deeply by key. -/
def Dict.dumped (sortKeys : Bool) (dict : Dict Json) : Dict Json :=
  if sortKeys then
    ⟨
      sortEntries (sortValues dict.entries),
      (((sortEntries_perm _).map Prod.fst).nodup_iff).mpr
        (by rw [sortValues_keys]; exact dict.nodupKeys)
    ⟩
  else dict

/-- The value a lookup in the dumped dictionary finds. -/
def Json.dumped (sortKeys : Bool) (value : Json) : Json :=
  if sortKeys then value.sortKeys else value

@[simp] theorem Json.dumped_str (sortKeys : Bool) (text : PyStr)
    : (Json.str text).dumped sortKeys = .str text := by
  cases sortKeys <;> simp [Json.dumped]

@[simp] theorem Json.dumped_bool (sortKeys value : Bool)
    : (Json.bool value).dumped sortKeys = .bool value := by
  cases sortKeys <;> simp [Json.dumped]

/-- Sorting keys leaves a list of strings alone, by induction on the list. -/
theorem sortItems_strs (texts : List PyStr)
    : sortItems (texts.map .str) = texts.map .str := by
  induction texts with
  | nil => simp
  | cons head rest ih => simp [ih]

theorem Json.dumped_strs (sortKeys : Bool) (texts : List PyStr)
    : (Json.list (texts.map .str)).dumped sortKeys = .list (texts.map .str) := by
  cases sortKeys <;> simp [Json.dumped, sortItems_strs]

theorem Json.dumped_eq_str {sortKeys : Bool} {value : Json} {text : PyStr}
    : value.dumped sortKeys = .str text ↔ value = .str text := by
  cases sortKeys <;> cases value <;> simp [Json.dumped]

/-- Dumping with or without `sort_keys` keeps every key and its value. -/
theorem Dict.get?_dumped (sortKeys : Bool) (dict : Dict Json) (key : PyStr)
    : (dict.dumped sortKeys).get? key = (dict.get? key).map (Json.dumped sortKeys) := by
  cases sortKeys with
  | false =>
      have same : Json.dumped false = id := by
        funext value
        simp [Json.dumped]
      simp [Dict.dumped, same]
  | true =>
      have nodup : ((sortEntries (sortValues dict.entries)).map Prod.fst).Nodup :=
        (dict.dumped true).nodupKeys
      have same : Json.dumped true = Json.sortKeys := by
        funext value
        simp [Json.dumped]
      simp only [Dict.dumped, if_true, Dict.get?, same]
      rw [getEntry_perm (sortEntries_perm _) nodup, getEntry_sortValues]

-----------------------------------------------------------------------------------------
-- Equality up to the order of entries
-----------------------------------------------------------------------------------------

mutual
/-- `left == right` for values that differ at most in the order of dictionary entries. -/
inductive Json.Same : Json → Json → Prop
  | refl (value : Json) : Json.Same value value
  | list {left right : List Json} (items : SameItems left right)
    : Json.Same (.list left) (.list right)
  | dict {left middle right : List (PyStr × Json)} (values : SameValues left middle)
    (order : middle.Perm right)
    : Json.Same (.dict left) (.dict right)

inductive SameItems : List Json → List Json → Prop
  | nil : SameItems [] []
  | cons {left right : Json} {lefts rights : List Json} (head : Json.Same left right)
    (rest : SameItems lefts rights)
    : SameItems (left :: lefts) (right :: rights)

inductive SameValues : List (PyStr × Json) → List (PyStr × Json) → Prop
  | nil : SameValues [] []
  | cons {key : PyStr} {left right : Json} {lefts rights : List (PyStr × Json)}
    (head : Json.Same left right) (rest : SameValues lefts rights)
    : SameValues ((key, left) :: lefts) ((key, right) :: rights)
end

mutual
/-- Sorting keys gives an equal value, by induction on the value. -/
theorem Json.same_sortKeys (value : Json) : Json.Same value value.sortKeys := by
  cases value with
  | list items =>
      rw [Json.sortKeys_list]
      exact .list (sameItems_sortItems items)
  | dict entries =>
      rw [Json.sortKeys_dict]
      exact .dict (sameValues_sortValues entries) (sortEntries_perm _).symm
  | null | bool _ | int _ | float _ | str _ => exact .refl _

theorem sameItems_sortItems (items : List Json) : SameItems items (sortItems items) := by
  cases items with
  | nil => exact .nil
  | cons head rest => exact .cons (Json.same_sortKeys head) (sameItems_sortItems rest)

theorem sameValues_sortValues (entries : List (PyStr × Json))
    : SameValues entries (sortValues entries) := by
  cases entries with
  | nil => exact .nil
  | cons head rest => exact .cons (Json.same_sortKeys head.2) (sameValues_sortValues rest)
end

theorem Json.same_dumped (sortKeys : Bool) (value : Json)
    : Json.Same value (value.dumped sortKeys) := by
  cases sortKeys with
  | false => exact .refl value
  | true => exact Json.same_sortKeys value

end PyJwt.Python
