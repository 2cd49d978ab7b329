import PyJwt.Correctness.EmittedHeader

/-! What `sort_headers` is for: the token depends on the headers as a mapping, and on no order in
which they were written, at any depth.
-/

namespace PyJwt

open Foundations
open Python

-----------------------------------------------------------------------------------------
-- Sorted entries
-----------------------------------------------------------------------------------------

namespace Python

/-- No character has the value of a surrogate. -/
theorem CodePoint.ord_injective : Function.Injective CodePoint.ord := by
  have separate (char : Char) (offset : Fin 0x800)
      : (CodePoint.scalar char).ord ≠ (CodePoint.surrogate offset).ord := by
    have valid : char.toNat < 0xD800 ∨ 0xDFFF < char.toNat ∧ char.toNat < 0x110000 := char.valid
    have small := offset.isLt
    simp only [CodePoint.ord]
    omega
  intro left right same
  cases left with
  | scalar char =>
      cases right with
      | scalar other => rw [Char.toNat_inj.mp same]
      | surrogate offset => exact absurd same (separate char offset)
  | surrogate offset =>
      cases right with
      | scalar char => exact absurd same.symm (separate char offset)
      | surrogate other =>
          simp only [CodePoint.ord, Nat.add_left_cancel_iff] at same
          rw [Fin.ext same]

theorem PyStr.eq_of_le {left right : PyStr} (h : left.le right = true)
    (h' : right.le left = true)
    : left = right := by
  simp only [PyStr.le, decide_eq_true_eq] at h h'
  have same := List.map_injective_iff.mpr CodePoint.ord_injective (le_antisymm h h')
  cases left
  cases right
  rw [PyStr.mk.injEq]
  exact same

instance {β : Type} : Std.Total (fun left right : PyStr × β => left.1.le right.1 = true) where
  total left right := by
    simp only [PyStr.le, decide_eq_true_eq]
    exact le_total _ _

instance {β : Type} : IsTrans (PyStr × β) (fun left right => left.1.le right.1 = true) where
  trans first second third h h' := by
    simp only [PyStr.le, decide_eq_true_eq] at *
    exact le_trans h h'

/-- Entries with distinct keys are sorted into one order only. -/
theorem sortEntries_eq_of_perm {β : Type} {left right : List (PyStr × β)} (h : left.Perm right)
    (nodup : (left.map Prod.fst).Nodup)
    : sortEntries left = sortEntries right := by
  have same := ((sortEntries_perm left).trans h).trans (sortEntries_perm right).symm
  refine List.Perm.eq_of_pairwise ?_ (List.pairwise_insertionSort _ left)
    (List.pairwise_insertionSort _ right) same
  intro first second member member' le le'
  have key := PyStr.eq_of_le le le'
  have stored := (getEntry_eq_some_iff nodup).mpr ((sortEntries_perm left).mem_iff.mp member)
  have stored' := (getEntry_eq_some_iff nodup).mpr
    (h.symm.mem_iff.mp ((sortEntries_perm right).mem_iff.mp member'))
  rw [key, stored'] at stored
  exact Prod.ext key (Option.some.inj stored).symm

-----------------------------------------------------------------------------------------
-- Sorted values
-----------------------------------------------------------------------------------------

mutual
/-- The dictionaries in the value have distinct keys, as all of Python's have. -/
def Json.Distinct : Json → Prop
  | .list items => DistinctItems items
  | .dict entries => (entries.map Prod.fst).Nodup ∧ DistinctValues entries
  | .null | .bool _ | .int _ | .float _ | .str _ => True

def DistinctItems : List Json → Prop
  | [] => True
  | head :: rest => head.Distinct ∧ DistinctItems rest

def DistinctValues : List (PyStr × Json) → Prop
  | [] => True
  | (_, value) :: rest => value.Distinct ∧ DistinctValues rest
end

theorem sortValues_eq_map (entries : List (PyStr × Json))
    : sortValues entries = entries.map (fun entry => (entry.1, entry.2.sortKeys)) := by
  induction entries with
  | nil => simp
  | cons head rest ih => simp [ih]

theorem SameValues.keys {left right : List (PyStr × Json)} (h : SameValues left right)
    : left.map Prod.fst = right.map Prod.fst := by
  cases h with
  | nil => rfl
  | cons _ rest => simp [rest.keys]

mutual
/-- Equal values have one sorted form, by induction on why they are equal. -/
theorem Json.Same.sortKeys_eq {left right : Json} (h : Json.Same left right)
    (distinct : left.Distinct)
    : left.sortKeys = right.sortKeys := by
  cases h with
  | refl _ => rfl
  | list items =>
      rw [Json.Distinct] at distinct
      rw [Json.sortKeys_list, Json.sortKeys_list, items.sortItems_eq distinct]
  | @dict left middle right values order =>
      rw [Json.Distinct] at distinct
      have sorted : (sortValues middle).Perm (sortValues right) := by
        rw [sortValues_eq_map, sortValues_eq_map]
        exact order.map _
      have nodup : ((sortValues middle).map Prod.fst).Nodup := by
        rw [sortValues_keys, ← values.keys]
        exact distinct.1
      rw [Json.sortKeys_dict, Json.sortKeys_dict, values.sortValues_eq distinct.2,
        sortEntries_eq_of_perm sorted nodup]

theorem SameItems.sortItems_eq {left right : List Json} (h : SameItems left right)
    (distinct : DistinctItems left)
    : sortItems left = sortItems right := by
  cases h with
  | nil => rfl
  | cons head rest =>
      rw [DistinctItems] at distinct
      rw [sortItems_cons, sortItems_cons, head.sortKeys_eq distinct.1,
        rest.sortItems_eq distinct.2]

theorem SameValues.sortValues_eq {left right : List (PyStr × Json)} (h : SameValues left right)
    (distinct : DistinctValues left)
    : sortValues left = sortValues right := by
  cases h with
  | nil => rfl
  | cons head rest =>
      rw [DistinctValues] at distinct
      rw [sortValues_cons, sortValues_cons, head.sortKeys_eq distinct.1,
        rest.sortValues_eq distinct.2]
end

/-- Sorting neither empties a value nor fills one. -/
theorem Json.truthy_sortKeys (value : Json) : value.sortKeys.truthy = value.truthy := by
  cases value with
  | list items => cases items <;> simp [Json.truthy]
  | dict entries =>
      have empty : (sortValues entries).isEmpty = entries.isEmpty := by
        cases entries <;> simp
      simp only [Json.sortKeys_dict, Json.truthy, (sortEntries_perm _).isEmpty_eq, empty]
  | null | bool _ | int _ | float _ | str _ => rfl

theorem Json.isFalse_sortKeys (value : Json) : value.sortKeys.isFalse = value.isFalse := by
  cases value <;> simp [Json.isFalse]

theorem Json.asStr?_sortKeys (value : Json) : value.sortKeys.asStr? = value.asStr? := by
  cases value <;> simp [Json.asStr?]

/-- The dictionaries have the same sorted values under the same keys. -/
def SortsAlike (left right : Dict Json) : Prop :=
  ∀ key, (left.get? key).map Json.sortKeys = (right.get? key).map Json.sortKeys

/-- Such dictionaries are dumped alike. -/
theorem SortsAlike.dumped_eq {left right : Dict Json} (h : SortsAlike left right)
    : left.dumped true = right.dumped true := by
  have nodup (dict : Dict Json) : ((sortValues dict.entries).map Prod.fst).Nodup := by
    rw [sortValues_keys]
    exact dict.nodupKeys
  have perm : (sortValues left.entries).Perm (sortValues right.entries) := by
    refine (List.perm_ext_iff_of_nodup (nodup left).of_map (nodup right).of_map).mpr ?_
    intro entry
    rw [← getEntry_eq_some_iff (nodup left), ← getEntry_eq_some_iff (nodup right),
      getEntry_sortValues, getEntry_sortValues]
    exact iff_of_eq (congrArg (· = some entry.2) (h entry.1))
  refine Dict.ext ?_
  simp only [Dict.dumped, if_true]
  exact sortEntries_eq_of_perm perm (nodup left)

/-- `left == right`, for dictionaries whose values differ at most in the order of entries. -/
def SameMapping (left right : Dict Json) : Prop :=
  ∀ key, Option.Rel Json.Same (left.get? key) (right.get? key)

/-- Equal dictionaries sort alike. -/
theorem SameMapping.sortsAlike {left right : Dict Json} (h : SameMapping left right)
    (distinct : ∀ key value, left.get? key = some value → value.Distinct)
    : SortsAlike left right := by
  intro key
  have same := h key
  cases found : left.get? key with
  | none =>
      rw [found] at same
      cases found' : right.get? key with
      | none => rfl
      | some other =>
          rw [found'] at same
          cases same
  | some value =>
      rw [found] at same
      cases found' : right.get? key with
      | none =>
          rw [found'] at same
          cases same
      | some other =>
          rw [found'] at same
          cases same with
          | some same =>
              rw [Option.map_some, Option.map_some, same.sortKeys_eq (distinct key value found)]

namespace SortsAlike

variable {left right : Dict Json}

theorem getOrNull_eq (h : SortsAlike left right) (key : PyStr)
    : (getOrNull left key).sortKeys = (getOrNull right key).sortKeys := by
  have sorted (found : Option Json)
      : (found.getD .null).sortKeys = (found.map Json.sortKeys).getD .null := by
    cases found with
    | none => rw [Option.getD_none, Json.sortKeys_null, Option.map_none, Option.getD_none]
    | some value => rfl
  rw [getOrNull, getOrNull, sorted, sorted, h key]

/-- The values are equally true. -/
theorem truthy_eq (h : SortsAlike left right) (key : PyStr)
    : (getOrNull left key).truthy = (getOrNull right key).truthy := by
  rw [← Json.truthy_sortKeys, h.getOrNull_eq, Json.truthy_sortKeys]

theorem set (h : SortsAlike left right) (key : PyStr) (value : Json)
    : SortsAlike (left.set key value) (right.set key value) := by
  intro other
  rw [Dict.get?_set, Dict.get?_set]
  split
  · rfl
  · exact h other

theorem erase (h : SortsAlike left right) (key : PyStr)
    : SortsAlike (left.erase key) (right.erase key) := by
  intro other
  rw [Dict.get?_erase, Dict.get?_erase]
  split
  · rfl
  · exact h other

end SortsAlike

end Python

-----------------------------------------------------------------------------------------
-- Encoding under headers that sort alike
-----------------------------------------------------------------------------------------

namespace PyJWS

variable {headers headers' : Option (Dict Json)}

/-- Both resolve to algorithms of one sorted form, and detach alike. -/
theorem resolveAlgorithm_alike
    (alike : SortsAlike (headers.getD Dict.empty) (headers'.getD Dict.empty))
    (algorithm : AlgorithmArg) (key : KeyArg) (isPayloadDetached : Bool)
    : (resolveAlgorithm algorithm key headers isPayloadDetached).1.sortKeys
        = (resolveAlgorithm algorithm key headers' isPayloadDetached).1.sortKeys
      ∧ (resolveAlgorithm algorithm key headers isPayloadDetached).2
        = (resolveAlgorithm algorithm key headers' isPayloadDetached).2 := by
  have sorted (found : Option Json) (default : Json)
      : ((found.filter Json.truthy).getD default).sortKeys
        = (((found.map Json.sortKeys).filter Json.truthy).getD default.sortKeys) := by
    cases found with
    | none => rfl
    | some value =>
        rw [Option.map_some, Option.filter_some, Option.filter_some, Json.truthy_sortKeys]
        split <;> rfl
  have detaches (headers : Option (Dict Json))
      : (resolveAlgorithm algorithm key headers isPayloadDetached).2
        = (isPayloadDetached || (getOrNull (headers.getD Dict.empty) "b64").sortKeys.isFalse) := by
    rw [resolveAlgorithm_detached, Json.isFalse_sortKeys, getOrNull, givenHeaders_get?]
    cases givenHeaders headers <;> rfl
  have names (headers : Option (Dict Json))
      : (resolveAlgorithm algorithm key headers isPayloadDetached).1.sortKeys
        = ((((headers.getD Dict.empty).get? "alg").map Json.sortKeys).filter Json.truthy).getD
            (resolveAlgorithm algorithm key none false).1.sortKeys := by
    rw [resolveAlgorithm_fst, sorted]
  exact ⟨by rw [names, names, alike "alg"], by rw [detaches, detaches, alike.getOrNull_eq]⟩

/-- The headers that are built sort alike too. -/
theorem adjustHeader_alike {left right : Dict Json} (alike : SortsAlike left right)
    (detached : Bool)
    : SortsAlike (adjustHeader left detached) (adjustHeader right detached) := by
  have typed : SortsAlike
      (if !(getOrNull left "typ").truthy then left.erase "typ" else left)
      (if !(getOrNull right "typ").truthy then right.erase "typ" else right) := by
    rw [alike.truthy_eq]
    split
    · exact alike.erase "typ"
    · exact alike
  unfold adjustHeader
  cases detached with
  | true => exact typed.set "b64" (.bool false)
  | false => exact typed.erase "b64"

theorem mergedHeader_alike
    (alike : SortsAlike (headers.getD Dict.empty) (headers'.getD Dict.empty)) {alg alg' : Json}
    (same : alg.sortKeys = alg'.sortKeys)
    : SortsAlike (mergedHeader alg headers) (mergedHeader alg' headers') := by
  intro key
  rw [mergedHeader_get?, mergedHeader_get?]
  have alike := alike key
  cases found : (headers.getD Dict.empty).get? key <;>
    cases found' : (headers'.getD Dict.empty).get? key <;>
    simp only [found, found', Option.map_none, Option.map_some, reduceCtorEq] at alike
  · rw [Option.none_or, Option.none_or]
    split
    · rfl
    · split
      · rw [Option.map_some, Option.map_some, same]
      · rfl
  · rw [Option.some_or, Option.some_or, Option.map_some, Option.map_some, alike]

/-- An algorithm is found by its sorted form. -/
theorem getAlgorithmByName_alike (env : Env) (jws : PyJWS) {alg alg' : Json}
    (same : alg.sortKeys = alg'.sortKeys)
    : jws.getAlgorithmByName env alg = jws.getAlgorithmByName env alg' := by
  cases alg <;> cases alg' <;>
    simp only [Json.sortKeys_list, Json.sortKeys_dict, Json.sortKeys_null, Json.sortKeys_bool,
      Json.sortKeys_int, Json.sortKeys_float, Json.sortKeys_str, reduceCtorEq] at same
  -- Nothing else of a list or a dictionary is looked at than that it is one.
  case list.list | dict.dict | null.null => rfl
  all_goals rw [same]

/-- The only check of an encode's headers is that of a `kid`. -/
def checkKid (headers : Dict Json) : Outcome Unit :=
  ((headers.get? "kid").map Json.sortKeys).elim (.ok ()) validateKid

theorem buildHeader_eq (alg : Json) (headers : Option (Dict Json)) (detached : Bool)
    : buildHeader alg headers detached
      = (checkKid (headers.getD Dict.empty)).map
          (fun _ => adjustHeader (mergedHeader alg headers) detached) := by
  have sorted (kid : Json) : validateKid kid.sortKeys = validateKid kid := by
    rw [validateKid, validateKid, Json.asStr?_sortKeys]
  rw [checkKid, givenHeaders_get?]
  unfold buildHeader
  cases givenHeaders headers with
  | none => rfl
  | some given =>
      simp only [validateHeaders, Option.bind_some, if_true]
      cases given.get? "kid" with
      | none => rfl
      | some kid =>
          simp only [Option.map_some, Option.elim_some, sorted]
          cases validateKid kid <;> rfl

end PyJWS

/-- With `sort_headers`, headers that sort alike are encoded alike. -/
theorem encode_alike {env : Env} {jws : PyJWS} {headers headers' : Option (Dict Json)}
    (alike : SortsAlike (headers.getD Dict.empty) (headers'.getD Dict.empty))
    (payload : Bytes) (key : KeyArg) (algorithm : AlgorithmArg) (isPayloadDetached : Bool)
    : jws.encode env payload key algorithm headers isPayloadDetached true
      = jws.encode env payload key algorithm headers' isPayloadDetached true := by
  obtain ⟨sameAlg, sameDetached⟩ :=
    PyJWS.resolveAlgorithm_alike alike algorithm key isPayloadDetached
  rcases resolved : PyJWS.resolveAlgorithm algorithm key headers isPayloadDetached with
    ⟨alg, detached⟩
  rcases resolved' : PyJWS.resolveAlgorithm algorithm key headers' isPayloadDetached with
    ⟨alg', detached'⟩
  rw [resolved, resolved'] at sameAlg sameDetached
  obtain rfl : detached = detached' := sameDetached
  have merged := PyJWS.mergedHeader_alike alike sameAlg
  have dumps : PyJWS.dumpHeader env
        (PyJWS.adjustHeader (PyJWS.mergedHeader alg headers) detached) true
      = PyJWS.dumpHeader env
        (PyJWS.adjustHeader (PyJWS.mergedHeader alg' headers') detached) true := by
    rw [PyJWS.dumpHeader, PyJWS.dumpHeader, (PyJWS.adjustHeader_alike merged detached).dumped_eq]
  have checks : PyJWS.checkKid (headers.getD Dict.empty)
      = PyJWS.checkKid (headers'.getD Dict.empty) := by
    rw [PyJWS.checkKid, PyJWS.checkKid, alike "kid"]
  simp only [PyJWS.encode, resolved, resolved', PyJWS.buildHeader_eq, checks,
    PyJWS.getAlgorithmByName_alike env jws sameAlg, Traced.liftM_eq_ofExcept]
  cases PyJWS.checkKid (headers'.getD Dict.empty) with
  | error error => rfl
  | ok _ => simp only [Except.map, Traced.ofExcept_ok_bind, dumps]

/-- With `sort_headers`, an encode does and returns the same under headers that are equal up to
the order of entries at any depth: the token is a function of the mapping.
-/
theorem encode_sortedHeaders {headers headers' : Option (Dict Json)}
    (same : SameMapping (headers.getD Dict.empty) (headers'.getD Dict.empty))
    (distinct : ∀ key value,
      (headers.getD Dict.empty).get? key = some value → value.Distinct)
    : (∀ (env : Env) (jws : PyJWS) (payload : Bytes) (key : KeyArg) (algorithm : AlgorithmArg)
        (isPayloadDetached : Bool),
        jws.encode env payload key algorithm headers isPayloadDetached true
          = jws.encode env payload key algorithm headers' isPayloadDetached true)
      ∧ ∀ (env : Env) (jwt : PyJWT) (heap : PyJWT.DictHeap) (payload : Option Nat) (key : KeyArg)
          (algorithm : AlgorithmArg),
          jwt.encode env heap payload key algorithm headers true
            = jwt.encode env heap payload key algorithm headers' true := by
  have alike := same.sortsAlike distinct
  constructor
  · intro env jws payload key algorithm isPayloadDetached
    exact encode_alike alike payload key algorithm isPayloadDetached
  · intro env jwt heap payload key algorithm
    simp only [PyJWT.encode, encode_alike alike]

-----------------------------------------------------------------------------------------
-- Headers in two orders
-----------------------------------------------------------------------------------------

/-- `{"kid":"k1","x":{"a":1,"b":2}}`. -/
def keyedFirst : Dict Json :=
  .ofEntries [("kid", .str "k1"), ("x", .dict [("a", .int 1), ("b", .int 2)])]

/-- `{"x":{"b":2,"a":1},"kid":"k1"}`. -/
def keyedLast : Dict Json :=
  .ofEntries [("x", .dict [("b", .int 2), ("a", .int 1)]), ("kid", .str "k1")]

theorem keyedFirst_get? (key : PyStr)
    : keyedFirst.get? key
      = if key = "x" then some (.dict [("a", .int 1), ("b", .int 2)])
        else if key = "kid" then some (.str "k1")
        else none := by
  simp only [keyedFirst, Dict.ofEntries, Dict.update_cons, Dict.update_nil, Dict.get?_set,
    Dict.get?_empty]

theorem keyedLast_get? (key : PyStr)
    : keyedLast.get? key
      = if key = "kid" then some (.str "k1")
        else if key = "x" then some (.dict [("b", .int 2), ("a", .int 1)])
        else none := by
  simp only [keyedLast, Dict.ofEntries, Dict.update_cons, Dict.update_nil, Dict.get?_set,
    Dict.get?_empty]

/-- The two make the same token. -/
theorem encode_sortedHeaders_nested
    : (PyJWS.init roundTripEnv none none).encode roundTripEnv (ascii "a.b")
          (.raw (.bytes (ascii "kk"))) (.name "HS256") (some keyedFirst) false true
        = (PyJWS.init roundTripEnv none none).encode roundTripEnv (ascii "a.b")
            (.raw (.bytes (ascii "kk"))) (.name "HS256") (some keyedLast) false true := by
  have same : SameMapping ((some keyedFirst).getD Dict.empty)
      ((some keyedLast).getD Dict.empty) := by
    intro key
    rw [Option.getD_some, Option.getD_some, keyedFirst_get?, keyedLast_get?]
    by_cases isX : key = "x"
    · have notKid : key ≠ "kid" := by
        rw [isX]
        decide
      rw [if_pos isX, if_neg notKid, if_pos isX]
      exact .some (.dict (.cons (.refl _) (.cons (.refl _) .nil)) (List.Perm.swap _ _ []))
    · rw [if_neg isX, if_neg isX]
      split
      · exact .some (.refl _)
      · exact .none
  have distinct : ∀ key value,
      ((some keyedFirst).getD Dict.empty).get? key = some value → value.Distinct := by
    intro key value found
    rw [Option.getD_some, keyedFirst_get?] at found
    split at found
    · cases found
      simp only [Json.Distinct, DistinctValues, and_true]
      decide
    · split at found
      · cases found
        trivial
      · cases found
  exact (encode_sortedHeaders same distinct).1 _ _ _ _ _ _

end PyJwt
