import PyJwt.Correctness.UnusableResponses

/-! Looking up a key that the endpoint has begun to serve. The lookup is made again after a
refresh only when the cached set lists other signing keys; a cached set that lists none ends it.
-/

namespace PyJwt

open Foundations
open Python

variable {env : Env}

/-- The response is a set with a key of the `kid` that is for signatures, or does not say what
it is for.
-/
def Serves (env : Env) (kid : PyStr) (response : Response) : Prop :=
  ∃ value jwkSet,
    response = .json value
    ∧ PyJWKClient.readJwkSet env value = .ok jwkSet
    ∧ ∃ key ∈ jwkSet.keys,
        key.keyId = .str kid
        ∧ (key.publicKeyUse = .str "sig" ∨ key.publicKeyUse = .null)

namespace PyJWKClient

-----------------------------------------------------------------------------------------
-- Listing and matching
-----------------------------------------------------------------------------------------

/-- The data is a set that has a signing key. -/
def ListsKeys (env : Env) (data : Json) : Prop :=
  ∃ jwkSet, readJwkSet env data = .ok jwkSet ∧ ∃ key ∈ jwkSet.keys, isSigningKey key = true

theorem isSigningKey_eq_true {key : PyJWK}
    : isSigningKey key = true
      ↔ (key.publicKeyUse = .str "sig" ∨ key.publicKeyUse = .null)
        ∧ key.keyId.truthy = true := by
  simp only [isSigningKey, Bool.and_eq_true, Bool.or_eq_true, decide_eq_true_eq,
    Json.asStr?_eq_some, isNone_iff]

theorem listSigningKeys_eq_ok {jwkSet : PyJWKSet} {signingKeys : List PyJWK}
    : listSigningKeys jwkSet = .ok signingKeys
      ↔ signingKeys = jwkSet.keys.filter isSigningKey ∧ signingKeys ≠ [] := by
  unfold listSigningKeys
  cases listed : jwkSet.keys.filter isSigningKey with
  | nil => simp
  | cons key rest =>
      simp only [List.isEmpty_cons, Bool.false_eq_true, if_false, Except.ok.injEq]
      constructor
      · intro same
        exact ⟨same.symm, same ▸ List.cons_ne_nil key rest⟩
      · intro h
        exact h.1.symm

/-- Signing keys are listed exactly where the data is a set that has one. -/
theorem readSigningKeys_returns_iff {data : Json}
    : (∃ signingKeys, readSigningKeys env data = .ok signingKeys) ↔ ListsKeys env data := by
  unfold readSigningKeys ListsKeys
  simp only [outcome_bind_eq_ok, listSigningKeys_eq_ok]
  constructor
  · intro h
    obtain ⟨signingKeys, jwkSet, read, rfl, nonempty⟩ := h
    obtain ⟨key, member⟩ := List.exists_mem_of_ne_nil _ nonempty
    exact ⟨jwkSet, read, key, List.mem_filter.mp member⟩
  · intro h
    obtain ⟨jwkSet, read, key, listed⟩ := h
    exact ⟨_, jwkSet, read, rfl, List.ne_nil_of_mem (List.mem_filter.mpr listed)⟩

/-- A served key is found in its response, unless its `kid` is empty. -/
theorem matchKid_of_serves {kid : PyStr} {response : Response} (h : Serves env kid response)
    (named : kid ≠ "")
    : ∃ value signingKeys key,
        response = .json value
        ∧ readSigningKeys env value = .ok signingKeys
        ∧ matchKid signingKeys kid = some key := by
  obtain ⟨value, jwkSet, rfl, read, key, member, hasKid, hasUse⟩ := h
  have signing : isSigningKey key = true := by
    refine isSigningKey_eq_true.mpr ⟨hasUse, ?_⟩
    rw [hasKid]
    exact decide_eq_true named
  have listed : key ∈ jwkSet.keys.filter isSigningKey := List.mem_filter.mpr ⟨member, signing⟩
  have isMatch : (matchKid (jwkSet.keys.filter isSigningKey) kid).isSome := by
    refine List.find?_isSome.mpr ⟨key, listed, ?_⟩
    simp [hasKid, Json.asStr?]
  obtain ⟨found, matched⟩ := Option.isSome_iff_exists.mp isMatch
  refine ⟨value, _, found, rfl, ?_, matched⟩
  rw [readSigningKeys, read, outcome_ok_bind, listSigningKeys_eq_ok]
  exact ⟨rfl, List.ne_nil_of_mem listed⟩

/-- No listed key has an empty `kid`. -/
theorem named_of_result {kid : PyStr} {first second : Turn} {self : PyJWKClient} {key : PyJWK}
    (h : (getSigningKey env kid first second self).result = .ok key)
    : kid ≠ "" ∧ key.keyId = .str kid := by
  obtain ⟨_, _, _, provided⟩ := @endsWith_getSigningKey env kid first second self
  obtain ⟨data, _, jwkSet, _, _, signing, hasKid⟩ := provided key h
  have truthy := (isSigningKey_eq_true.mp signing).2
  rw [hasKid] at truthy
  exact ⟨of_decide_eq_true truthy, hasKid⟩

-----------------------------------------------------------------------------------------
-- One lookup
-----------------------------------------------------------------------------------------

theorem getSigningKeys_of_fetch {refresh : Bool} {turn : Turn} {self : PyJWKClient} {value : Json}
    (none : self.cachedJwkSet refresh turn.readAt = .null) (response : turn.response = .json value)
    : getSigningKeys env refresh turn self
      = ⟨
          self.putJwkSet value turn.writtenAt,
          [.fetched turn.response turn.writtenAt],
          readSigningKeys env value
        ⟩ := by
  rw [getSigningKeys_run, loadData_of_none none, fetchData_eq, response]
  rfl

theorem getSigningKeys_of_cached {refresh : Bool} {turn : Turn} {self : PyJWKClient} {data : Json}
    (shown : self.cachedJwkSet refresh turn.readAt = data) (some : data ≠ .null)
    : getSigningKeys env refresh turn self
      = ⟨self, [.cached data turn.readAt], readSigningKeys env data⟩ := by
  have isSome : isNone data = false := by
    rw [← Bool.not_eq_true, isNone_iff]
    exact some
  rw [getSigningKeys_run, loadData_of_cached shown isSome]
  rfl

/-- Every listing of signing keys logs one event. -/
theorem getSigningKeys_log_length (refresh : Bool) (turn : Turn) (self : PyJWKClient)
    : (getSigningKeys env refresh turn self).log.length = 1 := by
  rw [getSigningKeys_run, loadData_eq]
  split
  · rw [fetchData_eq]
    rfl
  · rfl

/-- A lookup makes at most two requests. -/
theorem getSigningKey_fetches_le (kid : PyStr) (first second : Turn) (self : PyJWKClient)
    : ((getSigningKey env kid first second self).log.filterMap ClientEvent.fetch?).length
      ≤ 2 := by
  refine (List.length_filterMap_le _ _).trans ?_
  cases head : (getSigningKeys env false first self).result with
  | error error =>
      rw [getSigningKey_of_error head, getSigningKeys_log_length]
      exact Nat.le_succ 1
  | ok signingKeys =>
      cases found : matchKid signingKeys kid with
      | some key =>
          rw [getSigningKey_of_match head found, getSigningKeys_log_length]
          exact Nat.le_succ 1
      | none =>
          rw [getSigningKey_of_miss head found, List.length_append, getSigningKeys_log_length,
            getSigningKeys_log_length]

/-- The lookup finds a key with the `kid`, refreshes once where the cached set has no match, and
makes at most two requests.
-/
structure FollowsRotation (env : Env) (kid : PyStr) (first second : Turn)
    (client : PyJWKClient) : Prop where
  finds : ∃ key,
    (getSigningKey env kid first second client).result = .ok key ∧ key.keyId = .str kid
  refreshes : ∀ jwkSet,
    client.cachedJwkSet false first.readAt ≠ .null
    → readJwkSet env (client.cachedJwkSet false first.readAt) = .ok jwkSet
    → (∀ key ∈ jwkSet.keys, isSigningKey key = true → key.keyId ≠ .str kid)
    → (getSigningKey env kid first second client).log
      = [
          .cached (client.cachedJwkSet false first.readAt) first.readAt,
          .fetched second.response second.writtenAt
        ]
  fetches :
    ((getSigningKey env kid first second client).log.filterMap ClientEvent.fetch?).length ≤ 2

section Lookup

variable {kid : PyStr} {first second : Turn} {client : PyJWKClient}

/-- Without a cached set the first response answers. -/
theorem getSigningKey_of_uncached (serves : Serves env kid first.response) (named : kid ≠ "")
    (none : client.cachedJwkSet false first.readAt = .null)
    : ∃ key, (getSigningKey env kid first second client).result = .ok key := by
  obtain ⟨value, signingKeys, key, response, reads, found⟩ := matchKid_of_serves serves named
  have head : getSigningKeys env false first client = ⟨_, _, .ok signingKeys⟩ :=
    (getSigningKeys_of_fetch none response).trans (congrArg (Step.mk _ _) reads)
  rw [getSigningKey_of_match (congrArg Step.result head) found]
  exact ⟨key, rfl⟩

/-- Without a match in the cached set the lookup is made again with what the endpoint serves. -/
theorem getSigningKey_of_refresh (serves : Serves env kid second.response) (named : kid ≠ "")
    (some : client.cachedJwkSet false first.readAt ≠ .null) {signingKeys : List PyJWK}
    (listed : readSigningKeys env (client.cachedJwkSet false first.readAt) = .ok signingKeys)
    (missing : matchKid signingKeys kid = none)
    : ∃ key,
        (getSigningKey env kid first second client).result = .ok key
        ∧ (getSigningKey env kid first second client).log
          = [
              .cached (client.cachedJwkSet false first.readAt) first.readAt,
              .fetched second.response second.writtenAt
            ] := by
  obtain ⟨value, refreshed, key, response, reads, found⟩ := matchKid_of_serves serves named
  have head : getSigningKeys env false first client = ⟨client, _, .ok signingKeys⟩ :=
    (getSigningKeys_of_cached rfl some).trans (congrArg (Step.mk _ _) listed)
  have tail : getSigningKeys env true second client = ⟨_, _, .ok refreshed⟩ :=
    (getSigningKeys_of_fetch (client.cachedJwkSet_refresh second.readAt) response).trans
      (congrArg (Step.mk _ _) reads)
  rw [getSigningKey_of_miss (congrArg Step.result head) missing]
  simp only [head, tail]
  exact ⟨key, requireKid_eq_ok.mpr found, rfl⟩

/-- The key that a cached set answers with. -/
theorem identifies_of_readSigningKeys {data : Json} {signingKeys : List PyJWK} {key : PyJWK}
    (listed : readSigningKeys env data = .ok signingKeys)
    (found : matchKid signingKeys kid = some key)
    : Identifies env kid data key := by
  obtain ⟨jwkSet, read, lists⟩ := outcome_bind_eq_ok.mp listed
  exact identifies_of_matchKid ⟨jwkSet, read, (listSigningKeys_eq_ok.mp lists).1⟩ found

/-- Where the endpoint serves the key, the lookup follows the rotation precisely when the `kid`
is not empty and the cached value, where there is one, is a set that has a signing key.
-/
theorem followsRotation_iff (servesFirst : Serves env kid first.response)
    (servesSecond : Serves env kid second.response)
    : FollowsRotation env kid first second client
      ↔ kid ≠ ""
        ∧ (client.cachedJwkSet false first.readAt = .null
          ∨ ListsKeys env (client.cachedJwkSet false first.readAt)) := by
  constructor
  · intro follows
    obtain ⟨key, returned, _⟩ := follows.finds
    refine ⟨(named_of_result returned).1, ?_⟩
    by_cases none : client.cachedJwkSet false first.readAt = .null
    · exact Or.inl none
    · refine Or.inr (readSigningKeys_returns_iff.mp ?_)
      cases listed : readSigningKeys env (client.cachedJwkSet false first.readAt) with
      | ok signingKeys => exact ⟨signingKeys, rfl⟩
      | error error =>
          have head : getSigningKeys env false first client = ⟨client, _, .error error⟩ :=
            (getSigningKeys_of_cached rfl none).trans (congrArg (Step.mk _ _) listed)
          rw [getSigningKey_of_error (congrArg Step.result head)] at returned
          cases returned
  · intro h
    obtain ⟨named, cached⟩ := h
    have fetches := @getSigningKey_fetches_le env kid first second client
    by_cases none : client.cachedJwkSet false first.readAt = .null
    · obtain ⟨key, returned⟩ :=
        @getSigningKey_of_uncached env kid first second client servesFirst named none
      refine ⟨⟨key, returned, (named_of_result returned).2⟩, ?_, fetches⟩
      intro jwkSet some
      exact absurd none some
    · obtain ⟨signingKeys, listed⟩ := readSigningKeys_returns_iff.mpr (cached.resolve_left none)
      cases found : matchKid signingKeys kid with
      | none =>
          obtain ⟨key, returned, logged⟩ :=
            getSigningKey_of_refresh servesSecond named none listed found
          exact ⟨⟨key, returned, (named_of_result returned).2⟩, fun _ _ _ _ => logged, fetches⟩
      | some key =>
          have head : getSigningKeys env false first client = ⟨client, _, .ok signingKeys⟩ :=
            (getSigningKeys_of_cached rfl none).trans (congrArg (Step.mk _ _) listed)
          have whole : getSigningKey env kid first second client = _ :=
            getSigningKey_of_match (congrArg Step.result head) found
          have returned := congrArg Step.result whole
          refine ⟨⟨key, returned, (named_of_result returned).2⟩, ?_, fetches⟩
          intro jwkSet _ read unmatched
          obtain ⟨same, readSame, member, signing, hasKid⟩ :=
            identifies_of_readSigningKeys listed found
          cases readSame.symm.trans read
          exact absurd hasKid (unmatched key member signing)

end Lookup

/-- `{"keys":[{"kty":"oct","k":"a2s","kid":"a","use":"enc"}]}`. -/
def encryptionSet : Json :=
  .dict [("keys", .list [
    .dict [("kty", .str "oct"), ("k", .str "a2s"), ("kid", .str "a"), ("use", .str "enc")]
  ])]

/-- A moment at which the endpoint serves a key of the `kid`. -/
def serving (kid : PyStr) (now : Rat) : Turn := ⟨now, .json (servedSet kid), now⟩

/-- A client that stored the data at time 0, for 300 seconds. -/
def holding (data : Json) : PyJWKClient := ⟨some ⟨data, 0, 300⟩⟩

theorem serves_serving (now : Rat) : Serves bareEnv "b" (serving "b" now).response := by
  obtain ⟨jwkSet, read, served⟩ := of_returnsWith
    (by decide : returnsWith (fun jwkSet => jwkSet.keys.any (fun key =>
      key.keyId.asStr? = some (PyStr.ofString "b") && isSigningKey key))
      (readJwkSet bareEnv (servedSet "b")) = true)
  obtain ⟨key, member, isServed⟩ := List.any_eq_true.mp served
  rw [Bool.and_eq_true, decide_eq_true_eq, Json.asStr?_eq_some] at isServed
  exact ⟨
    _, jwkSet, rfl, read, key, member, isServed.1, publicKeyUse_of_isSigningKey isServed.2
  ⟩

theorem cachedJwkSet_holding {data : Json} (some : isNone data = false)
    : (holding data).cachedJwkSet false 1 = data := by
  have alive : (1 : Rat) ≤ 0 + 300 := by norm_num
  exact JWKSetCache.get_of_alive (by norm_num : (0 : Rat) < 300) some alive

/-- The key `b` is found after a refresh, when the cached set has the key `a`. -/
theorem followsRotation_iff_rotated
    : FollowsRotation bareEnv "b" (serving "b" 1) (serving "b" 1) (holding (servedSet "a")) := by
  have shown : (holding (servedSet "a")).cachedJwkSet false (serving "b" 1).readAt
      = servedSet "a" :=
    cachedJwkSet_holding rfl
  obtain ⟨jwkSet, read, listed⟩ := of_returnsWith
    (by decide : returnsWith (fun jwkSet => jwkSet.keys.any isSigningKey)
      (readJwkSet bareEnv (servedSet "a")) = true)
  refine (followsRotation_iff (serves_serving 1) (serves_serving 1)).mpr
    ⟨by decide, Or.inr ?_⟩
  rw [shown]
  exact ⟨jwkSet, read, List.any_eq_true.mp listed⟩

/-- A cached set with nothing but an encryption key ends the lookup before the refresh. -/
theorem getSigningKey_encryptionSet
    : Run bareEnv true 300 0 (holding encryptionSet) [.fetched (.json encryptionSet) 0]
      ∧ Usable bareEnv encryptionSet
      ∧ Serves bareEnv "b" (serving "b" 1).response
      ∧ ¬FollowsRotation bareEnv "b" (serving "b" 1) (serving "b" 1) (holding encryptionSet)
      ∧ (∃ error,
          (getSigningKey bareEnv "b" (serving "b" 1) (serving "b" 1)
            (holding encryptionSet)).result = .error error)
      ∧ (getSigningKey bareEnv "b" (serving "b" 1) (serving "b" 1) (holding encryptionSet)).log
        = [.cached encryptionSet 1] := by
  have run : Run bareEnv true 300 0 (holding encryptionSet) [.fetched (.json encryptionSet) 0] :=
    (Run.init 0 (init_eq_ok (by norm_num))).step
      (.getJwkSet false ⟨0, .json encryptionSet, 0⟩) ⟨le_refl 0, le_refl 0⟩
  obtain ⟨jwkSet, read, _⟩ := of_returnsWith
    (by decide : returnsWith (fun _ => true) (readJwkSet bareEnv encryptionSet) = true)
  obtain ⟨error, failed, _⟩ := of_raisesWith
    (by decide : raisesWith (fun _ => true) (readSigningKeys bareEnv encryptionSet) = true)
  have head : getSigningKeys bareEnv false (serving "b" 1) (holding encryptionSet)
      = ⟨holding encryptionSet, [.cached encryptionSet 1], .error error⟩ :=
    (getSigningKeys_of_cached (cachedJwkSet_holding rfl) (by simp [encryptionSet])).trans
      (congrArg (Step.mk _ _) failed)
  have whole : getSigningKey bareEnv "b" (serving "b" 1) (serving "b" 1) (holding encryptionSet)
      = _ :=
    getSigningKey_of_error (congrArg Step.result head)
  have raised := congrArg Step.result whole
  refine ⟨run, ⟨jwkSet, read⟩, serves_serving 1, fun follows => ?_, ⟨error, raised⟩, ?_⟩
  · obtain ⟨key, returned, _⟩ := follows.finds
    cases raised.symm.trans returned
  · rw [whole, head]

end PyJWKClient

end PyJwt
