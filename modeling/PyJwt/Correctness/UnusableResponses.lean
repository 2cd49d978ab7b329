import PyJwt.Correctness.JwksCache

/-! Responses that no set of keys can be made from. The `finally` block writes the cache before
anything reads the response, so such a response is kept like any other.
-/

namespace PyJwt

open Foundations
open Python

variable {env : Env}

/-- A set of keys can be made from the data. -/
def Usable (env : Env) (data : Json) : Prop :=
  ∃ jwkSet, PyJWKClient.readJwkSet env data = .ok jwkSet

namespace PyJWKClient

/-- What the cache of the client holds, with the time it was stored. -/
def held (self : PyJWKClient) : Option (Json × Rat) :=
  self.jwkSetCache.bind JWKSetCache.content

theorem held_of_disabled {self : PyJWKClient} (h : self.jwkSetCache = none) : self.held = none := by
  rw [held, h]
  rfl

/-- A client with a cache holds the data of the most recent fetch of its run, unless that
failed.
-/
theorem Run.held_eq {cacheJwkSet : Bool} {lifespan clock : Rat} {client : PyJWKClient}
    {history : List ClientEvent} (h : Run env cacheJwkSet lifespan clock client history)
    (enabled : client.jwkSetCache ≠ none)
    : client.held = keptData history := by
  obtain ⟨cache, present⟩ := Option.ne_none_iff_exists'.mp enabled
  rw [held, present, Option.bind_some]
  exact (h.tracks.cache cache present).2.2

/-- What is held after every run can be made a set of keys precisely when that is so of the
most recent response.
-/
theorem Run.held_usable_iff {cacheJwkSet : Bool} {lifespan clock : Rat} {client : PyJWKClient}
    {history : List ClientEvent} (h : Run env cacheJwkSet lifespan clock client history)
    : (∀ data stored, client.held = some (data, stored) → Usable env data)
      ↔ client.jwkSetCache = none
        ∨ ∀ response now,
            lastFetch history = some (response, now)
            → response.jwkSet = .null ∨ Usable env response.jwkSet := by
  by_cases disabled : client.jwkSetCache = none
  · simp [disabled, held_of_disabled disabled]
  · rw [h.held_eq disabled, keptData]
    simp only [disabled, false_or]
    cases last : lastFetch history with
    | none => simp
    | some fetch =>
        obtain ⟨response, now⟩ := fetch
        by_cases none : response.jwkSet = .null
        · simp [none, isNone]
        · have some : ¬isNone response.jwkSet = true := fun isNull => none (isNone_iff.mp isNull)
          simp [some, none]

-----------------------------------------------------------------------------------------
-- The call after a refused response
-----------------------------------------------------------------------------------------

theorem loadData_log_eq_fetched {refresh : Bool} {turn : Turn} {self : PyJWKClient}
    : (loadData refresh turn self).log = [.fetched turn.response turn.writtenAt]
      ↔ self.cachedJwkSet refresh turn.readAt = .null := by
  by_cases none : self.cachedJwkSet refresh turn.readAt = .null
  · rw [loadData_of_none none, fetchData_eq]
    simp [none]
  · have some : isNone (self.cachedJwkSet refresh turn.readAt) = false := by
      rw [← Bool.not_eq_true, isNone_iff]
      exact none
    rw [loadData_of_cached rfl some]
    simp [none]

/-- A call that fetched has written the response and judges it. -/
theorem getJwkSet_of_fetched {refresh : Bool} {turn : Turn} {self : PyJWKClient} {value : Json}
    (response : turn.response = .json value)
    (fetched : (getJwkSet env refresh turn self).log = [.fetched turn.response turn.writtenAt])
    : getJwkSet env refresh turn self
      = ⟨
          self.putJwkSet value turn.writtenAt,
          [.fetched (.json value) turn.writtenAt],
          readJwkSet env value
        ⟩ := by
  rw [getJwkSet_run] at fetched ⊢
  rw [loadData_of_none (loadData_log_eq_fetched.mp fetched), fetchData_eq, response]
  rfl

/-- The cache shows nothing of a response after it was written only where there is no cache, the
response is `null`, or the lifespan is over.
-/
theorem cachedJwkSet_put_eq_null {lifespan clock : Rat} {client : PyJWKClient}
    {history : List ClientEvent} (tracks : Tracks lifespan clock client history)
    (value : Json) (stored now : Rat)
    : (client.putJwkSet value stored).cachedJwkSet false now = .null
      ↔ client.jwkSetCache = none ∨ value = .null ∨ stored + lifespan < now := by
  cases present : client.jwkSetCache with
  | none => simp [putJwkSet, cachedJwkSet, present]
  | some cache =>
      obtain ⟨rfl, positive, _⟩ := tracks.cache cache present
      have shown : (client.putJwkSet value stored).cachedJwkSet false now
          = (cache.put value stored).get now := by
        simp [putJwkSet, cachedJwkSet, present]
      rw [shown, JWKSetCache.get_eq (by simpa using positive), cache.content_put]
      by_cases none : value = .null
      · simp [none, isNone]
      · have some : ¬isNone value = true := fun isNull => none (isNone_iff.mp isNull)
        simp [some, none]

/-- A response that no set of keys can be made from leaves the cache empty, and the next call
without a refresh contacts the endpoint again, exactly where there is no cache or the response
is `null`; otherwise it is held until its lifespan is over.
-/
theorem Run.refused_response_iff {cacheJwkSet : Bool} {lifespan clock : Rat}
    {client : PyJWKClient} {history : List ClientEvent}
    (h : Run env cacheJwkSet lifespan clock client history)
    : (∀ refresh turn value error,
        turn.Follows clock
        → turn.response = .json value
        → (getJwkSet env refresh turn client).log = [.fetched turn.response turn.writtenAt]
        → (getJwkSet env refresh turn client).result = .error error
        → ((getJwkSet env refresh turn client).state.held = none
            ↔ client.jwkSetCache = none ∨ value = .null)
          ∧ ∀ next : Turn,
              (getJwkSet env false next (getJwkSet env refresh turn client).state).log
                = [.fetched next.response next.writtenAt]
              ↔ client.jwkSetCache = none
                ∨ value = .null
                ∨ turn.writtenAt + lifespan < next.readAt)
      ∧ ((∀ data stored, client.held = some (data, stored) → Usable env data)
        ↔ client.jwkSetCache = none
          ∨ ∀ response now,
              lastFetch history = some (response, now)
              → response.jwkSet = .null ∨ Usable env response.jwkSet) := by
  refine ⟨?_, h.held_usable_iff⟩
  intro refresh turn value error _ response fetched _
  rw [getJwkSet_of_fetched response fetched]
  constructor
  · cases present : client.jwkSetCache with
    | none => simp [held, putJwkSet, present]
    | some cache =>
        simp only [held, putJwkSet, present, Option.map_some, Option.bind_some,
          cache.content_put]
        by_cases none : value = .null
        · simp [none, isNone]
        · have some : ¬isNone value = true := fun isNull => none (isNone_iff.mp isNull)
          simp [some, none]
  · intro next
    rw [getJwkSet_run, loadData_log_eq_fetched]
    exact cachedJwkSet_put_eq_null h.tracks value turn.writtenAt next.readAt

/-- The response `null` is refused and not kept: the next call contacts the endpoint. -/
theorem Run.refused_response_iff_null
    : let client : PyJWKClient := ⟨some (.init 300)⟩
      let refused := getJwkSet bareEnv false ⟨0, .json .null, 0⟩ client
      (∃ error, refused.result = .error error)
      ∧ refused.state.held = none
      ∧ (getJwkSet bareEnv false (offline 1) refused.state).log
        = [.fetched (.unreachable "") 1] := by
  intro client refused
  have run : Run bareEnv true 300 0 client [] := .init 0 (init_eq_ok (by norm_num))
  obtain ⟨error, raised, _⟩ := of_raisesWith
    (by decide : raisesWith (fun _ => true) refused.result = true)
  have fetched : refused.log = [.fetched (.json .null) 0] :=
    congrArg Step.log ((getJwkSet_run _ _ _).trans rfl)
  obtain ⟨empty, next⟩ := run.refused_response_iff.1 false ⟨0, .json .null, 0⟩ .null error
    ⟨le_refl 0, le_refl 0⟩ rfl fetched raised
  exact ⟨⟨error, raised⟩, empty.mpr (Or.inr rfl), (next (offline 1)).mpr (Or.inr (Or.inl rfl))⟩

/-- The response `{"keys":[]}` is refused and kept: a second later it is taken from the cache and
refused again.
-/
theorem refused_response_kept
    : let client : PyJWKClient := ⟨some (.init 300)⟩
      let response : Json := .dict [("keys", .list [])]
      let refused := getJwkSet bareEnv false ⟨0, .json response, 0⟩ client
      let again := getJwkSet bareEnv false ⟨1, .json (servedSet "a"), 1⟩ refused.state
      Run bareEnv true 300 0 refused.state [.fetched (.json response) 0]
      ∧ (∃ error, refused.result = .error error)
      ∧ refused.state.held = some (response, 0)
      ∧ ¬Usable bareEnv response
      ∧ again.log = [.cached response 1]
      ∧ ∃ error, again.result = .error error := by
  intro client response refused again
  have run : Run bareEnv true 300 0 client [] := .init 0 (init_eq_ok (by norm_num))
  have alive : (1 : Rat) ≤ 0 + 300 := by norm_num
  have shown : refused.state.cachedJwkSet false 1 = response :=
    JWKSetCache.get_of_alive (by norm_num : (0 : Rat) < 300) rfl alive
  obtain ⟨error, raised, _⟩ := of_raisesWith
    (by decide : raisesWith (fun _ => true) (readJwkSet bareEnv response) = true)
  have repeated : again = ⟨refused.state, [.cached response 1], .error error⟩ := by
    show getJwkSet bareEnv false ⟨1, .json (servedSet "a"), 1⟩ refused.state = _
    rw [getJwkSet_run, loadData_of_cached shown rfl, outcome_ok_bind, raised]
  refine ⟨?_, ⟨error, raised⟩, rfl, ?_, ?_, error, ?_⟩
  · exact run.step (.getJwkSet false ⟨0, .json response, 0⟩) ⟨le_refl 0, le_refl 0⟩
  · intro usable
    obtain ⟨jwkSet, read⟩ := usable
    rw [raised] at read
    cases read
  · rw [repeated]
  · rw [repeated]

end PyJWKClient

end PyJwt
