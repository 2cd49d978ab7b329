import Mathlib.Data.Rat.Floor
import PyJwt.Correctness.SigningKeyCache
import PyJwt.Foundations.Lease

/-! How many requests a client makes. The JWK Set cache is a lease on the endpoint's response: a
call that asks the cache makes a request only when the lease is at its end.
-/

namespace PyJwt

open Foundations
open Python

variable {env : Env}

-----------------------------------------------------------------------------------------
-- Requests
-----------------------------------------------------------------------------------------

/-- The event is a request. -/
def ClientEvent.isRequest : ClientEvent → Bool
  | fetched _ _ => true
  | cached _ _ => false

/-- The event is a request that leaves nothing in the cache. -/
def ClientEvent.isFailure : ClientEvent → Bool
  | fetched response _ => isNone response.jwkSet
  | cached _ _ => false

def requests (history : List ClientEvent) : Nat :=
  history.countP ClientEvent.isRequest

def failures (history : List ClientEvent) : Nat :=
  history.countP ClientEvent.isFailure

@[simp] theorem requests_append (history more : List ClientEvent)
    : requests (history ++ more) = requests history + requests more :=
  List.countP_append

@[simp] theorem failures_append (history more : List ClientEvent)
    : failures (history ++ more) = failures history + failures more :=
  List.countP_append

/-- The requests of a history that were not refreshes and did not fail. -/
def waited (history : List ClientEvent) (refreshes : Nat) : Int :=
  requests history - failures history - refreshes

-----------------------------------------------------------------------------------------
-- The cache as a lease
-----------------------------------------------------------------------------------------

/-- The cache is a lease on the response that was stored last. -/
structure Metered (start lifespan clock : Rat) (client : PyJWKClient)
    (history : List ClientEvent) (refreshes : Nat)
    : Prop where
  positive : 0 < lifespan
  cache : ∃ cache,
    client.jwkSetCache = some cache
    ∧ cache.lifespan = lifespan
    ∧ Paced start lifespan clock (cache.content.map Prod.snd) (waited history refreshes)

/-- A cache that shows nothing holds nothing, or what it holds is past its lifespan. -/
theorem JWKSetCache.ended_of_get {cache : JWKSetCache} (positive : 0 < cache.lifespan) {now : Rat}
    (shown : cache.get now = .null)
    : ∀ stored ∈ cache.content.map Prod.snd, stored + cache.lifespan < now := by
  intro stored member
  obtain ⟨⟨data, _⟩, content, rfl⟩ := Option.map_eq_some_iff.mp member
  have isSome : data ≠ .null := by
    intro isNull
    unfold JWKSetCache.content at content
    split at content
    · cases content
    · rename_i some
      cases content
      exact some (isNone_iff.mpr isNull)
  rw [JWKSetCache.get_eq positive, content] at shown
  simp only at shown
  split at shown
  · assumption
  · exact absurd shown isSome

namespace Metered

variable {start lifespan clock : Rat} {client : PyJWKClient} {history : List ClientEvent}
  {refreshes : Nat}

theorem later (h : Metered start lifespan clock client history refreshes) {now : Rat}
    (advances : clock ≤ now)
    : Metered start lifespan now client history refreshes := by
  obtain ⟨positive, cache, present, sameLifespan, paced⟩ := h
  exact ⟨positive, cache, present, sameLifespan, paced.later advances⟩

/-- A request that nothing asked the cache for is a refresh. -/
theorem refresh (h : Metered start lifespan clock client history refreshes) {now : Rat}
    (advances : clock ≤ now) (response : Response)
    : Metered start lifespan now (PyJWKClient.fetchData response now client).state
        (history ++ (PyJWKClient.fetchData response now client).log) (refreshes + 1) := by
  obtain ⟨positive, cache, present, sameLifespan, paced⟩ := h
  rw [PyJWKClient.fetchData_eq]
  refine ⟨positive, cache.put response.jwkSet now, ?_, ?_, ?_⟩
  · simp only [PyJWKClient.putJwkSet, present, Option.map_some]
  · rw [cache.lifespan_put, sameLifespan]
  · rw [cache.content_put]
    cases none : isNone response.jwkSet with
    | true =>
        have counted : waited (history ++ [.fetched response now]) (refreshes + 1)
            = waited history refreshes - 1 := by
          simp [waited, requests, failures, ClientEvent.isRequest, ClientEvent.isFailure, none]
          omega
        rw [counted]
        exact paced.forfeit positive advances
    | false =>
        have counted : waited (history ++ [.fetched response now]) (refreshes + 1)
            = waited history refreshes := by
          simp [waited, requests, failures, ClientEvent.isRequest, ClientEvent.isFailure, none]
          omega
        rw [counted]
        exact paced.replace positive advances

/-- A request for want of data in the cache waited for the end of the lease. -/
theorem request (h : Metered start lifespan clock client history refreshes) {turn : Turn}
    (ordered : turn.Follows clock) (shown : client.cachedJwkSet false turn.readAt = .null)
    : Metered start lifespan turn.writtenAt
        (PyJWKClient.fetchData turn.response turn.writtenAt client).state
        (history ++ (PyJWKClient.fetchData turn.response turn.writtenAt client).log)
        refreshes := by
  obtain ⟨positive, cache, present, rfl, paced⟩ := h
  have shows : client.cachedJwkSet false turn.readAt = cache.get turn.readAt := by
    simp [PyJWKClient.cachedJwkSet, present]
  have ended (stored : Rat) (member : stored ∈ cache.content.map Prod.snd)
      : stored + cache.lifespan < turn.writtenAt :=
    (JWKSetCache.ended_of_get positive (shows.symm.trans shown) stored member).trans_le ordered.2
  have advances := ordered.1.trans ordered.2
  rw [PyJWKClient.fetchData_eq]
  refine ⟨positive, cache.put turn.response.jwkSet turn.writtenAt, ?_, ?_, ?_⟩
  · simp only [PyJWKClient.putJwkSet, present, Option.map_some]
  · exact cache.lifespan_put _ _
  · rw [cache.content_put]
    cases none : isNone turn.response.jwkSet with
    | true =>
        have counted : waited (history ++ [.fetched turn.response turn.writtenAt]) refreshes
            = waited history refreshes := by
          simp [waited, requests, failures, ClientEvent.isRequest, ClientEvent.isFailure, none]
        rw [counted]
        exact paced.giveUp advances ended
    | false =>
        have counted : waited (history ++ [.fetched turn.response turn.writtenAt]) refreshes
            = waited history refreshes + 1 := by
          simp [waited, requests, failures, ClientEvent.isRequest, ClientEvent.isFailure, none]
          omega
        rw [counted]
        exact paced.renew advances ended

theorem loadData (h : Metered start lifespan clock client history refreshes) (refresh : Bool)
    {turn : Turn} (ordered : turn.Follows clock)
    : Metered start lifespan turn.writtenAt (PyJWKClient.loadData refresh turn client).state
        (history ++ (PyJWKClient.loadData refresh turn client).log)
        (refreshes + refresh.toNat) := by
  have advances := ordered.1.trans ordered.2
  by_cases shown : client.cachedJwkSet refresh turn.readAt = .null
  · rw [PyJWKClient.loadData_of_none shown]
    cases refresh with
    | true => exact h.refresh advances turn.response
    | false => exact h.request ordered shown
  · have some : isNone (client.cachedJwkSet refresh turn.readAt) = false := by
      rw [← Bool.not_eq_true, isNone_iff]
      exact shown
    cases refresh with
    | true => exact absurd (client.cachedJwkSet_refresh turn.readAt) shown
    | false =>
        rw [PyJWKClient.loadData_of_cached rfl some]
        have counted (data : Json) : waited (history ++ [.cached data turn.readAt]) refreshes
            = waited history refreshes := by
          simp [waited, requests, failures, ClientEvent.isRequest, ClientEvent.isFailure]
        obtain ⟨positive, cache, present, sameLifespan, paced⟩ := h.later advances
        refine ⟨positive, cache, present, sameLifespan, ?_⟩
        rw [Bool.toNat_false, Nat.add_zero, counted]
        exact paced

theorem listing (h : Metered start lifespan clock client history refreshes) (env : Env)
    (refresh : Bool) {turn : Turn} (ordered : turn.Follows clock)
    : Metered start lifespan turn.writtenAt
        (PyJWKClient.getSigningKeys env refresh turn client).state
        (history ++ (PyJWKClient.getSigningKeys env refresh turn client).log)
        (refreshes + refresh.toNat) := by
  rw [PyJWKClient.getSigningKeys_run]
  exact h.loadData refresh ordered

end Metered

-----------------------------------------------------------------------------------------
-- Lookups
-----------------------------------------------------------------------------------------

namespace PyJWKClient

/-- The run lists the signing keys, and may list them again after a refresh. -/
def ListsTwice {α : Type} (env : Env) (first second : Turn) (client : PyJWKClient)
    (step : Step PyJWKClient ClientEvent PyError α)
    : Prop :=
  let head := getSigningKeys env false first client
  let tail := getSigningKeys env true second head.state
  step.state = head.state ∧ step.log = head.log
  ∨ step.state = tail.state ∧ step.log = head.log ++ tail.log

variable {first second : Turn} {client : PyJWKClient}

theorem listsTwice_getSigningKey (kid : PyStr)
    : ListsTwice env first second client (getSigningKey env kid first second client) := by
  cases head : (getSigningKeys env false first client).result with
  | error error =>
      rw [getSigningKey_of_error head]
      exact Or.inl ⟨rfl, rfl⟩
  | ok signingKeys =>
      cases found : matchKid signingKeys kid with
      | some key =>
          rw [getSigningKey_of_match head found]
          exact Or.inl ⟨rfl, rfl⟩
      | none =>
          rw [getSigningKey_of_miss head found]
          exact Or.inr ⟨rfl, rfl⟩

theorem listsTwice_getSigningKeyOfNone
    : ListsTwice env first second client (getSigningKeyOfNone env first second client) := by
  unfold getSigningKeyOfNone
  cases head : (getSigningKeys env false first client).result with
  | error error =>
      rw [Stateful.bind_of_error head]
      exact Or.inl ⟨rfl, rfl⟩
  | ok signingKeys =>
      rw [Stateful.bind_of_ok head]
      simp only [Stateful.raise, Stateful.bind_ofExcept]
      exact Or.inr ⟨rfl, rfl⟩

end PyJWKClient

namespace KeyCachingCall

/-- The requests that the call makes without asking the JWK Set cache, by a refresh that it is
told to make, or that follows keys without a match.
-/
def refreshes (env : Env) (client : KeyCachingClient) : KeyCachingCall → Nat
  | fetchData _ _ => 1
  | getJwkSet refresh _ | getSigningKeys refresh _ => refresh.toNat
  | call@(getSigningKey ..) | call@(getSigningKeyFromJwt ..) =>
      (call.run env client).log.length - 1

/-- A lookup by a token that is not read to the end of its header does nothing, and any other is
a lookup in the listed keys.
-/
theorem fromJwt_cases (env : Env) (decoder : PyJWT) (token : TextArg) (now : Rat)
    (first second : Turn) (client : PyJWKClient)
    : (∃ error,
        (getSigningKeyFromJwt decoder token now first second).plain env client
          = ⟨client, [], .error error⟩)
      ∨ PyJWKClient.ListsTwice env first second client
          ((getSigningKeyFromJwt decoder token now first second).plain env client) := by
  cases named : (getSigningKeyFromJwt decoder token now first second).kid? env with
  | some kid =>
      rw [(fromJwt_of_kid named).2, plain, Stateful.map_run]
      exact Or.inr (PyJWKClient.listsTwice_getSigningKey kid)
  | none =>
      rw [plain, Stateful.map_run]
      cases read : unverified env decoder token now with
      | ok decoded =>
          have unnamed : (getOrNull decoded.header "kid").asStr? = none := by
            simpa only [kid?, read] using named
          unfold unverified at read
          simp only [PyJWKClient.getSigningKeyFromJwt, read, Stateful.liftM_eq_ofExcept,
            Stateful.ofExcept_ok_bind, unnamed]
          exact Or.inr PyJWKClient.listsTwice_getSigningKeyOfNone
      | error error =>
          unfold unverified at read
          simp only [PyJWKClient.getSigningKeyFromJwt, read, Stateful.liftM_eq_ofExcept,
            Stateful.ofExcept_error_bind]
          exact Or.inl ⟨error, rfl⟩

end KeyCachingCall

namespace Metered

variable {start lifespan clock : Rat} {history : List ClientEvent} {refreshes : Nat}

/-- What a lookup logs after its first event is a refresh. -/
theorem lookup {client : PyJWKClient}
    (h : Metered start lifespan clock client history refreshes) {first second : Turn}
    (orderedFirst : first.Follows clock) (orderedSecond : second.Follows first.writtenAt)
    {α : Type} {step : Step PyJWKClient ClientEvent PyError α}
    (lists : PyJWKClient.ListsTwice env first second client step)
    : Metered start lifespan second.writtenAt step.state (history ++ step.log)
        (refreshes + (step.log.length - 1)) := by
  have listed := h.listing env false orderedFirst
  have one := @PyJWKClient.getSigningKeys_log_length env
  rcases lists with ⟨sameState, sameLog⟩ | ⟨sameState, sameLog⟩
  · rw [sameState, sameLog, one]
    exact listed.later (orderedSecond.1.trans orderedSecond.2)
  · rw [sameState, sameLog, List.length_append, one, one, ← List.append_assoc]
    exact listed.listing env true orderedSecond

/-- Every call keeps the books. -/
theorem run {client : KeyCachingClient}
    (h : Metered start lifespan clock client.toPyJWKClient history refreshes)
    (call : KeyCachingCall) (ordered : call.Follows clock)
    : Metered start lifespan call.finishedAt (call.run env client).state.toPyJWKClient
        (history ++ (call.run env client).log) (refreshes + call.refreshes env client) := by
  have ended := h.later (call.le_finishedAt ordered)
  rcases KeyCachingCall.run_cases env call client with ⟨kid, key, named, _, ran⟩ | ran
  · have none : call.refreshes env client = 0 := by
      cases call with
      | fetchData response now => cases named
      | getJwkSet refresh turn => cases named
      | getSigningKeys refresh turn => cases named
      | getSigningKey other first second =>
          simp only [KeyCachingCall.refreshes, ran, List.length_nil]
      | getSigningKeyFromJwt decoder token now first second =>
          simp only [KeyCachingCall.refreshes, ran, List.length_nil]
    rw [none, ran, List.append_nil]
    exact ended
  · cases call with
    | fetchData response now =>
        rw [ran, KeyCachingCall.plain, Stateful.map_run]
        exact h.refresh ordered response
    | getJwkSet refresh turn =>
        rw [ran, KeyCachingCall.plain, Stateful.map_run, PyJWKClient.getJwkSet_run]
        exact h.loadData refresh ordered
    | getSigningKeys refresh turn =>
        rw [ran]
        exact h.listing env refresh ordered
    | getSigningKey kid first second =>
        have lists := @PyJWKClient.listsTwice_getSigningKey env first second
          client.toPyJWKClient kid
        simp only [KeyCachingCall.refreshes]
        rw [ran, KeyCachingCall.plain, Stateful.map_run]
        exact h.lookup ordered.1 ordered.2 lists
    | getSigningKeyFromJwt decoder token now first second =>
        simp only [KeyCachingCall.refreshes]
        rw [ran]
        rcases KeyCachingCall.fromJwt_cases env decoder token now first second
            client.toPyJWKClient with ⟨error, stopped⟩ | lists
        · rw [stopped, List.append_nil]
          exact ended
        · exact (h.later ordered.1).lookup ordered.2.1 ordered.2.2 lists

end Metered

-----------------------------------------------------------------------------------------
-- Runs
-----------------------------------------------------------------------------------------

namespace KeyCachingClient

variable {options : CacheOptions} {start clock : Rat} {client : KeyCachingClient}
  {history : List ClientEvent} {refreshes : Nat}

end KeyCachingClient

end PyJwt
