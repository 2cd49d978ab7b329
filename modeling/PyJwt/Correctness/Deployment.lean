import Mathlib.Logic.Function.Basic
import PyJwt.Correctness.IssuedClaims
import PyJwt.Correctness.PreparedKeys
import PyJwt.Correctness.SigningKeyCache

/-! Issuers, endpoints and relying parties together. Each party has a client of its own, with both
caches, and decodes tokens with keys that this client has answered with, at any time later. Their
calls interleave in any order, with one another and with calls that anybody else makes.
-/

namespace PyJwt

open Foundations
open Python

-----------------------------------------------------------------------------------------
-- Parties
-----------------------------------------------------------------------------------------

/-- A client, with the clock after its last call, its history and its answers. -/
structure Party where
  clock : Rat
  client : KeyCachingClient
  history : List ClientEvent
  answers : List (PyStr × PyJWK)

namespace Party

/-- The party after one more call of its client. -/
def after (env : Env) (party : Party) (call : KeyCachingCall) : Party :=
  {
    clock := call.finishedAt
    client := (call.run env party.client).state
    history := party.history ++ (call.run env party.client).log
    answers := party.answers ++ call.answered env (call.run env party.client).result
  }

/-- The party after the constructor call. -/
def Constructed (options : CacheOptions) (party : Party) : Prop :=
  KeyCachingClient.init options.cacheKeys options.maxCachedKeys options.cacheJwkSet
      options.lifespan
    = .ok party.client
  ∧ party.history = []
  ∧ party.answers = []

/-- A constructor call and later calls lead to the party. -/
def Runs (env : Env) (options : CacheOptions) (party : Party) : Prop :=
  KeyCachingClient.Run env options party.clock party.client party.history party.answers

/-- The key was in a set that the party's endpoint served, as a signing key of the `kid`. -/
def HasServed (env : Env) (party : Party) (kid : PyStr) (key : PyJWK) : Prop :=
  ∃ data,
    KeyCachingClient.Served party.history data ∧ PyJWKClient.Identifies env kid data key

variable {env : Env} {options : CacheOptions} {party : Party}

theorem Constructed.runs (h : party.Constructed options) : party.Runs env options := by
  obtain ⟨constructed, noHistory, noAnswers⟩ := h
  unfold Runs
  rw [noHistory, noAnswers]
  exact .init party.clock constructed

theorem Runs.after (h : party.Runs env options) {call : KeyCachingCall}
    (ordered : call.Follows party.clock)
    : (party.after env call).Runs env options :=
  h.step call ordered

theorem HasServed.after {kid : PyStr} {key : PyJWK} (h : party.HasServed env kid key)
    (call : KeyCachingCall)
    : (party.after env call).HasServed env kid key := by
  obtain ⟨data, served, identifies⟩ := h
  exact ⟨data, served.append _, identifies⟩

end Party

-----------------------------------------------------------------------------------------
-- Occurrences
-----------------------------------------------------------------------------------------

variable {ι : Type}

/-- A call on tokens: by a party that decodes with a key of its client, or any call by anybody. -/
inductive Occurrence (ι : Type)
  | other (call : TokenCall)
  | receipt (party : ι) (kid : PyStr) (key : PyJWK) (jwt : PyJWT) (token : TextArg)
      (algorithms : Option (List PyStr)) (options : Option Options) (expected : PyJWT.Expected)
      (now : Rat)

namespace Occurrence

def tokenCall : Occurrence ι → TokenCall
  | other call => call
  | receipt _ _ key jwt token algorithms options expected now =>
      .decode jwt token (.jwk key) algorithms options none expected now

/-- A party decodes with a key only after its client has answered with it. -/
def Known (parties : ι → Party) : Occurrence ι → Prop
  | other _ => True
  | receipt party kid key _ _ _ _ _ _ => (kid, key) ∈ (parties party).answers

/-- The party's decode verified the token and returned the claims. -/
def Accepts (env : Env) : Occurrence ι → Dict Json → Prop
  | other _, _ => False
  | receipt _ _ key jwt token algorithms options expected now, claims =>
      PyJWT.signatureFlag options = true
      ∧ (jwt.decode env token (.jwk key) algorithms options none expected now).result = .ok claims

end Occurrence

/-- The occurrences and the parties that are reached. `holder` is who holds the signing half of a
key: what a served key accepts, it signed in an earlier occurrence.
-/
inductive Deployment [DecidableEq ι] (env : Env) (options : ι → CacheOptions)
    (holder : PyJWK → Key)
    : (ι → Party) → List (Occurrence ι) → Prop
  | init {parties : ι → Party} (constructed : ∀ i, (parties i).Constructed (options i))
    : Deployment env options holder parties []
  | lookup {parties : ι → Party} {occurrences : List (Occurrence ι)}
      (h : Deployment env options holder parties occurrences) (i : ι) (call : KeyCachingCall)
      (ordered : call.Follows (parties i).clock)
    : Deployment env options holder
        (Function.update parties i ((parties i).after env call)) occurrences
  | occur {parties : ι → Party} {occurrences : List (Occurrence ι)}
      (h : Deployment env options holder parties occurrences) (occurrence : Occurrence ι)
      (known : occurrence.Known parties)
      (unforged
        : ∀ i kid key verifying,
            (parties i).HasServed env kid key
            → key.algorithm.prepareKey env key.key = .ok verifying
            → ∀ msg,
              TrustedPair.Verifies ⟨key.algorithm, holder key, verifying⟩ env
                  (occurrence.tokenCall.log env) msg
              → ∃ earlier ∈ occurrences,
                  TrustedPair.Signs ⟨key.algorithm, holder key, verifying⟩ env
                    (earlier.tokenCall.log env) msg)
    : Deployment env options holder parties (occurrences ++ [occurrence])

variable [DecidableEq ι] {env : Env} {options : ι → CacheOptions} {holder : PyJWK → Key}
  {parties : ι → Party} {occurrences : List (Occurrence ι)}

namespace Deployment

/-- Each party's client runs as if it were alone, by induction on the deployment. -/
theorem runs (h : Deployment env options holder parties occurrences) (i : ι)
    : (parties i).Runs env (options i) := by
  induction h with
  | init constructed => exact (constructed i).runs
  | occur h occurrence known unforged ih => exact ih
  | @lookup parties occurrences h j call ordered ih =>
      by_cases same : i = j
      · subst same
        rw [Function.update_self]
        exact ih.after ordered
      · rw [Function.update_of_ne same]
        exact ih

end Deployment

-----------------------------------------------------------------------------------------
-- Receipts
-----------------------------------------------------------------------------------------

end PyJwt
