import PyJwt.Foundations.Lru
import PyJwt.Implementation.JwksClient

/-! `jwt/jwks_client.py` with the per-key cache: `functools.lru_cache` around the bound method
`get_signing_key`, which then hides the method.
-/

namespace PyJwt

open Foundations
open Python

variable (env : Env)

/-- A client with the cache that its constructor put before `get_signing_key`, if any. -/
structure KeyCachingClient extends PyJWKClient where
  keyCache : Option (Lru PyStr PyJWK)

abbrev KeyCachingRun := Stateful KeyCachingClient ClientEvent PyError

namespace KeyCachingClient

/-- The constructor. `lru_cache` takes a negative size for 0. -/
def init (cacheKeys : Bool) (maxCachedKeys : Int) (cacheJwkSet : Bool) (lifespan : Rat)
    : Outcome KeyCachingClient := do
  let client ← PyJWKClient.init cacheJwkSet lifespan
  return {
    toPyJWKClient := client
    keyCache := if cacheKeys then some (.empty maxCachedKeys.toNat) else none
  }

/-- A method that the constructor leaves as it is. -/
def direct {α : Type} (run : ClientRun α) : KeyCachingRun α :=
  fun self =>
    let step := run self.toPyJWKClient
    ⟨{ self with toPyJWKClient := step.state }, step.log, step.result⟩

/-- `self.get_signing_key(kid)`, which the constructor may have wrapped. -/
def getSigningKey (kid : PyStr) (first second : Turn) : KeyCachingRun PyJWK :=
  fun self =>
    match self.keyCache with
    | none => direct (PyJWKClient.getSigningKey env kid first second) self
    | some cache =>
        let step :=
          memoized (fun kid => PyJWKClient.getSigningKey env kid first second) kid
            (self.toPyJWKClient, cache)
        ⟨⟨step.state.1, some step.state.2⟩, step.log, step.result⟩

/-- `self.get_signing_key(None)` never returns, so the cache never has an answer to it. -/
def getSigningKeyOfNone (first second : Turn) : KeyCachingRun PyJWK :=
  direct (PyJWKClient.getSigningKeyOfNone env first second)

def getSigningKeyFromJwt (decoder : PyJWT) (token : TextArg) (now : Rat)
    (first second : Turn)
    : KeyCachingRun PyJWK := do
  let unverified ←
    (decoder.decodeComplete env token (.raw (.str "")) none
      (some PyJWKClient.unverifiedOptions) none PyJWKClient.defaultExpected now).result
  match (getOrNull unverified.header "kid").asStr? with
  | some kid => getSigningKey env kid first second
  | none => getSigningKeyOfNone env first second

end KeyCachingClient

end PyJwt
