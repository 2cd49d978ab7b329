import PyJwt.Foundations.Stateful
import PyJwt.Implementation.ApiJwt

/-! `jwt/jwk_set_cache.py` and `jwt/jwks_client.py`, without the per-key cache. What the
endpoint responds and what the clock shows are arguments of the calls.
-/

namespace PyJwt

open Foundations
open Python

variable (env : Env)

-----------------------------------------------------------------------------------------
-- The cache
-----------------------------------------------------------------------------------------

/-- `value is None`; the JSON `null` is read as `None`. -/
def isNone : Json → Bool
  | .null => true
  | .bool _ | .int _ | .float _ | .str _ | .list _ | .dict _ => false

structure JWKSetCache where
  /-- `_jwk_set`: the parsed response, or `None`. -/
  jwkSet : Json
  /-- `_timestamp`. -/
  timestamp : Rat
  lifespan : Rat

namespace JWKSetCache

def init (lifespan : Rat) : JWKSetCache := { jwkSet := .null, timestamp := 0, lifespan }

def put (self : JWKSetCache) (jwkSet : Json) (now : Rat) : JWKSetCache :=
  if !isNone jwkSet then { self with jwkSet, timestamp := now }
  else { self with jwkSet := .null, timestamp := 0 }

def isExpired (self : JWKSetCache) (now : Rat) : Bool :=
  !isNone self.jwkSet && self.lifespan > -1 && now > self.timestamp + self.lifespan

def get (self : JWKSetCache) (now : Rat) : Json :=
  if isNone self.jwkSet || self.isExpired now then .null else self.jwkSet

end JWKSetCache

-----------------------------------------------------------------------------------------
-- The client
-----------------------------------------------------------------------------------------

structure PyJWKClient where
  jwkSetCache : Option JWKSetCache

/-- What a request to the endpoint comes to: the parsed response, a `URLError` or
`TimeoutError`, or an exception that is not caught, such as that of a malformed body.
-/
inductive Response
  | json (value : Json)
  | unreachable (reason : PyStr)
  | raised (error : PyError)

/-- `jwk_set` when the cache is written: `None` where the request failed. -/
def Response.jwkSet : Response → Json
  | json value => value
  | unreachable _ | raised _ => .null

/-- What a call does besides returning: it takes a response from the cache, or makes a request
and writes the cache.
-/
inductive ClientEvent
  | cached (data : Json) (now : Rat)
  | fetched (response : Response) (now : Rat)

abbrev ClientRun := Stateful PyJWKClient ClientEvent PyError

/-- The outside world during one `get_jwk_set`: the clock when the cache is read, what a
request comes to, and the clock when the cache is written.
-/
structure Turn where
  readAt : Rat
  response : Response
  writtenAt : Rat

namespace PyJWKClient

/-- The constructor with `cache_keys=False`. -/
def init (cacheJwkSet : Bool) (lifespan : Rat) : Outcome PyJWKClient :=
  if cacheJwkSet then
    if lifespan ≤ 0 then
      .error ⟨.pyJWKClientError, [.text "Lifespan must be greater than 0"]⟩
    else .ok ⟨some (.init lifespan)⟩
  else .ok ⟨none⟩

/-- `self.jwk_set_cache.put(jwk_set)` where there is a cache. -/
def putJwkSet (jwkSet : Json) (now : Rat) (self : PyJWKClient) : PyJWKClient :=
  ⟨self.jwkSetCache.map (fun cache => cache.put jwkSet now)⟩

/-- `self.jwk_set_cache.get()` where there is a cache and no refresh is asked for. -/
def cachedJwkSet (refresh : Bool) (now : Rat) (self : PyJWKClient) : Json :=
  match self.jwkSetCache with
  | some cache => if !refresh then cache.get now else .null
  | none => .null

def fetchData (response : Response) (now : Rat) : ClientRun Json := do
  Stateful.emit (.fetched response now)
  -- The `finally` block runs whether or not the request failed.
  Stateful.modify (putJwkSet response.jwkSet now)
  match response with
  | .json value => return value
  | .unreachable reason =>
      Stateful.raise ⟨
        .pyJWKClientConnectionError,
        [.text "Fail to fetch data from the url, err: \"", .str reason, .text "\""]
      ⟩
  | .raised error => Stateful.raise error

/-- The cached data, and without it a fetch. -/
def loadData (refresh : Bool) (turn : Turn) : ClientRun Json := do
  let data ← Stateful.view (cachedJwkSet refresh turn.readAt)
  if isNone data then fetchData turn.response turn.writtenAt
  else do
    Stateful.emit (.cached data turn.readAt)
    return data

def getJwkSet (refresh : Bool) (turn : Turn) : ClientRun PyJWKSet := do
  let data ← loadData refresh turn
  match data.asDict? with
  | none =>
      Stateful.raise
        ⟨.pyJWKClientError, [.text "The JWKS endpoint did not return a JSON object"]⟩
  | some obj => PyJWKSet.fromDict env obj

/-- `public_key_use in ["sig", None] and key_id`. -/
def isSigningKey (key : PyJWK) : Bool :=
  (key.publicKeyUse.asStr? = some (PyStr.ofString "sig") || isNone key.publicKeyUse)
    && key.keyId.truthy

def getSigningKeys (refresh : Bool) (turn : Turn) : ClientRun (List PyJWK) := do
  let jwkSet ← getJwkSet env refresh turn
  let signingKeys := jwkSet.keys.filter isSigningKey
  if signingKeys.isEmpty then
    Stateful.raise
      ⟨.pyJWKClientError, [.text "The JWKS endpoint did not contain any signing keys"]⟩
  else return signingKeys

def matchKid (signingKeys : List PyJWK) (kid : PyStr) : Option PyJWK :=
  signingKeys.find? (fun key => key.keyId.asStr? = some kid)

def getSigningKey (kid : PyStr) (first second : Turn) : ClientRun PyJWK := do
  let signingKeys ← getSigningKeys env false first
  match matchKid signingKeys kid with
  | some signingKey => return signingKey
  | none => do
      let signingKeys ← getSigningKeys env true second
      match matchKid signingKeys kid with
      | some signingKey => return signingKey
      | none =>
          Stateful.raise ⟨
            .pyJWKClientError,
            [.text "Unable to find a signing key that matches: \"", .str kid, .text "\""]
          ⟩

/-- `get_signing_key(None)`: a signing key has a true `kid`, so none is found by it. -/
def getSigningKeyOfNone (first second : Turn) : ClientRun PyJWK := do
  let _ ← getSigningKeys env false first
  let _ ← getSigningKeys env true second
  Stateful.raise ⟨
    .pyJWKClientError,
    [.text "Unable to find a signing key that matches: \"None\""]
  ⟩

/-- The options of the call `decode_token(token, options={"verify_signature": False})`. -/
def unverifiedOptions : Options := { verifySignature := some false }

/-- The call's other arguments, which are the defaults. -/
def defaultExpected : PyJWT.Expected := ⟨.none, .none, none, .int 0⟩

/-- `decoder` is the module's own instance, whose `decode_complete` is `decode_token`, and
`now` the clock reading of that call. It verifies nothing, so it shows and calls nothing.
-/
def getSigningKeyFromJwt (decoder : PyJWT) (token : TextArg) (now : Rat)
    (first second : Turn)
    : ClientRun PyJWK := do
  let unverified ←
    (decoder.decodeComplete env token (.raw (.str "")) none (some unverifiedOptions) none
      defaultExpected now).result
  -- The header has been validated: its `kid` is a string, or missing.
  match (getOrNull unverified.header "kid").asStr? with
  | some kid => getSigningKey env kid first second
  | none => getSigningKeyOfNone env first second

end PyJWKClient

end PyJwt
