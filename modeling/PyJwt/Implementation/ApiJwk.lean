import PyJwt.Implementation.Algorithms.Defaults

/-! `jwt/api_jwk.py`: a JSON Web Key with the algorithm it is used with, and sets of them. -/

namespace PyJwt

open Python

variable (env : Env)

/-- `_KTY_DEFAULT_ALGORITHM`. -/
def ktyDefaultAlgorithm : List (PyStr × PyStr) :=
  [("RSA", "RS256"), ("oct", "HS256")]

/-- `_EC_CRV_TO_ALGORITHM`. -/
def ecCrvToAlgorithm : List (PyStr × PyStr) :=
  [("P-256", "ES256"), ("P-384", "ES384"), ("P-521", "ES512"), ("secp256k1", "ES256K")]

structure PyJWK where
  jwkData : Dict Json
  algorithmName : PyStr
  algorithm : Algorithm
  key : Key

namespace PyJWK

/-- `table[value]` for a table with string keys and any JSON value. -/
def lookupJson {β : Type} (table : List (PyStr × β)) (value : Json) (missing : PyError)
    : Outcome β := do
  requireHashable value
  match value.asStr?.bind (fun name => getEntry name table) with
  | some found => .ok found
  | none => .error missing

/-- A value is found exactly under a string that the table has. -/
theorem lookupJson_eq_ok {β : Type} {table : List (PyStr × β)} {value : Json}
    {missing : PyError} {found : β}
    : lookupJson table value missing = .ok found
      ↔ ∃ name, value = .str name ∧ getEntry name table = some found := by
  cases value with
  | str name =>
      simp only [lookupJson, requireHashable, outcome_ok_bind, Json.asStr?, Option.bind_some,
        Json.str.injEq, exists_eq_left']
      cases getEntry name table with
      | none => simp
      | some stored => simp
  | list _ | dict _ | null | bool _ | int _ | float _ =>
      simp [lookupJson, requireHashable, Json.asStr?]

def inferAlgorithmFromKty (jwkData : Dict Json) (kty : Json) : Outcome PyStr :=
  let crv := getOrNull jwkData "crv"
  let unsupportedCrv : PyError := ⟨.invalidKeyError, [.text "Unsupported crv: ", .json crv]⟩
  if kty.asStr? = some "EC" then
    if !crv.truthy then .ok "ES256"
    else lookupJson ecCrvToAlgorithm crv unsupportedCrv
  else if kty.asStr? = some "OKP" then
    if !crv.truthy then
      .error ⟨.invalidKeyError, [.text "crv is not found: ", .json jwkData.toJson]⟩
    else if crv.asStr? = some "Ed25519" then .ok "EdDSA"
    else .error unsupportedCrv
  else
    lookupJson ktyDefaultAlgorithm kty
      ⟨.invalidKeyError, [.text "Unsupported kty: ", .json kty]⟩

/-- The algorithm of the key: the one given, else the key's own, else that of its type. -/
def nameAlgorithm (jwkData : Dict Json) (algorithm : Option PyStr) (kty : Json)
    : Outcome Json :=
  let given : Json := (algorithm.map Json.str).getD .null
  let named := if !given.truthy then getOrNull jwkData "alg" else given
  if !named.truthy then Json.str <$> inferAlgorithmFromKty jwkData kty else .ok named

/-- The refusal of an algorithm that needs the `cryptography` package where it is missing. -/
def requireCryptography (algorithm : Json) : Outcome Unit :=
  if env.hasCrypto then .ok ()
  else do
    requireHashable algorithm
    if algorithm.asStr?.any (fun name => name ∈ requiresCryptography) then
      .error ⟨
        .missingCryptographyError,
        [.json algorithm, .text " requires 'cryptography' to be installed."]
      ⟩

/-- `PyJWK(jwk_data, algorithm)`. The entry may be any JSON value, and so may its `alg`. -/
def init (jwkData : Json) (algorithm : Option PyStr) : Outcome PyJWK := do
  let jwk ← requireDict jwkData
  let kty := getOrNull jwk "kty"
  if !kty.truthy then
    .error ⟨.invalidKeyError, [.text "kty is not found: ", .json jwkData]⟩
  else
    let algorithm ← nameAlgorithm jwk algorithm kty
    requireCryptography env algorithm
    let found ←
      lookupJson (getDefaultAlgorithms env).entries algorithm
        ⟨.pyJWKError, [.text "Unable to find an algorithm for key: ", .json jwkData]⟩
    let key ← found.fromJwk env jwkData
    return {
      jwkData := jwk
      algorithmName := algorithm.asStr?.getD ""
      algorithm := found
      key
    }

def fromDict (obj : Json) (algorithm : Option PyStr) : Outcome PyJWK := init env obj algorithm

def fromJson (data : PyStr) (algorithm : Option PyStr) : Outcome PyJWK := do
  let obj ← env.json.loadsStr data
  fromDict env obj algorithm

/-- `_jwk_data.get("kty", None)`. -/
def keyType (self : PyJWK) : Json := getOrNull self.jwkData "kty"

/-- `_jwk_data.get("kid", None)`. -/
def keyId (self : PyJWK) : Json := getOrNull self.jwkData "kid"

/-- `_jwk_data.get("use", None)`. -/
def publicKeyUse (self : PyJWK) : Json := getOrNull self.jwkData "use"

end PyJWK

structure PyJWKSet where
  keys : List PyJWK

namespace PyJWKSet

/-- The loop of the constructor, with the keys loaded so far. -/
def loadKeys : List Json → List PyJWK → Outcome (List PyJWK)
  | [], loaded => .ok loaded
  | key :: rest, loaded =>
      match PyJWK.init env key none with
      | .ok jwk => loadKeys rest (loaded ++ [jwk])
      | .error error =>
          if error.isA .pyJWTError then
            if error.isA .missingCryptographyError then .error error
            else loadKeys rest loaded
          else .error error

def init (keys : Json) : Outcome PyJWKSet :=
  if !keys.truthy then
    .error ⟨.pyJWKSetError, [.text "The JWK Set did not contain any keys"]⟩
  else
    match keys with
    | .list items => do
        let loaded ← loadKeys env items []
        if loaded.length = 0 then
          .error ⟨
            .pyJWKSetError,
            [
              .text "The JWK Set did not contain any usable keys. ",
              .text "Perhaps 'cryptography' is not installed?"
            ]
          ⟩
        else return ⟨loaded⟩
    | _ => .error ⟨.pyJWKSetError, [.text "Invalid JWK Set value"]⟩

def fromDict (obj : Dict Json) : Outcome PyJWKSet :=
  init env ((obj.get? "keys").getD (.list []))

def fromJson (data : PyStr) : Outcome PyJWKSet := do
  let obj ← env.json.loadsStr data
  fromDict env (← requireDict obj)

def findByKid (self : PyJWKSet) (kid : PyStr) : Option PyJWK :=
  self.keys.find? (fun key => key.keyId.asStr? = some kid)

/-- `self[kid]`. -/
def getItem (self : PyJWKSet) (kid : PyStr) : Outcome PyJWK :=
  match self.findByKid kid with
  | none => .error ⟨.keyError, [.text "keyset has no key for kid: ", .str kid]⟩
  | some key => .ok key

/-- `iter(self)`, as what it yields. -/
def iter (self : PyJWKSet) : List PyJWK := self.keys

end PyJWKSet

end PyJwt
