import PyJwt.Implementation.Algorithms.Base

/-! `jwt/algorithms/algorithms_okp.py`. -/

namespace PyJwt

open Python

variable (env : Env)

namespace OKPAlgorithm

/-- `_crypto_key_types`. -/
def cryptoKeyTypes : KeyObject → Bool
  | .edPublic _ _ | .edPrivate _ _ => true
  | _ => false

/-- `needle in text`. -/
def containsText (needle text : PyStr) : Bool :=
  text.codePoints.tails.any (fun rest => needle.codePoints.isPrefixOf rest)

/-- The key as text and as bytes. -/
def keyStrAndBytes : Key → Outcome (PyStr × Bytes)
  | .str value => do return (value, ← encodeStr value)
  | .bytes value => do return (← decodeBytes value, value)
  | key => .error (missingAttribute key.className "decode")

def loadKey (keyStr : PyStr) (keyBytes : Bytes) : Outcome KeyObject :=
  if containsText "-----BEGIN PUBLIC" keyStr then env.crypto.loadPemPublicKey keyBytes
  else if containsText "-----BEGIN PRIVATE" keyStr then
    env.crypto.loadPemPrivateKey keyBytes
  else if keyStr.codePoints.take 4 = PyStr.codePoints "ssh-" then
    env.crypto.loadSshPublicKey keyBytes
  else
    .error ⟨.invalidKeyError, [.text "Not a public or private key"]⟩

def prepareKey (key : Key) : Outcome Key :=
  match key with
  | .none | .object _ => do
      checkCryptoKeyType env "OKPAlgorithm" cryptoKeyTypes key
      return key
  | .str _ | .bytes _ => do
      let (keyStr, keyBytes) ← keyStrAndBytes key
      let loadedKey ← loadKey env keyStr keyBytes
      checkCryptoKeyType env "OKPAlgorithm" cryptoKeyTypes (.object loadedKey)
      return .object loadedKey

def sign (msg : Bytes) (key : Key) : Outcome Bytes :=
  match key with
  | .object (.edPrivate curve raw) => env.crypto.edSign curve raw msg
  | key => .error (missingAttribute key.className "sign")

/-- `key.public_key() if isinstance(key, (Ed25519PrivateKey, Ed448PrivateKey)) else key`. -/
def publicKey? : Key → Option (EdCurve × Bytes)
  | .object (.edPrivate curve raw) => some (curve, env.crypto.edPublicOf curve raw)
  | .object (.edPublic curve raw) => some (curve, raw)
  | _ => none

def verify (msg : Bytes) (key : Key) (sig : Bytes) : Outcome Bool :=
  match publicKey? env key with
  | none => .error (missingAttribute key.className "verify")
  | some (curve, raw) =>
      tryExcept
        (do
          env.crypto.edVerify curve raw sig msg
          return true)
        [.invalidSignature]
        (fun _ => .ok false)

/-- The `crv` name of the key's class. -/
def crvName : EdCurve → PyStr
  | .ed25519 => "Ed25519"
  | .ed448 => "Ed448"

/-- `base64url_encode(force_bytes(raw)).decode()`. -/
def rawText (raw : Bytes) : Outcome Json := do
  return .str (← decodeBytes (base64urlEncode raw))

def toJwk (key : Key) (asDict : Bool) : Outcome Json :=
  match key with
  | .object (.edPublic curve raw) => do
      let x ← rawText raw
      serializeJwk env
        (Dict.ofEntries [("x", x), ("kty", .str "OKP"), ("crv", .str (crvName curve))])
        asDict
  | .object (.edPrivate curve raw) => do
      let x ← rawText (env.crypto.edPublicOf curve raw)
      let d ← rawText raw
      serializeJwk env
        (Dict.ofEntries
          [("x", x), ("d", d), ("kty", .str "OKP"), ("crv", .str (crvName curve))])
        asDict
  | _ => .error ⟨.invalidKeyError, [.text "Not a public or private key"]⟩

/-- The curve of a `crv` member, when it is one of the two names. -/
def crvCurve? (curve : Json) : Option EdCurve :=
  if curve.asStr? = some "Ed25519" then some .ed25519
  else if curve.asStr? = some "Ed448" then some .ed448
  else none

def fromJwk (jwk : Json) : Outcome Key := do
  let obj ← requireDict (← parseJwkJson env jwk)
  if (getOrNull obj "kty").asStr? ≠ some "OKP" then
    .error ⟨.invalidKeyError, [.text "Not an Octet Key Pair"]⟩
  else
    match crvCurve? (getOrNull obj "crv") with
    | none =>
        .error ⟨.invalidKeyError, [.text "Invalid curve: ", .json (getOrNull obj "crv")]⟩
    | some curve =>
        if !obj.contains "x" then
          .error ⟨.invalidKeyError, [.text "OKP should have \"x\" parameter"]⟩
        else
          let x ← base64urlDecode (jsonAsText (getOrNull obj "x"))
          tryExcept
            (if !obj.contains "d" then do
              return .object (.edPublic curve (← env.crypto.edPublicFromBytes curve x))
            else do
              let d ← base64urlDecode (jsonAsText (getOrNull obj "d"))
              return .object (.edPrivate curve (← env.crypto.edPrivateFromBytes curve d)))
            [.valueError]
            (fun _ => .error ⟨.invalidKeyError, [.text "Invalid key parameter"]⟩)

end OKPAlgorithm

end PyJwt
