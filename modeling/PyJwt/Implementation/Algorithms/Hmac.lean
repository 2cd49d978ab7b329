import PyJwt.Implementation.Algorithms.Base

/-! `jwt/algorithms/algorithms_hmac.py`. -/

namespace PyJwt

open Python

variable (env : Env)

structure HMACAlgorithm where
  hashAlg : HashAlg
  deriving DecidableEq

namespace HMACAlgorithm

def prepareKey (key : Key) : Outcome Key := do
  let keyBytes ← forceBytes key.asText
  if isPemFormat env.pemOrder keyBytes || isSshKey keyBytes then
    .error ⟨
      .invalidKeyError,
      [
        .text "The specified key is an asymmetric key or x509 certificate and",
        .text " should not be used as an HMAC secret."
      ]
    ⟩
  else
    return .bytes keyBytes

def toJwk (key : Key) (asDict : Bool) : Outcome Json := do
  let k ← decodeBytes (base64urlEncode (← forceBytes key.asText))
  serializeJwk env (Dict.ofEntries [("k", .str k), ("kty", .str "oct")]) asDict

def fromJwk (jwk : Json) : Outcome Key := do
  let obj ← requireDict (← parseJwkJson env jwk)
  if (getOrNull obj "kty").asStr? ≠ some "oct" then
    .error ⟨.invalidKeyError, [.text "Not an HMAC key"]⟩
  else
    return .bytes (← base64urlDecode (jsonAsText (← getItem obj "k")))

/-- `len(key)` of a prepared key, which is always bytes. -/
def checkKeyLength (self : HMACAlgorithm) (key : Key) : Outcome (Option (List MessagePart)) :=
  match key with
  | .bytes key =>
      let minLength := self.hashAlg.digestSize
      if key.length < minLength then
        .ok (some
          [
            .text "The HMAC key is ", .int key.length,
            .text " bytes long, which is below the minimum recommended length of ",
            .int minLength, .text " bytes for ", .text self.hashAlg.upperName,
            .text ". See RFC 7518 Section 3.2."
          ])
      else .ok none
  | _ => .error ⟨.typeError, [.text "object has no len()"]⟩

def sign (self : HMACAlgorithm) (msg : Bytes) (key : Key) : Outcome Bytes :=
  match key with
  | .bytes key => .ok (env.crypto.hmacDigest self.hashAlg key msg)
  | _ => .error ⟨.typeError, [.text "key: expected bytes or bytearray"]⟩

/-- `hmac.compare_digest(sig, self.sign(msg, key))`. -/
def verify (self : HMACAlgorithm) (msg : Bytes) (key : Key) (sig : Bytes) : Outcome Bool := do
  let expected ← self.sign env msg key
  return sig = expected

end HMACAlgorithm

end PyJwt
