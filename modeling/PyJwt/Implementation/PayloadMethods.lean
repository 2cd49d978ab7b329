import PyJwt.Implementation.ApiJwt

/-! `jwt/api_jwt.py` under a subclass: `encode`, `decode_complete` and `decode` call
`_encode_payload` and `_decode_payload` of the instance's own class.
-/

namespace PyJwt

open Python

variable (env : Env)

/-- An instance of a class that may override the two methods. Each returns or raises whatever
the class likes, by its arguments alone.
-/
structure PyJWTSubclass where
  base : PyJWT
  /-- `_encode_payload`, of the prepared claims and the headers. -/
  encodePayload : Dict PyJWT.ClaimValue → Option (Dict Json) → Outcome Bytes
  /-- `_decode_payload`, of what the signature layer returned. -/
  decodePayload : PyJWS.Decoded → Outcome (Dict Json)

/-- An instance of `PyJWT` itself. -/
def PyJWT.asSubclass (self : PyJWT) : PyJWTSubclass where
  base := self
  encodePayload payload _ := PyJWT.encodePayload env payload
  decodePayload := PyJWT.decodePayload env

namespace PyJWTSubclass

def encode (self : PyJWTSubclass) (heap : PyJWT.DictHeap) (payload : Option Nat) (key : KeyArg)
    (algorithm : AlgorithmArg) (headers : Option (Dict Json)) (sortHeaders : Bool)
    : PyJWT.DictHeap × Run PyStr :=
  let (heap, prepared) := PyJWT.preparePayloadClaims heap payload
  (
    heap,
    do
      let payload ← prepared
      let encoded ← self.encodePayload payload headers
      self.base.jws.encode env encoded key algorithm headers false sortHeaders
  )

def decodeComplete (self : PyJWTSubclass) (jwt : TextArg) (key : KeyArg)
    (algorithms : Option (List PyStr)) (options : Option Options)
    (detachedPayload : Option Bytes) (expected : PyJWT.Expected) (now : Rat)
    : Run PyJWT.Decoded := do
  let verifySignature := PyJWT.signatureFlag options
  let mergedOptions := PyJWT.mergeOptions self.base.options options
  let sigOptions : SigOptions := { verifySignature := some verifySignature }
  let decoded ←
    self.base.jws.decodeComplete env jwt key algorithms (some sigOptions) detachedPayload
  let payload ← self.decodePayload decoded
  PyJWT.validateClaims env payload mergedOptions expected now
  return { payload, header := decoded.header, signature := decoded.signature }

def decode (self : PyJWTSubclass) (jwt : TextArg) (key : KeyArg)
    (algorithms : Option (List PyStr)) (options : Option Options)
    (detachedPayload : Option Bytes) (expected : PyJWT.Expected) (now : Rat)
    : Run (Dict Json) := do
  let decoded ←
    self.decodeComplete env jwt key algorithms options detachedPayload expected now
  return decoded.payload

end PyJWTSubclass

end PyJwt
