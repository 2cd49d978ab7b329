import PyJwt.Implementation.Algorithms.Jwk

/-! `jwt/algorithms/algorithms_base.py` and `jwt/algorithms/algorithms_none.py`. -/

namespace PyJwt

open Python

variable (env : Env)

/-- `key.__class__.__name__`. -/
def Key.className : Key → String
  | .none => "NoneType"
  | .str _ => "str"
  | .bytes _ => "bytes"
  | .object key => key.className

/-- `Algorithm.check_crypto_key_type`, for the key classes `keyTypes` of the algorithm class
`selfClass`. The message interpolates a generator, so it shows no class names.
-/
def checkCryptoKeyType (selfClass : String) (keyTypes : KeyObject → Bool) (key : Key)
    : Outcome Unit :=
  if !env.hasCrypto then
    .error ⟨
      .valueError,
      [
        .text "This method requires the cryptography library, ",
        .text "and should only be used by cryptography-based algorithms."
      ]
    ⟩
  else
    match key with
    | .object object =>
        if keyTypes object then .ok () else .error mismatch
    | _ => .error mismatch
where
  mismatch : PyError :=
    ⟨
      .invalidKeyError,
      [
        .text "Expected one of <generator object>, got: ", .text key.className,
        .text ". Invalid Key type for ", .text selfClass
      ]
    ⟩

/-- The `AttributeError` for a method the key object's class does not have. -/
def missingAttribute (className member : String) : PyError :=
  ⟨
    .attributeError,
    [.text "'", .text className, .text "' object has no attribute '", .text member, .text "'"]
  ⟩

namespace NoneAlgorithm

def prepareKey (key : Key) : Outcome Key :=
  let key := if key = .str "" then .none else key
  if key ≠ .none then
    .error ⟨.invalidKeyError, [.text "When alg = \"none\", key value must be None."]⟩
  else .ok key

def sign (_msg : Bytes) (_key : Key) : Outcome Bytes := .ok []

def verify (_msg : Bytes) (_key : Key) (_sig : Bytes) : Outcome Bool := .ok false

end NoneAlgorithm

/-- A key that passes the type check is an object of one of the classes. -/
theorem checkCryptoKeyType_ok {env : Env} {selfClass : String} {keyTypes : KeyObject → Bool}
    {key : Key} (h : checkCryptoKeyType env selfClass keyTypes key = .ok ())
    : ∃ object, key = .object object ∧ keyTypes object = true := by
  unfold checkCryptoKeyType at h
  split at h
  · cases h
  · split at h
    · rename_i object
      split at h
      · rename_i accepted
        exact ⟨object, rfl, accepted⟩
      · cases h
    · cases h

end PyJwt
