import PyJwt.Implementation.Algorithms.Base

/-! `jwt/algorithms/algorithms_ec.py`. -/

namespace PyJwt

open Python

variable (env : Env)

structure ECAlgorithm where
  hashAlg : HashAlg
  expectedCurve : Option Curve
  deriving DecidableEq

namespace ECAlgorithm

/-- `key.curve` of an elliptic-curve key object; no other object is of `_crypto_key_types`. -/
def keyCurve? : KeyObject → Option Curve
  | .ecPublic numbers => some numbers.curve
  | .ecPrivate numbers => some numbers.publicNumbers.curve
  | _ => none

/-- `_crypto_key_types`. -/
def cryptoKeyTypes (key : KeyObject) : Bool :=
  (keyCurve? key).isSome

def validateCurve (self : ECAlgorithm) (curve : Curve) : Outcome Unit :=
  match self.expectedCurve with
  | none => .ok ()
  | some expected =>
      if curve ≠ expected then
        .error ⟨
          .invalidKeyError,
          [
            .text "The key's curve '", .text curve.name,
            .text "' does not match the expected curve '", .text expected.name,
            .text "' for this algorithm"
          ]
        ⟩
      else .ok ()

/-- `self.check_crypto_key_type(key); self._validate_curve(key); return key`. -/
def checked (self : ECAlgorithm) (key : KeyObject) : Outcome Key := do
  checkCryptoKeyType env "ECAlgorithm" cryptoKeyTypes (.object key)
  match keyCurve? key with
  | some curve => do
      self.validateCurve curve
      return .object key
  | none => .error (missingAttribute key.className "curve")

def loadKey (self : ECAlgorithm) (keyBytes : Bytes) : Outcome Key :=
  tryExcept
    (if (ascii "ecdsa-sha2-").isPrefixOf keyBytes then do
      self.checked env (← env.crypto.loadSshPublicKey keyBytes)
    else do
      self.checked env (← env.crypto.loadPemPublicKey keyBytes))
    [.valueError]
    (fun _ => do self.checked env (← env.crypto.loadPemPrivateKey keyBytes))

def prepareKey (self : ECAlgorithm) (key : Key) : Outcome Key :=
  match key with
  | .object object =>
      match keyCurve? object with
      | some curve => do
          self.validateCurve curve
          return key
      | none => .error ⟨.typeError, [.text "Expecting a PEM-formatted key."]⟩
  | .none => .error ⟨.typeError, [.text "Expecting a PEM-formatted key."]⟩
  | .str _ | .bytes _ => do
      let keyBytes ← forceBytes key.asText
      self.loadKey env keyBytes

def sign (self : ECAlgorithm) (msg : Bytes) (key : Key) : Outcome Bytes :=
  match key with
  | .object (.ecPrivate numbers) => do
      let derSig ← env.crypto.ecdsaSign self.hashAlg numbers msg
      derToRawSignature env.crypto.decodeDssSignature derSig
        numbers.publicNumbers.curve.keySize
  | key => .error (missingAttribute key.className "sign")

/-- `key.public_key() if isinstance(key, EllipticCurvePrivateKey) else key`. -/
def publicKey? : Key → Option EllipticCurvePublicNumbers
  | .object (.ecPrivate numbers) => some numbers.publicNumbers
  | .object (.ecPublic numbers) => some numbers
  | _ => none

def verify (self : ECAlgorithm) (msg : Bytes) (key : Key) (sig : Bytes) : Outcome Bool :=
  match publicKey? key with
  | none => .error (missingAttribute key.className "curve")
  | some publicKey => do
      let derSig ←
        tryExcept
          (some <$> rawToDerSignature env.crypto.encodeDssSignature sig publicKey.curve.keySize)
          [.valueError]
          (fun _ => .ok none)
      match derSig with
      | none => return false
      | some derSig =>
          tryExcept
            (do
              env.crypto.ecdsaVerify self.hashAlg publicKey derSig msg
              return true)
            [.invalidSignature]
            (fun _ => .ok false)

/-- `to_base64url_uint(number, bit_length=curve.key_size).decode()`. -/
def coordinateText (curve : Curve) (number : Nat) : Outcome Json := do
  return .str (← decodeBytes (← toBase64urlUint number (some curve.keySize)))

/-- The members that a public and a private key share. -/
def publicMembers (numbers : EllipticCurvePublicNumbers) : Outcome (Dict Json) := do
  let crv ← jwkCurveName numbers.curve
  let x ← coordinateText numbers.curve numbers.x
  let y ← coordinateText numbers.curve numbers.y
  return Dict.ofEntries [("kty", .str "EC"), ("crv", .str crv), ("x", x), ("y", y)]

def toJwk (key : Key) (asDict : Bool) : Outcome Json :=
  match key with
  | .object (.ecPrivate numbers) => do
      let obj ← publicMembers numbers.publicNumbers
      let d ← coordinateText numbers.publicNumbers.curve numbers.privateValue
      serializeJwk env (obj.set "d" d) asDict
  | .object (.ecPublic numbers) => do
      serializeJwk env (← publicMembers numbers) asDict
  | _ => .error ⟨.invalidKeyError, [.text "Not a public or private key"]⟩

def fromJwk (jwk : Json) : Outcome Key := do
  let obj ← requireDict (← parseJwkJson env jwk)
  if (getOrNull obj "kty").asStr? ≠ some "EC" then
    .error ⟨.invalidKeyError, [.text "Not an Elliptic curve key"]⟩
  else if !obj.contains "x" || !obj.contains "y" then
    .error ⟨.invalidKeyError, [.text "Not an Elliptic curve key"]⟩
  else
    let x ← base64urlDecode (jsonAsText (getOrNull obj "x"))
    let y ← base64urlDecode (jsonAsText (getOrNull obj "y"))
    let curve ← resolveEcCurveFromJwk (getOrNull obj "crv") x.length y.length
    let publicNumbers : EllipticCurvePublicNumbers :=
      {
        x := Foundations.BigEndian.ofBytes x,
        y := Foundations.BigEndian.ofBytes y,
        curve
      }
    if !obj.contains "d" then
      return .object (.ecPublic (← env.crypto.ecPublicKey publicNumbers))
    else
      let d ← base64urlDecode (jsonAsText (getOrNull obj "d"))
      if d.length ≠ x.length then
        .error ⟨
          .invalidKeyError,
          [
            .text "D should be {} bytes for curve {}", .int x.length,
            .json (getOrNull obj "crv")
          ]
        ⟩
      else
        let numbers : EllipticCurvePrivateNumbers :=
          { privateValue := Foundations.BigEndian.ofBytes d, publicNumbers }
        return .object (.ecPrivate (← env.crypto.ecPrivateKey numbers))

end ECAlgorithm

end PyJwt
