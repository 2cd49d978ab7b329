import PyJwt.Implementation.Algorithms.Base

/-! `jwt/algorithms/algorithms_rsa.py`. `RSAPSSAlgorithm` is `RSAAlgorithm` with the other
padding: the two classes differ in nothing else.
-/

namespace PyJwt

open Python

variable (env : Env)

structure RSAAlgorithm where
  hashAlg : HashAlg
  padding : RSAPadding
  deriving DecidableEq

namespace RSAAlgorithm

/-- `_crypto_key_types`. -/
def cryptoKeyTypes : KeyObject → Bool
  | .rsaPublic _ | .rsaPrivate _ => true
  | _ => false

/-- `_MIN_KEY_SIZE`. -/
def minKeySize : Nat := 2048

/-- `self.__class__.__name__`. -/
def className (self : RSAAlgorithm) : String :=
  match self.padding with
  | .pkcs1v15 => "RSAAlgorithm"
  | .pss => "RSAPSSAlgorithm"

/-- `key.key_size`: the bit length of the modulus. -/
def keySize? : Key → Option Nat
  | .object (.rsaPublic numbers) => some (Foundations.BigEndian.bitLength numbers.n)
  | .object (.rsaPrivate numbers) =>
      some (Foundations.BigEndian.bitLength numbers.publicNumbers.n)
  | _ => none

def checkKeyLength (key : Key) : Outcome (Option (List MessagePart)) :=
  match keySize? key with
  | none => .error (missingAttribute key.className "key_size")
  | some keySize =>
      if keySize < minKeySize then
        .ok (some
          [
            .text "The RSA key is ", .int keySize,
            .text " bits long, which is below the minimum recommended size of ",
            .int minKeySize, .text " bits. See NIST SP 800-131A."
          ])
      else .ok none

/-- `self.check_crypto_key_type(key); return key`. -/
def checked (self : RSAAlgorithm) (key : KeyObject) : Outcome Key := do
  checkCryptoKeyType env self.className cryptoKeyTypes (.object key)
  return .object key

def loadKey (self : RSAAlgorithm) (keyBytes : Bytes) : Outcome Key :=
  tryExcept
    (if (ascii "ssh-rsa").isPrefixOf keyBytes then do
      self.checked env (← env.crypto.loadSshPublicKey keyBytes)
    else do
      self.checked env (← env.crypto.loadPemPrivateKey keyBytes))
    [.valueError]
    (fun _ =>
      tryExcept
        (do self.checked env (← env.crypto.loadPemPublicKey keyBytes))
        [.valueError, .unsupportedAlgorithm]
        (fun _ =>
          .error ⟨.invalidKeyError, [.text "Could not parse the provided public key."]⟩))

def prepareKey (self : RSAAlgorithm) (key : Key) : Outcome Key :=
  match key with
  | .object object =>
      if cryptoKeyTypes object then .ok key
      else .error ⟨.typeError, [.text "Expecting a PEM-formatted key."]⟩
  | .none => .error ⟨.typeError, [.text "Expecting a PEM-formatted key."]⟩
  | .str _ | .bytes _ => do
      let keyBytes ← forceBytes key.asText
      self.loadKey env keyBytes

/-- `to_base64url_uint(number).decode()`. -/
def uintText (number : Nat) : Outcome Json := do
  return .str (← decodeBytes (← toBase64urlUint number none))

def toJwk (key : Key) (asDict : Bool) : Outcome Json :=
  match key with
  | .object (.rsaPrivate numbers) => do
      let n ← uintText numbers.publicNumbers.n
      let e ← uintText numbers.publicNumbers.e
      let d ← uintText numbers.d
      let p ← uintText numbers.p
      let q ← uintText numbers.q
      let dp ← uintText numbers.dmp1
      let dq ← uintText numbers.dmq1
      let qi ← uintText numbers.iqmp
      serializeJwk env
        (Dict.ofEntries
          [
            ("kty", .str "RSA"), ("key_ops", .list [.str "sign"]), ("n", n), ("e", e),
            ("d", d), ("p", p), ("q", q), ("dp", dp), ("dq", dq), ("qi", qi)
          ])
        asDict
  | .object (.rsaPublic numbers) => do
      let n ← uintText numbers.n
      let e ← uintText numbers.e
      serializeJwk env
        (Dict.ofEntries
          [
            ("kty", .str "RSA"), ("key_ops", .list [.str "verify"]), ("n", n), ("e", e)
          ])
        asDict
  -- Elliptic-curve keys and Edwards public keys pass the attribute tests of a branch
  -- above, and then lack the numbers it reads.
  | .object (.ecPrivate _) | .object (.ecPublic _) | .object (.other _) =>
      .error (missingAttribute key.className "n")
  | .object (.edPublic _ _) => .error (missingAttribute key.className "public_numbers")
  | .object (.edPrivate _ _) | .none | .str _ | .bytes _ =>
      .error ⟨.invalidKeyError, [.text "Not a public or private key"]⟩

def fromJwk (jwk : Json) : Outcome Key := do
  let obj ← requireDict (← parseJwkJson env jwk)
  if (getOrNull obj "kty").asStr? ≠ some "RSA" then
    .error ⟨.invalidKeyError, [.text "Not an RSA key"]⟩
  else if obj.contains "d" && obj.contains "e" && obj.contains "n" then
    let e ← uintMember obj "e"
    let n ← uintMember obj "n"
    let numbers ← rsaPrivateNumbersFromJwk env obj { e, n }
    return .object (.rsaPrivate (← env.crypto.rsaPrivateKey numbers))
  else if obj.contains "n" && obj.contains "e" then
    let e ← uintMember obj "e"
    let n ← uintMember obj "n"
    return .object (.rsaPublic (← env.crypto.rsaPublicKey { e, n }))
  else
    .error ⟨.invalidKeyError, [.text "Not a public or private key"]⟩

def sign (self : RSAAlgorithm) (msg : Bytes) (key : Key) : Outcome Bytes :=
  match key with
  | .object (.rsaPrivate numbers) => env.crypto.rsaSign self.padding self.hashAlg numbers msg
  | key => .error (missingAttribute key.className "sign")

def verify (self : RSAAlgorithm) (msg : Bytes) (key : Key) (sig : Bytes) : Outcome Bool :=
  match key with
  | .object (.rsaPublic numbers) =>
      tryExcept
        (do
          env.crypto.rsaVerify self.padding self.hashAlg numbers sig msg
          return true)
        [.invalidSignature]
        (fun _ => .ok false)
  | key => .error (missingAttribute key.className "verify")

end RSAAlgorithm

end PyJwt
