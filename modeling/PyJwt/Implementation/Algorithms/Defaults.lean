import PyJwt.Implementation.Algorithms.Ec
import PyJwt.Implementation.Algorithms.Hmac
import PyJwt.Implementation.Algorithms.Okp
import PyJwt.Implementation.Algorithms.Rsa

/-! `jwt/algorithms/__init__.py`: the algorithms the library implements. -/

namespace PyJwt

open Python

variable (env : Env)

/-- An instance of a caller's own subclass of `Algorithm`. -/
structure CustomAlgorithm where
  prepareKey : Key → Outcome Key
  checkKeyLength : Key → Outcome (Option (List MessagePart))
  sign : Bytes → Key → Outcome Bytes
  verify : Bytes → Key → Bytes → Outcome Bool
  fromJwk : Json → Outcome Key

/-- An `Algorithm` instance. -/
inductive Algorithm
  | none
  | hmac (self : HMACAlgorithm)
  | rsa (self : RSAAlgorithm)
  | ec (self : ECAlgorithm)
  | okp
  | custom (self : CustomAlgorithm)

namespace Algorithm

def prepareKey : Algorithm → Key → Outcome Key
  | none, key => NoneAlgorithm.prepareKey key
  | hmac _, key => HMACAlgorithm.prepareKey env key
  | rsa self, key => self.prepareKey env key
  | ec self, key => self.prepareKey env key
  | okp, key => OKPAlgorithm.prepareKey env key
  | custom self, key => self.prepareKey key

/-- The base class reports no message. -/
def checkKeyLength : Algorithm → Key → Outcome (Option (List MessagePart))
  | hmac self, key => self.checkKeyLength key
  | rsa _, key => RSAAlgorithm.checkKeyLength key
  | custom self, key => self.checkKeyLength key
  | none, _ | ec _, _ | okp, _ => .ok .none

def sign : Algorithm → Bytes → Key → Outcome Bytes
  | none, msg, key => NoneAlgorithm.sign msg key
  | hmac self, msg, key => self.sign env msg key
  | rsa self, msg, key => self.sign env msg key
  | ec self, msg, key => self.sign env msg key
  | okp, msg, key => OKPAlgorithm.sign env msg key
  | custom self, msg, key => self.sign msg key

def verify : Algorithm → Bytes → Key → Bytes → Outcome Bool
  | none, msg, key, sig => NoneAlgorithm.verify msg key sig
  | hmac self, msg, key, sig => self.verify env msg key sig
  | rsa self, msg, key, sig => self.verify env msg key sig
  | ec self, msg, key, sig => self.verify env msg key sig
  | okp, msg, key, sig => OKPAlgorithm.verify env msg key sig
  | custom self, msg, key, sig => self.verify msg key sig

def fromJwk : Algorithm → Json → Outcome Key
  | none, _ => .error ⟨.notImplementedError, []⟩
  | hmac _, jwk => HMACAlgorithm.fromJwk env jwk
  | rsa _, jwk => RSAAlgorithm.fromJwk env jwk
  | ec _, jwk => ECAlgorithm.fromJwk env jwk
  | okp, jwk => OKPAlgorithm.fromJwk env jwk
  | custom self, jwk => self.fromJwk jwk

end Algorithm

def requiresCryptography : List PyStr :=
  [
    "RS256", "RS384", "RS512", "ES256", "ES256K", "ES384", "ES521", "ES512", "PS256",
    "PS384", "PS512", "EdDSA"
  ]

def getDefaultAlgorithms : Dict Algorithm :=
  let defaultAlgorithms : Dict Algorithm :=
    Dict.ofEntries
      [
        ("none", .none),
        ("HS256", .hmac ⟨.sha256⟩),
        ("HS384", .hmac ⟨.sha384⟩),
        ("HS512", .hmac ⟨.sha512⟩)
      ]
  if env.hasCrypto then
    defaultAlgorithms.update
      [
        ("RS256", .rsa ⟨.sha256, .pkcs1v15⟩),
        ("RS384", .rsa ⟨.sha384, .pkcs1v15⟩),
        ("RS512", .rsa ⟨.sha512, .pkcs1v15⟩),
        ("ES256", .ec ⟨.sha256, some .secp256r1⟩),
        ("ES256K", .ec ⟨.sha256, some .secp256k1⟩),
        ("ES384", .ec ⟨.sha384, some .secp384r1⟩),
        ("ES521", .ec ⟨.sha512, some .secp521r1⟩),
        ("ES512", .ec ⟨.sha512, some .secp521r1⟩),
        ("PS256", .rsa ⟨.sha256, .pss⟩),
        ("PS384", .rsa ⟨.sha384, .pss⟩),
        ("PS512", .rsa ⟨.sha512, .pss⟩),
        ("EdDSA", .okp)
      ]
  else defaultAlgorithms

end PyJwt
