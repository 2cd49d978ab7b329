import PyJwt.Implementation.Utils
import PyJwt.Python.JsonText

/-! What the library is built on: the `cryptography` package, `hmac`, `json`, and the
conversion of text to integers. These are parameters of the model; every result holds for
all of them, and the assumptions a result makes about them are its hypotheses.
-/

namespace PyJwt

open Python

/-- The hash functions the algorithms use. -/
inductive HashAlg
  | sha256
  | sha384
  | sha512
  deriving DecidableEq

namespace HashAlg

/-- `digest_size`, in bytes. -/
def digestSize : HashAlg → Nat
  | sha256 => 32
  | sha384 => 48
  | sha512 => 64

/-- `name.upper()` of the hash object. -/
def upperName : HashAlg → String
  | sha256 => "SHA256"
  | sha384 => "SHA384"
  | sha512 => "SHA512"

end HashAlg

/-- Elliptic curves of `cryptography`; `other` is any the library does not name. -/
inductive Curve
  | secp256r1
  | secp384r1
  | secp521r1
  | secp256k1
  | other (name : String) (keySize : Nat)
  deriving DecidableEq

namespace Curve

def keySize : Curve → Nat
  | secp256r1 => 256
  | secp384r1 => 384
  | secp521r1 => 521
  | secp256k1 => 256
  | other _ keySize => keySize

def name : Curve → String
  | secp256r1 => "secp256r1"
  | secp384r1 => "secp384r1"
  | secp521r1 => "secp521r1"
  | secp256k1 => "secp256k1"
  | other name _ => name

end Curve

structure RSAPublicNumbers where
  e : Nat
  n : Nat
  deriving DecidableEq

structure RSAPrivateNumbers where
  p : Nat
  q : Nat
  d : Nat
  dmp1 : Nat
  dmq1 : Nat
  iqmp : Nat
  publicNumbers : RSAPublicNumbers
  deriving DecidableEq

structure EllipticCurvePublicNumbers where
  x : Nat
  y : Nat
  curve : Curve
  deriving DecidableEq

structure EllipticCurvePrivateNumbers where
  privateValue : Nat
  publicNumbers : EllipticCurvePublicNumbers
  deriving DecidableEq

/-- The two Edwards curves. -/
inductive EdCurve
  | ed25519
  | ed448
  deriving DecidableEq

/-- A key object of `cryptography`, as the numbers or raw bytes that are read from it.
`other` is an object of a family the library does not support.
-/
inductive KeyObject
  | rsaPublic (numbers : RSAPublicNumbers)
  | rsaPrivate (numbers : RSAPrivateNumbers)
  | ecPublic (numbers : EllipticCurvePublicNumbers)
  | ecPrivate (numbers : EllipticCurvePrivateNumbers)
  | edPublic (curve : EdCurve) (raw : Bytes)
  | edPrivate (curve : EdCurve) (raw : Bytes)
  | other (className : String)
  deriving DecidableEq

namespace KeyObject

/-- `key.__class__.__name__`. -/
def className : KeyObject → String
  | rsaPublic _ => "RSAPublicKey"
  | rsaPrivate _ => "RSAPrivateKey"
  | ecPublic _ => "ECPublicKey"
  | ecPrivate _ => "ECPrivateKey"
  | edPublic .ed25519 _ => "Ed25519PublicKey"
  | edPublic .ed448 _ => "Ed448PublicKey"
  | edPrivate .ed25519 _ => "Ed25519PrivateKey"
  | edPrivate .ed448 _ => "Ed448PrivateKey"
  | other className => className

end KeyObject

/-- A key argument other than a `PyJWK`, and what `prepare_key` makes of it. -/
inductive Key
  | none
  | str (value : PyStr)
  | bytes (value : Bytes)
  | object (key : KeyObject)
  deriving DecidableEq

/-- A key where text or bytes are expected. -/
def Key.asText : Key → TextArg
  | str value => .str value
  | bytes value => .bytes value
  | none | object _ => .other

/-- A JSON value where text or bytes are expected. -/
def jsonAsText : Json → TextArg
  | .str value => .str value
  | _ => .other

/-- The two RSA paddings, with the parameters the library gives them. -/
inductive RSAPadding
  | pkcs1v15
  | pss
  deriving DecidableEq

/-- `hmac` and the `cryptography` package. A construction from numbers or bytes returns
what can be read back from the key it made, or raises.
-/
structure Crypto where
  hmacDigest : HashAlg → (key msg : Bytes) → Bytes
  loadPemPrivateKey : Bytes → Outcome KeyObject
  loadPemPublicKey : Bytes → Outcome KeyObject
  loadSshPublicKey : Bytes → Outcome KeyObject
  rsaSign : RSAPadding → HashAlg → RSAPrivateNumbers → (msg : Bytes) → Outcome Bytes
  rsaVerify : RSAPadding → HashAlg → RSAPublicNumbers → (sig msg : Bytes) → Outcome Unit
  ecdsaSign : HashAlg → EllipticCurvePrivateNumbers → (msg : Bytes) → Outcome Bytes
  ecdsaVerify : HashAlg → EllipticCurvePublicNumbers → (derSig msg : Bytes) → Outcome Unit
  edSign : EdCurve → (private_ msg : Bytes) → Outcome Bytes
  edVerify : EdCurve → (public_ sig msg : Bytes) → Outcome Unit
  decodeDssSignature : Bytes → Outcome (Nat × Nat)
  encodeDssSignature : Nat → Nat → Bytes
  rsaPublicKey : RSAPublicNumbers → Outcome RSAPublicNumbers
  rsaPrivateKey : RSAPrivateNumbers → Outcome RSAPrivateNumbers
  rsaRecoverPrimeFactors : (n d e : Nat) → Outcome (Nat × Nat)
  rsaCrtDmp1 : (d p : Nat) → Outcome Nat
  rsaCrtDmq1 : (d q : Nat) → Outcome Nat
  rsaCrtIqmp : (p q : Nat) → Outcome Nat
  ecPublicKey : EllipticCurvePublicNumbers → Outcome EllipticCurvePublicNumbers
  ecPrivateKey : EllipticCurvePrivateNumbers → Outcome EllipticCurvePrivateNumbers
  edPublicFromBytes : EdCurve → Bytes → Outcome Bytes
  edPrivateFromBytes : EdCurve → Bytes → Outcome Bytes
  /-- `key.public_key()` of an Edwards private key, in raw bytes. -/
  edPublicOf : EdCurve → (private_ : Bytes) → Bytes

/-- The value is an encodable string, or a list of them. -/
def textMember : Json → Bool
  | .str text => JsonText.scalars text
  | .list items =>
      items.all (fun item =>
        match item with
        | .str text => JsonText.scalars text
        | _ => false)
  | _ => false

/-- Every member of the object is an encodable string or a list of them, as in a JWK. -/
def textMembers (object : Dict Json) : Bool :=
  object.entries.all (fun entry => JsonText.scalars entry.1 && textMember entry.2)

/-- `json.loads` on bytes and on text, and `json.dumps` with compact or default
separators; `sort_keys` is applied to the value before it is dumped.
-/
structure JsonLib where
  loadsBytes : Bytes → Outcome Json
  loadsStr : PyStr → Outcome Json
  dumps : (compact : Bool) → Json → Outcome PyStr
  /-- Flat objects of text come back from their own dump. -/
  inverts (compact : Bool) {object : Dict Json} (h : textMembers object = true)
    : ∃ text, dumps compact object.toJson = .ok text ∧ loadsStr text = .ok object.toJson

/-- The process the library runs in. -/
structure Env where
  hasCrypto : Bool
  crypto : Crypto
  json : JsonLib
  /-- `int(text)`; `none` is the `ValueError`. -/
  intOfStr : PyStr → Option Int
  /-- The order in which the process iterates the set `_PEMS`. -/
  pemOrder : List Bytes
  pemOrder_perm : pemOrder.Perm pems

-----------------------------------------------------------------------------------------
-- A concrete process
-----------------------------------------------------------------------------------------

/-- A list of encodable strings has a JSON text, by induction on the list. -/
theorem textualItems_of_textMember {items : List Json}
    (h : textMember (.list items) = true)
    : JsonText.textualItems items = true := by
  simp only [textMember] at h
  induction items with
  | nil => rfl
  | cons head rest ih =>
      simp only [List.all_cons, Bool.and_eq_true] at h
      simp only [JsonText.textualItems, Bool.and_eq_true]
      refine ⟨?_, ih h.2⟩
      cases head with
      | str text => exact h.1
      | _ => exact absurd h.1 (by simp)

/-- A flat object of text has a JSON text, by induction on its entries. -/
theorem textual_of_textMembers {object : Dict Json} (h : textMembers object = true)
    : JsonText.textual object.toJson = true := by
  obtain ⟨entries, nodup⟩ := object
  simp only [textMembers, Dict.toJson, JsonText.textual] at h ⊢
  clear nodup
  induction entries with
  | nil => rfl
  | cons head rest ih =>
      obtain ⟨key, value⟩ := head
      simp only [List.all_cons, Bool.and_eq_true] at h
      simp only [JsonText.textualEntries, Bool.and_eq_true]
      refine ⟨h.1.1, ?_, ih h.2⟩
      have member : textMember value = true := h.1.2
      cases value with
      | str text => exact member
      | list items => exact textualItems_of_textMember member
      | null | bool _ | int _ | float _ | dict _ => exact absurd member (by simp [textMember])

namespace JsonLib

def malformed : PyError := ⟨.jsonDecodeError, [.text "Expecting value"]⟩

def read (chars : List Char) : Outcome Json :=
  match JsonText.read chars with
  | some value => .ok value
  | none => .error malformed

/-- The characters of a text without lone surrogates. -/
def chars? (text : PyStr) : Option (List Char) :=
  text.codePoints.mapM (fun codePoint =>
    match codePoint with
    | .scalar char => some char
    | .surrogate _ => none)

def loads (text : PyStr) : Outcome Json :=
  match chars? text with
  | some chars => read chars
  | none => .error malformed

theorem chars?_scalars (chars : List Char)
    : chars? ⟨chars.map .scalar⟩ = some chars := by
  induction chars with
  | nil => rfl
  | cons head rest ih =>
      simp only [chars?, List.map_cons, List.mapM_cons] at ih ⊢
      simp [ih]

/-- The JSON text format of the standard library, without fractional numbers. -/
def standard : JsonLib where
  loadsBytes data :=
    if data.all (fun byte => byte < 0x80) then
      read (data.map (fun byte => Char.ofNat byte.toNat))
    else
      match decodeUtf8 data with
      | some text => loads text
      | none => .error ⟨.unicodeDecodeError, [.text "invalid start byte"]⟩
  loadsStr := loads
  dumps compact value :=
    if JsonText.textual value then
      .ok ⟨(JsonText.write compact value).map .scalar⟩
    else .error ⟨.valueError, [.text "Out of range float values are not JSON compliant"]⟩
  inverts compact object h := by
    have plain := textual_of_textMembers h
    refine ⟨_, if_pos plain, ?_⟩
    simp only [loads, chars?_scalars, read, JsonText.read_write compact plain]

end JsonLib

/-- `hmac` alone: without the `cryptography` package its functions cannot be called. -/
def Crypto.absent (hmacDigest : HashAlg → (key msg : Bytes) → Bytes) : Crypto where
  hmacDigest
  loadPemPrivateKey _ := missing
  loadPemPublicKey _ := missing
  loadSshPublicKey _ := missing
  rsaSign _ _ _ _ := missing
  rsaVerify _ _ _ _ _ := missing
  ecdsaSign _ _ _ := missing
  ecdsaVerify _ _ _ _ := missing
  edSign _ _ _ := missing
  edVerify _ _ _ _ := missing
  decodeDssSignature _ := missing
  encodeDssSignature _ _ := []
  rsaPublicKey _ := missing
  rsaPrivateKey _ := missing
  rsaRecoverPrimeFactors _ _ _ := missing
  rsaCrtDmp1 _ _ := missing
  rsaCrtDmq1 _ _ := missing
  rsaCrtIqmp _ _ := missing
  ecPublicKey _ := missing
  ecPrivateKey _ := missing
  edPublicFromBytes _ _ := missing
  edPrivateFromBytes _ _ := missing
  edPublicOf _ _ := []
where
  missing {α : Type} : Outcome α :=
    .error ⟨.other "ModuleNotFoundError", [.text "No module named 'cryptography'"]⟩

/-- A process without the `cryptography` package. -/
def Env.withoutCryptography (hmacDigest : HashAlg → (key msg : Bytes) → Bytes) : Env where
  hasCrypto := false
  crypto := .absent hmacDigest
  json := .standard
  intOfStr text :=
    (JsonLib.chars? text).bind (fun chars =>
      (JsonText.readInt chars).bind (fun parts =>
        if parts.2 = [] then some parts.1 else none))
  pemOrder := pems
  pemOrder_perm := .refl pems

end PyJwt
