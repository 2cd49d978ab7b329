import PyJwt.Correctness.Base64url
import PyJwt.Implementation.ApiJwk

/-! Exporting a key as a JWK and importing it back, for the four families of keys. -/

namespace PyJwt

open Foundations
open Python

variable {env : Env}

-----------------------------------------------------------------------------------------
-- Members
-----------------------------------------------------------------------------------------

/-- The text of a member that holds bytes. -/
def bytesMember (data : Bytes) : Json := .str (asciiText (base64urlEncode data))

theorem scalars_asciiText (data : Bytes) : JsonText.scalars (asciiText data) = true := by
  simp [JsonText.scalars, asciiText, JsonText.isScalar]

theorem textMember_str (text : PyStr) : textMember (.str text) = JsonText.scalars text := rfl

theorem textMember_bytesMember (data : Bytes) : textMember (bytesMember data) = true :=
  scalars_asciiText _

/-- A member of bytes is read back, as text and as the bytes of the text. -/
theorem base64urlDecode_bytesMember (data : Bytes)
    : base64urlDecode (jsonAsText (bytesMember data)) = .ok data :=
  base64urlDecode_text data

/-- A member of bytes is read as the number they denote. -/
theorem uintMember_of_get? {obj : Dict Json} {name : PyStr} {data : Bytes}
    (found : obj.get? name = some (bytesMember data))
    : uintMember obj name = .ok (BigEndian.ofBytes data) := by
  unfold uintMember getItem
  rw [found]
  exact fromBase64urlUint_encode (forceBytes_base64urlText data)

/-- An encoding is put in a member as its text. -/
theorem memberText_eq {encoded : Outcome Bytes} {data : Bytes}
    (encodes : encoded = .ok (base64urlEncode data))
    : (do return Json.str (← decodeBytes (← encoded))) = .ok (bytesMember data) := by
  rw [encodes, outcome_ok_bind, decodeBytes_base64urlEncode]
  rfl

/-- A number is written in as few bytes as it needs, and in one for zero. -/
theorem RSAAlgorithm.uintText_shortest (number : Nat)
    : ∃ data, uintText number = .ok (bytesMember data) ∧ BigEndian.Shortest number data := by
  obtain ⟨data, encodes, shortest⟩ := toBase64urlUint_shortest number
  exact ⟨data, memberText_eq encodes, shortest⟩

/-- A coordinate is written in exactly the bytes of its curve. -/
theorem ECAlgorithm.coordinateText_eq {curve : Curve} (wide : 0 < curve.keySize) {number : Nat}
    (fits : number < 256 ^ ((curve.keySize + 7) / 8))
    : ∃ data,
        coordinateText curve number = .ok (bytesMember data)
        ∧ data.length = (curve.keySize + 7) / 8
        ∧ BigEndian.ofBytes data = number := by
  exact ⟨_, memberText_eq (toBase64urlUint_width wide fits), BigEndian.lowBytes_length _ _,
    BigEndian.ofBytes_of_toBytes? (BigEndian.toBytes?_of_lt fits)⟩

/-- A flat object of text is read back from what it is exported to, a dictionary or text. -/
theorem serializeJwk_reads (env : Env) {obj : Dict Json} (flat : textMembers obj = true)
    (asDict : Bool)
    : ∃ jwk value,
        serializeJwk env obj asDict = .ok jwk
        ∧ parseJwkJson env jwk = .ok value
        ∧ requireDict value = .ok obj := by
  have isDict : requireDict obj.toJson = .ok obj := by
    simp [requireDict]
  cases asDict with
  | true => exact ⟨obj.toJson, obj.toJson, rfl, rfl, isDict⟩
  | false =>
      obtain ⟨text, dumps, loads⟩ := env.json.inverts false flat
      refine ⟨.str text, obj.toJson, ?_, ?_, isDict⟩
      · simp only [serializeJwk, Bool.false_eq_true, if_false, dumps, outcome_ok_bind]
        rfl
      · simp only [parseJwkJson, loads, tryExcept_ok]

-----------------------------------------------------------------------------------------
-- Flat objects
-----------------------------------------------------------------------------------------

/-- An entry that a flat object of text may have. -/
def textEntry (entry : PyStr × Json) : Bool :=
  JsonText.scalars entry.1 && textMember entry.2

/-- Setting a text keeps an object flat, by induction on its entries. -/
theorem textMembers_set {obj : Dict Json} (flat : textMembers obj = true) {key : PyStr}
    {value : Json} (added : textEntry (key, value) = true)
    : textMembers (obj.set key value) = true := by
  have kept {entries : List (PyStr × Json)} (h : entries.all textEntry = true)
      : (setEntry key value entries).all textEntry = true := by
    induction entries with
    | nil => simp [setEntry, added]
    | cons head rest ih =>
        simp only [List.all_cons, Bool.and_eq_true] at h
        by_cases same : head.1 = key
        · simp [setEntry, same, added, h.2]
        · simp [setEntry, same, h.1, ih h.2]
  exact kept flat

theorem textMembers_update {obj : Dict Json} (flat : textMembers obj = true)
    {entries : List (PyStr × Json)} (added : entries.all textEntry = true)
    : textMembers (obj.update entries) = true := by
  induction entries generalizing obj with
  | nil => exact flat
  | cons head rest ih =>
      simp only [List.all_cons, Bool.and_eq_true] at added
      exact ih (textMembers_set flat added.1) added.2

theorem textMembers_ofEntries {entries : List (PyStr × Json)}
    (added : entries.all textEntry = true)
    : textMembers (Dict.ofEntries entries) = true :=
  textMembers_update (rfl : textMembers Dict.empty = true) added

-----------------------------------------------------------------------------------------
-- Families
-----------------------------------------------------------------------------------------

/-- The families of JWKs, by their `kty`. -/
inductive JwkFamily
  | oct
  | rsa
  | ec
  | okp

namespace JwkFamily

/-- `to_jwk` of the family's algorithm class. -/
def toJwk (env : Env) : JwkFamily → Key → Bool → Outcome Json
  | oct => HMACAlgorithm.toJwk env
  | rsa => RSAAlgorithm.toJwk env
  | ec => ECAlgorithm.toJwk env
  | okp => OKPAlgorithm.toJwk env

/-- `from_jwk` of the family's algorithm class. -/
def fromJwk (env : Env) : JwkFamily → Json → Outcome Key
  | oct => HMACAlgorithm.fromJwk env
  | rsa => RSAAlgorithm.fromJwk env
  | ec => ECAlgorithm.fromJwk env
  | okp => OKPAlgorithm.fromJwk env

/-- The keys of a family, each with the key an import of its export must give. Of
`cryptography` it is assumed that constructing the key from its numbers or raw bytes inverts
reading them.
-/
inductive Holds (env : Env) : JwkFamily → Key → Key → Prop
  | secret {secret : Key} {data : Bytes} (encodes : forceBytes secret.asText = .ok data)
    : Holds env oct secret (.bytes data)
  | rsaPublic {numbers : RSAPublicNumbers}
    (inverts : env.crypto.rsaPublicKey numbers = .ok numbers)
    : Holds env rsa (.object (.rsaPublic numbers)) (.object (.rsaPublic numbers))
  | rsaPrivate {numbers : RSAPrivateNumbers}
    (inverts : env.crypto.rsaPrivateKey numbers = .ok numbers)
    : Holds env rsa (.object (.rsaPrivate numbers)) (.object (.rsaPrivate numbers))
  | ecPublic {numbers : EllipticCurvePublicNumbers}
    (named : numbers.curve ∈ jwkEcCurves.map (fun entry => entry.2.1))
    (small
      : numbers.x < 2 ^ numbers.curve.keySize ∧ numbers.y < 2 ^ numbers.curve.keySize)
    (inverts : env.crypto.ecPublicKey numbers = .ok numbers)
    : Holds env ec (.object (.ecPublic numbers)) (.object (.ecPublic numbers))
  | ecPrivate {numbers : EllipticCurvePrivateNumbers}
    (named : numbers.publicNumbers.curve ∈ jwkEcCurves.map (fun entry => entry.2.1))
    (small
      : numbers.publicNumbers.x < 2 ^ numbers.publicNumbers.curve.keySize
        ∧ numbers.publicNumbers.y < 2 ^ numbers.publicNumbers.curve.keySize)
    (smallValue : numbers.privateValue < 2 ^ numbers.publicNumbers.curve.keySize)
    (inverts : env.crypto.ecPrivateKey numbers = .ok numbers)
    : Holds env ec (.object (.ecPrivate numbers)) (.object (.ecPrivate numbers))
  | edPublic {curve : EdCurve} {raw : Bytes}
    (inverts : env.crypto.edPublicFromBytes curve raw = .ok raw)
    : Holds env okp (.object (.edPublic curve raw)) (.object (.edPublic curve raw))
  | edPrivate {curve : EdCurve} {raw : Bytes}
    (inverts : env.crypto.edPrivateFromBytes curve raw = .ok raw)
    : Holds env okp (.object (.edPrivate curve raw)) (.object (.edPrivate curve raw))

end JwkFamily

-----------------------------------------------------------------------------------------
-- Exported objects
-----------------------------------------------------------------------------------------

/-- The JWK of a secret. -/
def HMACAlgorithm.secretObject (data : Bytes) : Dict Json :=
  Dict.ofEntries [("k", bytesMember data), ("kty", .str "oct")]

theorem HMACAlgorithm.toJwk_eq {secret : Key} {data : Bytes}
    (encodes : forceBytes secret.asText = .ok data) (asDict : Bool)
    : toJwk env secret asDict = serializeJwk env (secretObject data) asDict := by
  unfold toJwk
  rw [encodes]
  simp only [outcome_ok_bind, decodeBytes_base64urlEncode]
  rfl

namespace RSAAlgorithm

def publicObject (n e : Bytes) : Dict Json :=
  Dict.ofEntries
    [
      ("kty", .str "RSA"), ("key_ops", .list [.str "verify"]), ("n", bytesMember n),
      ("e", bytesMember e)
    ]

def privateEntries (n e d p q dp dq qi : Bytes) : List (PyStr × Json) :=
  [
    ("kty", .str "RSA"), ("key_ops", .list [.str "sign"]), ("n", bytesMember n),
    ("e", bytesMember e), ("d", bytesMember d), ("p", bytesMember p), ("q", bytesMember q),
    ("dp", bytesMember dp), ("dq", bytesMember dq), ("qi", bytesMember qi)
  ]

def privateObject (n e d p q dp dq qi : Bytes) : Dict Json :=
  Dict.ofEntries (privateEntries n e d p q dp dq qi)

/-- A member of a private key is found in the list of its members. -/
theorem privateObject_get? (n e d p q dp dq qi : Bytes) (name : PyStr)
    : (privateObject n e d p q dp dq qi).get? name
      = getEntry name (privateEntries n e d p q dp dq qi) := by
  refine Dict.get?_ofEntries ?_ name
  change (["kty", "key_ops", "n", "e", "d", "p", "q", "dp", "dq", "qi"] : List PyStr).Nodup
  decide

theorem toJwk_public (env : Env) (numbers : RSAPublicNumbers)
    : ∃ n e,
        BigEndian.Shortest numbers.n n
        ∧ BigEndian.Shortest numbers.e e
        ∧ ∀ asDict,
            toJwk env (.object (.rsaPublic numbers)) asDict
              = serializeJwk env (publicObject n e) asDict := by
  obtain ⟨n, nText, isN⟩ := uintText_shortest numbers.n
  obtain ⟨e, eText, isE⟩ := uintText_shortest numbers.e
  refine ⟨n, e, isN, isE, fun asDict => ?_⟩
  unfold toJwk
  simp only [nText, eText, outcome_ok_bind]
  rfl

theorem toJwk_private (env : Env) (numbers : RSAPrivateNumbers)
    : ∃ n e d p q dp dq qi,
        BigEndian.Shortest numbers.publicNumbers.n n
        ∧ BigEndian.Shortest numbers.publicNumbers.e e
        ∧ BigEndian.Shortest numbers.d d
        ∧ BigEndian.ofBytes p = numbers.p
        ∧ BigEndian.ofBytes q = numbers.q
        ∧ BigEndian.ofBytes dp = numbers.dmp1
        ∧ BigEndian.ofBytes dq = numbers.dmq1
        ∧ BigEndian.ofBytes qi = numbers.iqmp
        ∧ ∀ asDict,
            toJwk env (.object (.rsaPrivate numbers)) asDict
              = serializeJwk env (privateObject n e d p q dp dq qi) asDict := by
  obtain ⟨n, nText, isN⟩ := uintText_shortest numbers.publicNumbers.n
  obtain ⟨e, eText, isE⟩ := uintText_shortest numbers.publicNumbers.e
  obtain ⟨d, dText, isD⟩ := uintText_shortest numbers.d
  obtain ⟨p, pText, isP⟩ := uintText_shortest numbers.p
  obtain ⟨q, qText, isQ⟩ := uintText_shortest numbers.q
  obtain ⟨dp, dpText, isDp⟩ := uintText_shortest numbers.dmp1
  obtain ⟨dq, dqText, isDq⟩ := uintText_shortest numbers.dmq1
  obtain ⟨qi, qiText, isQi⟩ := uintText_shortest numbers.iqmp
  refine ⟨n, e, d, p, q, dp, dq, qi, isN, isE, isD, isP.denotes, isQ.denotes, isDp.denotes,
    isDq.denotes, isQi.denotes, fun asDict => ?_⟩
  unfold toJwk
  simp only [nText, eText, dText, pText, qText, dpText, dqText, qiText, outcome_ok_bind]
  rfl

end RSAAlgorithm

namespace ECAlgorithm

def publicObject (crv : PyStr) (x y : Bytes) : Dict Json :=
  Dict.ofEntries
    [("kty", .str "EC"), ("crv", .str crv), ("x", bytesMember x), ("y", bytesMember y)]

def privateObject (crv : PyStr) (x y d : Bytes) : Dict Json :=
  (publicObject crv x y).set "d" (bytesMember d)

/-- A curve with a `crv` name is exported under it and imported from it. -/
theorem curve_exchanges {curve : Curve}
    (named : curve ∈ jwkEcCurves.map (fun entry => entry.2.1))
    : 0 < curve.keySize
      ∧ ∃ crv,
          jwkCurveName curve = .ok crv
          ∧ JsonText.scalars crv = true
          ∧ resolveEcCurveFromJwk (.str crv) ((curve.keySize + 7) / 8)
              ((curve.keySize + 7) / 8)
            = .ok curve := by
  obtain ⟨entry, member, rfl⟩ := List.mem_map.mp named
  obtain ⟨found, exported, width⟩ := jwkEcCurves_inverse entry member
  have facts : ∀ entry ∈ jwkEcCurves,
      0 < entry.2.1.keySize ∧ JsonText.scalars entry.1 = true := by
    decide
  refine ⟨(facts entry member).1, entry.1, ?_, (facts entry member).2, ?_⟩
  · simp only [jwkCurveName, exported]
  · simp only [resolveEcCurveFromJwk, requireHashable, outcome_ok_bind, Json.asStr?,
      Option.bind_some, found, width, ne_eq, not_true, or_self, if_false]

/-- A number below the size of the curve fits in the curve's bytes. -/
theorem fits_of_small {curve : Curve} {number : Nat} (small : number < 2 ^ curve.keySize)
    : number < 256 ^ ((curve.keySize + 7) / 8) :=
  small.trans_le (BigEndian.two_pow_le_bytes _)

/-- The numbers of the point fit in the bytes of its curve. -/
def PointFits (numbers : EllipticCurvePublicNumbers) : Prop :=
  numbers.x < 256 ^ ((numbers.curve.keySize + 7) / 8)
  ∧ numbers.y < 256 ^ ((numbers.curve.keySize + 7) / 8)

theorem pointFits_of_small {numbers : EllipticCurvePublicNumbers}
    (small : numbers.x < 2 ^ numbers.curve.keySize ∧ numbers.y < 2 ^ numbers.curve.keySize)
    : PointFits numbers :=
  ⟨fits_of_small small.1, fits_of_small small.2⟩

/-- The bytes are the number in the width of the curve. -/
def Fills (curve : Curve) (number : Nat) (data : Bytes) : Prop :=
  data.length = (curve.keySize + 7) / 8 ∧ BigEndian.ofBytes data = number

theorem publicMembers_eq {numbers : EllipticCurvePublicNumbers}
    (wide : 0 < numbers.curve.keySize) {crv : PyStr}
    (exported : jwkCurveName numbers.curve = .ok crv) (fits : PointFits numbers)
    : ∃ x y,
        Fills numbers.curve numbers.x x
        ∧ Fills numbers.curve numbers.y y
        ∧ publicMembers numbers = .ok (publicObject crv x y) := by
  obtain ⟨x, xText, isX⟩ := coordinateText_eq wide fits.1
  obtain ⟨y, yText, isY⟩ := coordinateText_eq wide fits.2
  refine ⟨x, y, isX, isY, ?_⟩
  unfold publicMembers
  simp only [exported, xText, yText, outcome_ok_bind]
  rfl

theorem toJwk_public (env : Env) {numbers : EllipticCurvePublicNumbers}
    (wide : 0 < numbers.curve.keySize) {crv : PyStr}
    (exported : jwkCurveName numbers.curve = .ok crv) (fits : PointFits numbers)
    : ∃ x y,
        Fills numbers.curve numbers.x x
        ∧ Fills numbers.curve numbers.y y
        ∧ ∀ asDict,
            toJwk env (.object (.ecPublic numbers)) asDict
              = serializeJwk env (publicObject crv x y) asDict := by
  obtain ⟨x, y, isX, isY, members⟩ := publicMembers_eq wide exported fits
  refine ⟨x, y, isX, isY, fun asDict => ?_⟩
  unfold toJwk
  simp only [members, outcome_ok_bind]

theorem toJwk_private (env : Env) {numbers : EllipticCurvePrivateNumbers}
    (wide : 0 < numbers.publicNumbers.curve.keySize) {crv : PyStr}
    (exported : jwkCurveName numbers.publicNumbers.curve = .ok crv)
    (fits : PointFits numbers.publicNumbers)
    (fitsValue
      : numbers.privateValue < 256 ^ ((numbers.publicNumbers.curve.keySize + 7) / 8))
    : ∃ x y d,
        Fills numbers.publicNumbers.curve numbers.publicNumbers.x x
        ∧ Fills numbers.publicNumbers.curve numbers.publicNumbers.y y
        ∧ Fills numbers.publicNumbers.curve numbers.privateValue d
        ∧ ∀ asDict,
            toJwk env (.object (.ecPrivate numbers)) asDict
              = serializeJwk env (privateObject crv x y d) asDict := by
  obtain ⟨x, y, isX, isY, members⟩ := publicMembers_eq wide exported fits
  obtain ⟨d, dText, isD⟩ := coordinateText_eq wide fitsValue
  refine ⟨x, y, d, isX, isY, isD, fun asDict => ?_⟩
  unfold toJwk
  simp only [members, dText, outcome_ok_bind]
  rfl

end ECAlgorithm

namespace OKPAlgorithm

def publicObject (curve : EdCurve) (x : Bytes) : Dict Json :=
  Dict.ofEntries [("x", bytesMember x), ("kty", .str "OKP"), ("crv", .str (crvName curve))]

def privateObject (curve : EdCurve) (x d : Bytes) : Dict Json :=
  Dict.ofEntries
    [
      ("x", bytesMember x), ("d", bytesMember d), ("kty", .str "OKP"),
      ("crv", .str (crvName curve))
    ]

theorem crv_exchanges (curve : EdCurve)
    : JsonText.scalars (crvName curve) = true
      ∧ crvCurve? (.str (crvName curve)) = some curve := by
  cases curve <;> decide

theorem toJwk_public (env : Env) (curve : EdCurve) (raw : Bytes) (asDict : Bool)
    : toJwk env (.object (.edPublic curve raw)) asDict
      = serializeJwk env (publicObject curve raw) asDict := by
  unfold toJwk rawText
  simp only [decodeBytes_base64urlEncode, outcome_ok_bind]
  rfl

/-- A private key is exported with the public key derived from it. -/
theorem toJwk_private (env : Env) (curve : EdCurve) (raw : Bytes) (asDict : Bool)
    : toJwk env (.object (.edPrivate curve raw)) asDict
      = serializeJwk env (privateObject curve (env.crypto.edPublicOf curve raw) raw)
          asDict := by
  unfold toJwk rawText
  simp only [decodeBytes_base64urlEncode, outcome_ok_bind]
  rfl

end OKPAlgorithm

-----------------------------------------------------------------------------------------
-- Importing what was exported
-----------------------------------------------------------------------------------------

/-- `jwk` is exported, and imported as `key`. -/
def Exchanges (exported : Outcome Json) (fromJwk : Json → Outcome Key) (key : Key) : Prop :=
  ∃ jwk, exported = .ok jwk ∧ fromJwk jwk = .ok key

theorem HMACAlgorithm.exchanges {secret : Key} {data : Bytes}
    (encodes : forceBytes secret.asText = .ok data) (asDict : Bool)
    : Exchanges (toJwk env secret asDict) (fromJwk env) (.bytes data) := by
  have flat : textMembers (secretObject data) = true := by
    refine textMembers_ofEntries ?_
    simp only [List.all_cons, textEntry, textMember_bytesMember]
    decide
  have kty : (secretObject data).get? "kty" = some (.str "oct") := rfl
  have k : (secretObject data).get? "k" = some (bytesMember data) := rfl
  obtain ⟨jwk, value, exported, parsed, isObject⟩ := serializeJwk_reads env flat asDict
  refine ⟨jwk, (toJwk_eq encodes asDict).trans exported, ?_⟩
  unfold fromJwk getOrNull getItem
  simp only [parsed, isObject, outcome_ok_bind, kty, k, Option.getD_some, Json.asStr?,
    base64urlDecode_bytesMember]
  rfl

namespace RSAAlgorithm

theorem exchanges_public {numbers : RSAPublicNumbers}
    (inverts : env.crypto.rsaPublicKey numbers = .ok numbers) (asDict : Bool)
    : Exchanges (toJwk env (.object (.rsaPublic numbers)) asDict) (fromJwk env)
        (.object (.rsaPublic numbers)) := by
  obtain ⟨modulus, exponent, isN, isE, exports⟩ := toJwk_public env numbers
  have same : ({ e := BigEndian.ofBytes exponent, n := BigEndian.ofBytes modulus }
      : RSAPublicNumbers) = numbers := by
    rw [isN.denotes, isE.denotes]
  have flat : textMembers (publicObject modulus exponent) = true := by
    refine textMembers_ofEntries ?_
    simp only [List.all_cons, textEntry, textMember_bytesMember]
    decide
  have kty : (publicObject modulus exponent).get? "kty" = some (.str "RSA") := rfl
  have n : (publicObject modulus exponent).get? "n" = some (bytesMember modulus) := rfl
  have e : (publicObject modulus exponent).get? "e" = some (bytesMember exponent) := rfl
  have d : (publicObject modulus exponent).get? "d" = none := rfl
  obtain ⟨jwk, value, exported, parsed, isObject⟩ := serializeJwk_reads env flat asDict
  refine ⟨jwk, (exports asDict).trans exported, ?_⟩
  unfold fromJwk getOrNull Dict.contains
  simp only [parsed, isObject, outcome_ok_bind, kty, n, e, d, Option.getD_some, Json.asStr?,
    uintMember_of_get? n, uintMember_of_get? e, same, inverts, Option.isSome_some,
    Option.isSome_none, Bool.false_and, Bool.and_self, Bool.false_eq_true, if_false, if_true]
  rfl

theorem exchanges_private {numbers : RSAPrivateNumbers}
    (inverts : env.crypto.rsaPrivateKey numbers = .ok numbers) (asDict : Bool)
    : Exchanges (toJwk env (.object (.rsaPrivate numbers)) asDict) (fromJwk env)
        (.object (.rsaPrivate numbers)) := by
  obtain ⟨nData, eData, dData, pData, qData, dpData, dqData, qiData, isN, isE, isD, isP, isQ,
    isDp, isDq, isQi, exports⟩ := toJwk_private env numbers
  have stored (name : PyStr) :=
    privateObject_get? nData eData dData pData qData dpData dqData qiData name
  have flat : textMembers
      (privateObject nData eData dData pData qData dpData dqData qiData) = true := by
    refine textMembers_ofEntries ?_
    simp only [privateEntries, List.all_cons, textEntry, textMember_bytesMember]
    decide
  generalize privateObject nData eData dData pData qData dpData dqData qiData = obj
    at stored flat exports
  have kty : obj.get? "kty" = some (.str "RSA") := stored _
  have n : obj.get? "n" = some (bytesMember nData) := stored _
  have e : obj.get? "e" = some (bytesMember eData) := stored _
  have d : obj.get? "d" = some (bytesMember dData) := stored _
  have p : obj.get? "p" = some (bytesMember pData) := stored _
  have q : obj.get? "q" = some (bytesMember qData) := stored _
  have dp : obj.get? "dp" = some (bytesMember dpData) := stored _
  have dq : obj.get? "dq" = some (bytesMember dqData) := stored _
  have qi : obj.get? "qi" = some (bytesMember qiData) := stored _
  have oth : obj.get? "oth" = none := stored _
  -- The importer finds all five members that go with `d`, so it recovers no prime factors.
  have imported : rsaPrivateNumbersFromJwk env obj numbers.publicNumbers = .ok numbers := by
    unfold rsaPrivateNumbersFromJwk Dict.contains
    simp only [oth, p, q, dp, dq, qi, List.map_cons, List.map_nil, Option.isSome_some,
      Option.isSome_none, Bool.false_eq_true, if_false, List.any_cons, List.all_cons, id,
      Bool.true_or, Bool.true_and, List.all_nil, Bool.not_true, if_true,
      uintMember_of_get? d, uintMember_of_get? p, uintMember_of_get? q,
      uintMember_of_get? dp, uintMember_of_get? dq, uintMember_of_get? qi, outcome_ok_bind,
      isD.denotes, isP, isQ, isDp, isDq, isQi]
    rfl
  obtain ⟨jwk, value, exported, parsed, isObject⟩ := serializeJwk_reads env flat asDict
  refine ⟨jwk, (exports asDict).trans exported, ?_⟩
  unfold fromJwk getOrNull Dict.contains
  simp only [parsed, isObject, outcome_ok_bind, kty, n, e, d, Option.getD_some, Json.asStr?,
    uintMember_of_get? n, uintMember_of_get? e, isN.denotes, isE.denotes, imported, inverts,
    Option.isSome_some, Bool.and_self, if_true]
  rfl

end RSAAlgorithm

namespace ECAlgorithm

theorem exchanges_public {numbers : EllipticCurvePublicNumbers}
    (named : numbers.curve ∈ jwkEcCurves.map (fun entry => entry.2.1))
    (small : numbers.x < 2 ^ numbers.curve.keySize ∧ numbers.y < 2 ^ numbers.curve.keySize)
    (inverts : env.crypto.ecPublicKey numbers = .ok numbers) (asDict : Bool)
    : Exchanges (toJwk env (.object (.ecPublic numbers)) asDict) (fromJwk env)
        (.object (.ecPublic numbers)) := by
  obtain ⟨wide, crv, exportedCurve, scalars, resolves⟩ := curve_exchanges named
  obtain ⟨xData, yData, isX, isY, exports⟩ :=
    toJwk_public env wide exportedCurve (pointFits_of_small small)
  have flat : textMembers (publicObject crv xData yData) = true := by
    refine textMembers_ofEntries ?_
    simp only [List.all_cons, textEntry, textMember_bytesMember, textMember_str, scalars]
    decide
  have kty : (publicObject crv xData yData).get? "kty" = some (.str "EC") := rfl
  have crvFound : (publicObject crv xData yData).get? "crv" = some (.str crv) := rfl
  have x : (publicObject crv xData yData).get? "x" = some (bytesMember xData) := rfl
  have y : (publicObject crv xData yData).get? "y" = some (bytesMember yData) := rfl
  have d : (publicObject crv xData yData).get? "d" = none := rfl
  obtain ⟨jwk, value, exported, parsed, isObject⟩ := serializeJwk_reads env flat asDict
  refine ⟨jwk, (exports asDict).trans exported, ?_⟩
  unfold fromJwk getOrNull Dict.contains
  simp only [parsed, isObject, outcome_ok_bind, kty, crvFound, x, y, d, Option.getD_some,
    Json.asStr?, base64urlDecode_bytesMember, isX.1, isY.1, isX.2, isY.2, resolves, inverts,
    Option.isSome_some, Option.isSome_none, Bool.not_true, Bool.not_false, Bool.or_self,
    Bool.false_eq_true, if_false, if_true]
  rfl

theorem exchanges_private {numbers : EllipticCurvePrivateNumbers}
    (named : numbers.publicNumbers.curve ∈ jwkEcCurves.map (fun entry => entry.2.1))
    (small
      : numbers.publicNumbers.x < 2 ^ numbers.publicNumbers.curve.keySize
        ∧ numbers.publicNumbers.y < 2 ^ numbers.publicNumbers.curve.keySize)
    (smallValue : numbers.privateValue < 2 ^ numbers.publicNumbers.curve.keySize)
    (inverts : env.crypto.ecPrivateKey numbers = .ok numbers) (asDict : Bool)
    : Exchanges (toJwk env (.object (.ecPrivate numbers)) asDict) (fromJwk env)
        (.object (.ecPrivate numbers)) := by
  obtain ⟨wide, crv, exportedCurve, scalars, resolves⟩ := curve_exchanges named
  obtain ⟨xData, yData, dData, isX, isY, isD, exports⟩ :=
    toJwk_private env wide exportedCurve (pointFits_of_small small) (fits_of_small smallValue)
  have flat : textMembers (privateObject crv xData yData dData) = true := by
    refine textMembers_set (textMembers_ofEntries ?_) ?_
    · simp only [List.all_cons, textEntry, textMember_bytesMember, textMember_str, scalars]
      decide
    · simp only [textEntry, textMember_bytesMember]
      decide
  have kty : (privateObject crv xData yData dData).get? "kty" = some (.str "EC") := rfl
  have crvFound : (privateObject crv xData yData dData).get? "crv" = some (.str crv) := rfl
  have x : (privateObject crv xData yData dData).get? "x" = some (bytesMember xData) := rfl
  have y : (privateObject crv xData yData dData).get? "y" = some (bytesMember yData) := rfl
  have d : (privateObject crv xData yData dData).get? "d" = some (bytesMember dData) := rfl
  obtain ⟨jwk, value, exported, parsed, isObject⟩ := serializeJwk_reads env flat asDict
  refine ⟨jwk, (exports asDict).trans exported, ?_⟩
  unfold fromJwk getOrNull Dict.contains
  simp only [parsed, isObject, outcome_ok_bind, kty, crvFound, x, y, d, Option.getD_some,
    Json.asStr?, base64urlDecode_bytesMember, isX.1, isY.1, isD.1, isX.2, isY.2, isD.2,
    resolves, inverts, Option.isSome_some, Bool.not_true, Bool.or_self, Bool.false_eq_true,
    ne_eq, not_true, if_false]
  rfl

end ECAlgorithm

namespace OKPAlgorithm

theorem exchanges_public {curve : EdCurve} {raw : Bytes}
    (inverts : env.crypto.edPublicFromBytes curve raw = .ok raw) (asDict : Bool)
    : Exchanges (toJwk env (.object (.edPublic curve raw)) asDict) (fromJwk env)
        (.object (.edPublic curve raw)) := by
  obtain ⟨scalars, resolves⟩ := crv_exchanges curve
  have flat : textMembers (publicObject curve raw) = true := by
    refine textMembers_ofEntries ?_
    simp only [List.all_cons, textEntry, textMember_bytesMember, textMember_str, scalars]
    decide
  have kty : (publicObject curve raw).get? "kty" = some (.str "OKP") := rfl
  have crv : (publicObject curve raw).get? "crv" = some (.str (crvName curve)) := rfl
  have x : (publicObject curve raw).get? "x" = some (bytesMember raw) := rfl
  have d : (publicObject curve raw).get? "d" = none := rfl
  obtain ⟨jwk, value, exported, parsed, isObject⟩ := serializeJwk_reads env flat asDict
  refine ⟨jwk, (toJwk_public env curve raw asDict).trans exported, ?_⟩
  unfold fromJwk getOrNull Dict.contains
  simp only [parsed, isObject, outcome_ok_bind, kty, crv, x, d, Option.getD_some,
    Json.asStr?, resolves, base64urlDecode_bytesMember, inverts, Option.isSome_some,
    Option.isSome_none, Bool.not_true, Bool.not_false, Bool.false_eq_true, if_false, if_true]
  rfl

theorem exchanges_private {curve : EdCurve} {raw : Bytes}
    (inverts : env.crypto.edPrivateFromBytes curve raw = .ok raw) (asDict : Bool)
    : Exchanges (toJwk env (.object (.edPrivate curve raw)) asDict) (fromJwk env)
        (.object (.edPrivate curve raw)) := by
  obtain ⟨scalars, resolves⟩ := crv_exchanges curve
  have flat (derived : Bytes) : textMembers (privateObject curve derived raw) = true := by
    refine textMembers_ofEntries ?_
    simp only [List.all_cons, textEntry, textMember_bytesMember, textMember_str, scalars]
    decide
  have kty (derived : Bytes)
      : (privateObject curve derived raw).get? "kty" = some (.str "OKP") := rfl
  have crv (derived : Bytes)
      : (privateObject curve derived raw).get? "crv" = some (.str (crvName curve)) := rfl
  have x (derived : Bytes)
      : (privateObject curve derived raw).get? "x" = some (bytesMember derived) := rfl
  have d (derived : Bytes)
      : (privateObject curve derived raw).get? "d" = some (bytesMember raw) := rfl
  obtain ⟨jwk, value, exported, parsed, isObject⟩ := serializeJwk_reads env (flat _) asDict
  refine ⟨jwk, (toJwk_private env curve raw asDict).trans exported, ?_⟩
  unfold fromJwk getOrNull Dict.contains
  simp only [parsed, isObject, outcome_ok_bind, kty, crv, x, d, Option.getD_some,
    Json.asStr?, resolves, base64urlDecode_bytesMember, inverts, Option.isSome_some,
    Bool.not_true, Bool.false_eq_true, if_false]
  rfl

end OKPAlgorithm

/-- A key that is exported as a JWK, as a dictionary or as text, is imported as itself: with
the same numbers or bytes, on the same curve, and private exactly when it was. A secret comes
back as its bytes.
-/
theorem fromJwk_toJwk {family : JwkFamily} {key imported : Key}
    (holds : family.Holds env key imported) (asDict : Bool)
    : ∃ jwk, family.toJwk env key asDict = .ok jwk ∧ family.fromJwk env jwk = .ok imported := by
  cases holds with
  | secret encodes => exact HMACAlgorithm.exchanges encodes asDict
  | rsaPublic inverts => exact RSAAlgorithm.exchanges_public inverts asDict
  | rsaPrivate inverts => exact RSAAlgorithm.exchanges_private inverts asDict
  | ecPublic named small inverts =>
      exact ECAlgorithm.exchanges_public named small inverts asDict
  | ecPrivate named small smallValue inverts =>
      exact ECAlgorithm.exchanges_private named small smallValue inverts asDict
  | edPublic inverts => exact OKPAlgorithm.exchanges_public inverts asDict
  | edPrivate inverts => exact OKPAlgorithm.exchanges_private inverts asDict

-----------------------------------------------------------------------------------------
-- A key with leading zero bytes, and a secret without bytes
-----------------------------------------------------------------------------------------

/-- The base point of P-256 under the private value one, all but one of whose bytes are zero. -/
def basePointKey : EllipticCurvePrivateNumbers where
  privateValue := 1
  publicNumbers :=
    {
      x := 0x6b17d1f2e12c4247f8bce6e563a440f277037d812deb33a0f4a13945d898c296
      y := 0x4fe342e2fe1a7f9b8ee7eb4a7c0f9e162bce33576b315ececbb6406837bf51f5
      curve := .secp256r1
    }

/-- A process in which elliptic-curve keys are constructed from their numbers. -/
def constructingEnv : Env :=
  {
    Env.withoutCryptography (fun _ _ _ => []) with
    hasCrypto := true
    crypto :=
      { Crypto.absent (fun _ _ _ => []) with ecPrivateKey := fun numbers => .ok numbers }
  }

theorem fromJwk_toJwk_basePointKey
    : ∃ jwk,
        JwkFamily.ec.toJwk constructingEnv (.object (.ecPrivate basePointKey)) false = .ok jwk
        ∧ JwkFamily.ec.fromJwk constructingEnv jwk
          = .ok (.object (.ecPrivate basePointKey)) :=
  fromJwk_toJwk
    (.ecPrivate (by decide) (by decide) (by decide) rfl) false

/-- A string with a lone surrogate has no bytes, and is not exported. -/
theorem toJwk_surrogate
    : ∃ error,
        JwkFamily.oct.toJwk constructingEnv (.str ⟨[.surrogate 0]⟩) true = .error error
        ∧ error.cls = .unicodeEncodeError :=
  ⟨_, rfl, rfl⟩

end PyJwt
