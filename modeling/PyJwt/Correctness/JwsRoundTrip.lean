import PyJwt.Correctness.DetachedPayload

/-! What an encode signs, a decode returns: the payload, the signature and the header, with an
attached or a detached payload.
-/

namespace PyJwt

open Foundations
open Python

-----------------------------------------------------------------------------------------
-- The header of a token
-----------------------------------------------------------------------------------------

/-- A caller's headers leave the algorithm, the detaching and the critical extensions to the
library, and name the key by a string if at all.
-/
structure PlainHeaders (headers : Dict Json) : Prop where
  alg : headers.get? "alg" = none
  b64 : headers.get? "b64" = none
  crit : headers.get? "crit" = none
  kid : ∀ kid, headers.get? "kid" = some kid → ∃ name, kid = .str name

/-- The header a token should have: `typ` and `alg` overridden by the caller's headers, no
false `typ`, and `b64` false exactly when the payload is detached.
-/
def expectedMember (name : PyStr) (headers : Dict Json) (detached : Bool) (key : PyStr)
    : Option Json :=
  let default : Option Json :=
    if key = "typ" then some (.str "JWT") else if key = "alg" then some (.str name) else none
  if key = "b64" then if detached then some (.bool false) else none
  else
    let member := (headers.get? key).or default
    if key = "typ" then member.filter Json.truthy else member

theorem expectedMember_b64 (name : PyStr) (headers : Dict Json) (detached : Bool)
    : expectedMember name headers detached "b64"
      = if detached then some (.bool false) else none := by
  simp [expectedMember]

/-- The header states the caller's `alg`, and otherwise the algorithm of the call. -/
theorem expectedMember_alg (name : PyStr) (headers : Dict Json) (detached : Bool)
    : expectedMember name headers detached "alg"
      = (headers.get? "alg").or (some (.str name)) := by
  simp [expectedMember]

/-- Members that the library does not touch are the caller's. -/
theorem expectedMember_other {key : PyStr} (notB64 : key ≠ "b64") (notTyp : key ≠ "typ")
    (notAlg : key ≠ "alg") (name : PyStr) (headers : Dict Json) (detached : Bool)
    : expectedMember name headers detached key = headers.get? key := by
  simp [expectedMember, notB64, notTyp, notAlg]

namespace PyJWS

variable {name : PyStr} {headers : Option (Dict Json)} {detached : Bool}

/-- The headers of a caller who gives none are empty. -/
theorem givenHeaders_get? (headers : Option (Dict Json)) (key : PyStr)
    : (headers.getD Dict.empty).get? key
      = (givenHeaders headers).bind (fun given => given.get? key) := by
  cases headers with
  | none => rfl
  | some headers =>
      unfold givenHeaders
      by_cases empty : headers.entries.isEmpty = true
      · simp only [Option.getD_some, Option.filter, empty, Bool.not_true, Bool.false_eq_true,
          if_false, Option.bind_none, Dict.get?]
        rw [List.isEmpty_iff.mp empty]
        rfl
      · simp [Option.filter, empty]

/-- The caller's headers override the two members the library starts from. -/
theorem mergedHeader_get? (alg : Json) (headers : Option (Dict Json)) (key : PyStr)
    : (mergedHeader alg headers).get? key
      = ((headers.getD Dict.empty).get? key).or
          (if key = "typ" then some headerTyp else if key = "alg" then some alg else none) := by
  have start : (Dict.ofEntries [((("typ" : String) : PyStr), headerTyp), ("alg", alg)]).get? key
      = if key = "typ" then some headerTyp else if key = "alg" then some alg else none := by
    simp only [Dict.ofEntries, Dict.update_cons, Dict.update_nil, Dict.get?_set,
      Dict.get?_empty]
    by_cases isAlg : key = "alg"
    · have notTyp : key ≠ "typ" := by
        rw [isAlg]
        decide
      simp [isAlg]
    · simp [isAlg]
  rw [givenHeaders_get?]
  unfold mergedHeader
  cases givenHeaders headers with
  | none => simpa using start
  | some given => simp only [Dict.get?_update, start, Option.bind_some]

/-- The built header has exactly the expected members. -/
theorem adjustHeader_get? (key : PyStr)
    : (adjustHeader (mergedHeader (.str name) headers) detached).get? key
      = expectedMember name (headers.getD Dict.empty) detached key := by
  have typed : (if !(getOrNull (mergedHeader (.str name) headers) "typ").truthy then
        (mergedHeader (.str name) headers).erase "typ"
        else mergedHeader (.str name) headers).get? key
      = if key = "typ" then
          ((mergedHeader (.str name) headers).get? key).filter Json.truthy
        else (mergedHeader (.str name) headers).get? key := by
    by_cases isTyp : key = "typ"
    · subst isTyp
      unfold getOrNull
      cases found : (mergedHeader (.str name) headers).get? "typ" with
      | none => simp [Json.truthy]
      | some typ => cases truthy : typ.truthy <;> simp [truthy, found, Option.filter]
    · split <;> simp [isTyp]
  unfold adjustHeader expectedMember
  by_cases isB64 : key = "b64"
  · subst isB64
    cases detached <;> simp
  · cases detached with
    | true =>
        simp only [if_true, Dict.get?_set, if_neg isB64, typed, mergedHeader_get?]
        rfl
    | false =>
        simp only [Bool.false_eq_true, if_false, Dict.get?_erase, if_neg isB64, typed,
          mergedHeader_get?]
        rfl

/-- Plain headers change neither the algorithm of an encode nor its detaching. -/
theorem resolveAlgorithm_plain (plain : PlainHeaders (headers.getD Dict.empty)) (key : KeyArg)
    : resolveAlgorithm (.name name) key headers detached = (.str name, detached) := by
  have absent (key : PyStr) (h : (headers.getD Dict.empty).get? key = none)
      : ∀ given, givenHeaders headers = some given → getOrNull given key = .null := by
    intro given found
    rw [givenHeaders_get?, found, Option.bind_some] at h
    simp [getOrNull, h]
  unfold resolveAlgorithm
  cases found : givenHeaders headers with
  | none => rfl
  | some given =>
      simp [absent "alg" plain.alg given found, absent "b64" plain.b64 given found,
        Json.truthy, Json.isFalse]

/-- Plain headers are accepted, and the header is built from them. -/
theorem buildHeader_plain (plain : PlainHeaders (headers.getD Dict.empty)) (alg : Json)
    : buildHeader alg headers detached
      = .ok (adjustHeader (mergedHeader alg headers) detached) := by
  unfold buildHeader
  cases found : givenHeaders headers with
  | none => rfl
  | some given =>
      have accepted : validateHeaders given true = .ok () := by
        have kid := plain.kid
        simp only [givenHeaders_get?, found, Option.bind_some] at kid
        unfold validateHeaders
        cases present : given.get? "kid" with
        | none => rfl
        | some value =>
            obtain ⟨name, rfl⟩ := kid value present
            rfl
      simp only [accepted]
      rfl

/-- A member of the dumped header is the expected one, dumped. -/
theorem dumpedHeader_get? (name : PyStr) (headers : Option (Dict Json))
    (detached sortHeaders : Bool) (key : PyStr)
    : ((adjustHeader (mergedHeader (.str name) headers) detached).dumped sortHeaders).get? key
      = (expectedMember name (headers.getD Dict.empty) detached key).map
          (Json.dumped sortHeaders) := by
  rw [Dict.get?_dumped, adjustHeader_get?]

/-- The dumped header holds `b64` exactly when the payload is detached. -/
theorem dumpedHeader_contains_b64 (name : PyStr) (headers : Option (Dict Json))
    (detached sortHeaders : Bool)
    : ((adjustHeader (mergedHeader (.str name) headers) detached).dumped
          sortHeaders).contains "b64"
      = detached := by
  rw [Dict.contains, dumpedHeader_get?, expectedMember_b64]
  cases detached <;> simp

/-- Valid headers stay valid in the token exactly when they list no critical extension, or the
payload is detached: `b64` is the only extension they can list, and it is dropped otherwise.
-/
theorem validHeaders_dumped_iff (valid : ValidHeaders (headers.getD Dict.empty))
    : ValidHeaders
          ((adjustHeader (mergedHeader (.str name) headers) detached).dumped sortHeaders)
      ↔ (headers.getD Dict.empty).get? "crit" = none ∨ detached = true := by
  have kept (key : PyStr) (notB64 : key ≠ "b64") (notTyp : key ≠ "typ") (notAlg : key ≠ "alg")
      : ((adjustHeader (mergedHeader (.str name) headers) detached).dumped sortHeaders).get? key
        = ((headers.getD Dict.empty).get? key).map (Json.dumped sortHeaders) := by
    rw [dumpedHeader_get?, expectedMember_other notB64 notTyp notAlg]
  have kid := kept "kid" (by decide) (by decide) (by decide)
  have crit := kept "crit" (by decide) (by decide) (by decide)
  have b64 := dumpedHeader_contains_b64 name headers detached sortHeaders
  have onlyB64 (extension : PyStr) (supported : extension ∈ supportedCrit) : extension = "b64" :=
    List.mem_singleton.mp supported
  constructor
  · intro validDumped
    rcases Option.eq_none_or_eq_some ((headers.getD Dict.empty).get? "crit") with
      absent | ⟨given, present⟩
    · exact Or.inl absent
    · rw [present, Option.map_some] at crit
      obtain ⟨names, _, nonempty, listed⟩ := validDumped.crit _ crit
      obtain ⟨extension, member⟩ := List.exists_mem_of_ne_nil names nonempty
      obtain ⟨supported, found⟩ := listed extension member
      rw [onlyB64 extension supported, b64] at found
      exact Or.inr found
  · intro keeps
    refine { kid := ?_, crit := ?_ }
    · intro value found
      obtain ⟨given, present, rfl⟩ := Option.map_eq_some_iff.mp (kid.symm.trans found)
      obtain ⟨text, rfl⟩ := valid.kid given present
      exact ⟨text, Json.dumped_str _ _⟩
    · intro value found
      obtain ⟨given, present, rfl⟩ := Option.map_eq_some_iff.mp (crit.symm.trans found)
      obtain ⟨names, rfl, nonempty, listed⟩ := valid.crit given present
      refine ⟨names, Json.dumped_strs sortHeaders names, nonempty, ?_⟩
      intro extension member
      have supported := (listed extension member).1
      refine ⟨supported, ?_⟩
      rw [onlyB64 extension supported, b64]
      exact keeps.resolve_left (by simp [present])

end PyJWS

-----------------------------------------------------------------------------------------
-- Keys and JSON that a round trip needs
-----------------------------------------------------------------------------------------

/-- The handler accepts both keys, and verifies with one what it signed with the other. -/
structure KeyPair (env : Env) (jws : PyJWS) (handler : Algorithm)
    (signKey verifyKey signPrepared verifyPrepared : Key)
    : Prop where
  signPrepares : handler.prepareKey env signKey = .ok signPrepared
  signLength : jws.AcceptsLength handler signPrepared
  verifyPrepares : handler.prepareKey env verifyKey = .ok verifyPrepared
  verifyLength : jws.AcceptsLength handler verifyPrepared
  inverse
    : ∀ msg,
        ∃ signature,
          handler.sign env msg signPrepared = .ok signature
          ∧ handler.verify env msg verifyPrepared signature = .ok true

/-- `json.loads` gives back the object from the bytes of its compact dump. -/
def JsonInverts (env : Env) (object : Dict Json) : Prop :=
  ∃ text data,
    env.json.dumps true object.toJson = .ok text
    ∧ text.encode = some data
    ∧ env.json.loadsBytes data = .ok object.toJson

namespace PyJWS

variable {env : Env} {jws : PyJWS} {name : PyStr} {handler : Algorithm}
  {headers : Option (Dict Json)} {detached sortHeaders : Bool}

/-- With plain headers and a registered name the header is settled, and reads back. -/
theorem settles_plain (registered : jws.algorithms.get? name = some handler)
    (plain : PlainHeaders (headers.getD Dict.empty)) (key : KeyArg)
    (inverts : JsonInverts env
      ((adjustHeader (mergedHeader (.str name) headers) detached).dumped sortHeaders))
    : ∃ data,
        Settles env jws key (.name name) headers detached sortHeaders (.str name) detached
          (adjustHeader (mergedHeader (.str name) headers) detached) data handler
        ∧ ReadsObject env data
          ((adjustHeader (mergedHeader (.str name) headers) detached).dumped
            sortHeaders) := by
  obtain ⟨text, data, dumps, encodes, loads⟩ := inverts
  refine ⟨data, {
    resolved := resolveAlgorithm_plain plain key
    built := buildHeader_plain plain _
    dumped := ?_
    chosen := getAlgorithmByName_str_eq_ok.mpr registered
  }, ?_⟩
  · simp only [dumpHeader, dumps, outcome_ok_bind, encodeStr, encodes]
  · exact ⟨_, loads, Dict.asDict?_toJson _⟩

/-- The dumped header passes the decoder's validation. -/
theorem validateHeaders_plain (plain : PlainHeaders (headers.getD Dict.empty))
    : validateHeaders
          ((adjustHeader (mergedHeader (.str name) headers) detached).dumped sortHeaders)
          false
      = .ok () := by
  have valid : ValidHeaders (headers.getD Dict.empty) := {
    kid := plain.kid
    crit := by simp [plain.crit]
  }
  exact validateHeaders_eq_ok.mpr ((validHeaders_dumped_iff valid).mpr (Or.inl plain.crit))

/-- What the encoded token loads to. -/
def encodedLoaded (data : Bytes) (object : Dict Json) (detached : Bool)
    (payload signature : Bytes)
    : Loaded :=
  {
    payload := if detached then [] else payload
    signingInput := (encodedSegments data detached payload signature).signingInput
    header := object
    signature
  }

/-- The encoded token loads: every segment is the encoding of what is expected of it. -/
theorem loads_encodedSegments {data : Bytes} {object : Dict Json}
    (reads : ReadsObject env data object) (payload signature : Bytes)
    : Loads env (.str (asciiText (encodedSegments data detached payload signature).serialize))
        (encodedSegments data detached payload signature)
        (encodedLoaded data object detached payload signature) where
  token := tokenBytes_encodedSegments data detached payload signature
  signingInput := rfl
  header := ⟨data, base64urlDecode_encode data, reads⟩
  payload := by
    cases detached with
    | true => rfl
    | false => exact base64urlDecode_encode payload
  signature := base64urlDecode_encode signature

/-- The encoded token opens on its payload, over the bytes that were signed: attached, because
the signing input is kept; detached, because the empty middle segment is all that is dropped.
-/
theorem opens_encodedSegments {data : Bytes} {object : Dict Json}
    (reads : ReadsObject env data object) (valid : validateHeaders object false = .ok ())
    (b64 : object.get? "b64" = if detached then some (.bool false) else none)
    (payload signature : Bytes) (other : Option Bytes)
    : Opens env
        (.str (asciiText (encodedSegments data detached payload signature).serialize))
        (if detached then some payload else other)
        (encodedSegments data detached payload signature)
        (encodedLoaded data object detached payload signature) payload
        (signedBytes data detached payload) where
  loads := loads_encodedSegments reads payload signature
  valid := valid
  content := by
    cases detached with
    | true =>
        have rebuilt :=
          ((encodedSegments data true payload signature).rebuilt_eq_iff payload).mpr
            (encodedSegments_payloadClean data true payload signature)
        have split : (encodedLoaded data object true payload signature).signingInput
            = (encodedSegments data true payload signature).signingInput :=
          rfl
        have content := signedContent_detached split b64 payload
        rw [rebuilt] at content
        exact content
    | false =>
        refine signedContent_attached other ?_
        show object.get? "b64" ≠ some (.bool false)
        simp [b64]

/-- Under a registered name, the key pair verifies what it signed. -/
theorem verifies_keyPair (registered : jws.algorithms.get? name = some handler)
    (nonempty : name ≠ "") {signKey verifyKey signPrepared verifyPrepared : Key}
    (keys : KeyPair env jws handler signKey verifyKey signPrepared verifyPrepared)
    {object : Dict Json} (alg : object.get? "alg" = some (.str name))
    {msg signature : Bytes}
    (accepts : handler.verify env msg verifyPrepared signature = .ok true)
    : Verifies env jws msg object signature (.raw verifyKey) (some [name]) (.str name)
        handler verifyPrepared where
  allowed := by
    refine allowedAlg_eq_ok.mpr ⟨alg, ?_, ?_⟩
    · exact decide_eq_true nonempty
    · intro names listed
      cases listed
      exact ⟨name, List.mem_singleton_self name, rfl⟩
  chosen := tryExcept_raise_eq_ok.mpr (getAlgorithmByName_str_eq_ok.mpr registered)
  prepares := keys.verifyPrepares
  length := keys.verifyLength
  accepts := accepts

/-- Whatever is encoded with plain headers under a registered name is decoded back, and with
it the header and the signature. The decoder may be given any options: it verifies or not.
-/
theorem decode_encode (registered : jws.algorithms.get? name = some handler)
    (nonempty : name ≠ "") {signKey verifyKey signPrepared verifyPrepared : Key}
    (keys : KeyPair env jws handler signKey verifyKey signPrepared verifyPrepared)
    (plain : PlainHeaders (headers.getD Dict.empty))
    (inverts : JsonInverts env
      ((adjustHeader (mergedHeader (.str name) headers) detached).dumped sortHeaders))
    (payload : Bytes)
    : ∃ msg signature token,
        (jws.encode env payload (.raw signKey) (.name name) headers detached
            sortHeaders).result
          = .ok token
        ∧ Event.sign handler msg signPrepared
          ∈ (jws.encode env payload (.raw signKey) (.name name) headers detached
              sortHeaders).log
        ∧ handler.sign env msg signPrepared = .ok signature
        ∧ ∀ (options : Option SigOptions) (other : Option Bytes),
          (jws.decodeComplete env (.str token) (.raw verifyKey) (some [name]) options
              (if detached then some payload else other)).result
            = .ok ⟨
              payload,
              (adjustHeader (mergedHeader (.str name) headers) detached).dumped sortHeaders,
              signature
            ⟩ := by
  obtain ⟨data, settles, reads⟩ :=
    settles_plain registered plain (.raw signKey) inverts
  obtain ⟨signature, signs, accepts⟩ := keys.inverse (signedBytes data detached payload)
  have encoded : (jws.encode env payload (.raw signKey) (.name name) headers detached
        sortHeaders).result
      = .ok (asciiText (encodedSegments data detached payload signature).serialize) :=
    encode_eq_ok.mpr ⟨_, _, _, data, handler, signPrepared, signature, settles,
      keys.signPrepares, keys.signLength, signs, rfl⟩
  have called : Event.sign handler (signedBytes data detached payload) signPrepared
      ∈ (jws.encode env payload (.raw signKey) (.name name) headers detached
          sortHeaders).log :=
    mem_encode_log.mpr ⟨_, _, _, data, handler, settles,
      Or.inr ⟨signPrepared, keys.signPrepares, keys.signLength, rfl⟩⟩
  refine ⟨_, signature, _, encoded, called, signs, fun options other => ?_⟩
  have b64 := dumpedHeader_get? name headers detached sortHeaders "b64"
  rw [expectedMember_b64, apply_ite (Option.map _), Option.map_some, Option.map_none,
    Json.dumped_bool] at b64
  have alg := dumpedHeader_get? name headers detached sortHeaders "alg"
  rw [expectedMember_alg, plain.alg, Option.none_or, Option.map_some, Json.dumped_str] at alg
  exact decodeComplete_eq_ok.mpr ⟨_, _, _,
    opens_encodedSegments reads (validateHeaders_plain plain) b64 payload signature other,
    rfl, rfl, fun _ => ⟨Or.inl rfl, _, _, _,
      verifies_keyPair registered nonempty keys alg accepts⟩⟩

end PyJWS

-----------------------------------------------------------------------------------------
-- The round trip
-----------------------------------------------------------------------------------------

variable {env : Env} {jws : PyJWS} {name : PyStr} {handler : Algorithm}
  {headers : Option (Dict Json)} {detached sortHeaders : Bool}

/-- A decode of what was encoded, under the algorithm it was encoded with, returns the payload,
the signature that was made and the expected header.
-/
theorem decodeComplete_encode (registered : jws.algorithms.get? name = some handler)
    (nonempty : name ≠ "") {signKey verifyKey signPrepared verifyPrepared : Key}
    (keys : KeyPair env jws handler signKey verifyKey signPrepared verifyPrepared)
    (plain : PlainHeaders (headers.getD Dict.empty))
    (inverts : JsonInverts env
      ((PyJWS.adjustHeader (PyJWS.mergedHeader (.str name) headers) detached).dumped
        sortHeaders))
    (payload : Bytes)
    : ∃ token msg signature header,
        (jws.encode env payload (.raw signKey) (.name name) headers detached
            sortHeaders).result
          = .ok token
        ∧ Event.sign handler msg signPrepared
          ∈ (jws.encode env payload (.raw signKey) (.name name) headers detached
              sortHeaders).log
        ∧ handler.sign env msg signPrepared = .ok signature
        ∧ (∀ key,
          Option.Rel Json.Same
            (expectedMember name (headers.getD Dict.empty) detached key) (header.get? key))
        ∧ ∀ (options : Option SigOptions) (other : Option Bytes),
          (jws.decodeComplete env (.str token) (.raw verifyKey) (some [name]) options
              (if detached then some payload else other)).result
            = .ok ⟨payload, header, signature⟩ := by
  obtain ⟨msg, signature, token, encoded, called, signs, decoded⟩ :=
    PyJWS.decode_encode registered nonempty keys plain inverts payload
  refine ⟨token, msg, signature, _, encoded, called, signs, fun key => ?_, decoded⟩
  rw [PyJWS.dumpedHeader_get?]
  cases expectedMember name (headers.getD Dict.empty) detached key with
  | none => exact .none
  | some member => exact .some (Json.same_dumped sortHeaders member)

-----------------------------------------------------------------------------------------
-- A detached round trip
-----------------------------------------------------------------------------------------

/-- A value whose JSON text is plain ASCII comes back from the bytes of that text. -/
theorem jsonInverts_withoutCryptography {hmacDigest : HashAlg → (key msg : Bytes) → Bytes}
    {object : Dict Json} (textual : JsonText.textual object.toJson = true)
    (isAscii : (JsonText.write true object.toJson).all (fun char => char.toNat < 0x80) = true)
    : JsonInverts (.withoutCryptography hmacDigest) object := by
  have ascii : ∀ char ∈ JsonText.write true object.toJson, char.toNat < 0x80 :=
    fun char member => of_decide_eq_true (List.all_eq_true.mp isAscii char member)
  have byteOf : ∀ char ∈ JsonText.write true object.toJson,
      (UInt8.ofNat char.toNat).toNat = char.toNat := by
    intro char member
    have small := ascii char member
    simp only [UInt8.toNat_ofNat']
    omega
  have chars : ((JsonText.write true object.toJson).map
        (fun char => UInt8.ofNat char.toNat)).map (fun byte => Char.ofNat byte.toNat)
      = JsonText.write true object.toJson := by
    rw [List.map_map]
    refine (List.map_congr_left (fun char member => ?_)).trans (List.map_id _)
    show Char.ofNat (UInt8.ofNat char.toNat).toNat = char
    rw [byteOf char member, Char.ofNat_toNat]
  have clean : ∀ byte ∈ (JsonText.write true object.toJson).map
      (fun char => UInt8.ofNat char.toNat), byte < 0x80 := by
    intro byte member
    obtain ⟨char, written, rfl⟩ := List.mem_map.mp member
    rw [UInt8.lt_iff_toNat_lt, byteOf char written]
    exact ascii char written
  have spelled : asciiText ((JsonText.write true object.toJson).map
        (fun char => UInt8.ofNat char.toNat))
      = ⟨(JsonText.write true object.toJson).map .scalar⟩ := by
    rw [← congrArg (List.map CodePoint.scalar) chars, List.map_map (g := CodePoint.scalar)]
    rfl
  refine ⟨_, (JsonText.write true object.toJson).map (fun char => UInt8.ofNat char.toNat),
    if_pos textual, spelled ▸ encode_asciiText clean, ?_⟩
  show (if _ then JsonLib.read _ else _) = _
  rw [if_pos (List.all_eq_true.mpr (fun byte member => decide_eq_true (clean byte member))),
    chars, JsonLib.read, JsonText.read_write true textual]

/-- The HMAC-SHA256 of that token's signing input under the key `kk`. -/
def roundTripDigest : Bytes :=
  [
    1, 96, 92, 218, 81, 239, 4, 191, 230, 71, 52, 63, 16, 69, 215, 238, 246, 2, 70, 50, 12,
    113, 223, 172, 119, 206, 239, 204, 150, 96, 71, 107
  ]

def roundTripEnv : Env := .withoutCryptography (fun _ _ _ => roundTripDigest)

def roundTripHeaders : Dict Json := .ofEntries [("kid", .str "k1")]

theorem roundTripHeaders_plain : PlainHeaders roundTripHeaders where
  alg := rfl
  b64 := rfl
  crit := rfl
  kid _ h := ⟨"k1", (Option.some.inj h).symm⟩

/-- The HMAC algorithm prepares the key `kk` as it is. -/
theorem prepareKey_kk {hmacDigest : HashAlg → (key msg : Bytes) → Bytes} (hashAlg : HashAlg)
    : (Algorithm.hmac ⟨hashAlg⟩).prepareKey (.withoutCryptography hmacDigest)
          (.bytes (ascii "kk"))
      = .ok (.bytes (ascii "kk")) := by
  have secret : (isPemFormat pems (ascii "kk") || isSshKey (ascii "kk")) = false := by
    decide
  show HMACAlgorithm.prepareKey (.withoutCryptography hmacDigest) (.bytes (ascii "kk")) = _
  simp only [HMACAlgorithm.prepareKey, Key.asText, forceBytes, outcome_ok_bind,
    Env.withoutCryptography, secret]
  rfl

/-- The HMAC algorithm verifies what it signed, with the short key the library warns of. -/
theorem keyPair_kk {hmacDigest : HashAlg → (key msg : Bytes) → Bytes}
    : KeyPair (.withoutCryptography hmacDigest)
        (PyJWS.init (.withoutCryptography hmacDigest) none none) (.hmac ⟨.sha256⟩)
        (.bytes (ascii "kk")) (.bytes (ascii "kk")) (.bytes (ascii "kk"))
        (.bytes (ascii "kk")) where
  signPrepares := prepareKey_kk .sha256
  signLength := ⟨_, rfl, Or.inr rfl⟩
  verifyPrepares := prepareKey_kk .sha256
  verifyLength := ⟨_, rfl, Or.inr rfl⟩
  inverse msg := ⟨hmacDigest .sha256 (ascii "kk") msg, rfl,
    congrArg Except.ok (decide_eq_true rfl)⟩

theorem roundTripHeaders_inverts
    : JsonInverts roundTripEnv
        ((PyJWS.adjustHeader (PyJWS.mergedHeader (.str "HS256") (some roundTripHeaders))
          true).dumped false) :=
  jsonInverts_withoutCryptography (by decide) (by decide)

/-- A payload with a separator in it comes back detached. -/
theorem decodeComplete_encode_detached
    : ∃ token msg signature header,
        ((PyJWS.init roundTripEnv none none).encode roundTripEnv (ascii "a.b")
            (.raw (.bytes (ascii "kk"))) (.name "HS256") (some roundTripHeaders) true
            false).result
          = .ok token
        ∧ Event.sign (.hmac ⟨.sha256⟩) msg (.bytes (ascii "kk"))
          ∈ ((PyJWS.init roundTripEnv none none).encode roundTripEnv (ascii "a.b")
              (.raw (.bytes (ascii "kk"))) (.name "HS256") (some roundTripHeaders) true
              false).log
        ∧ (∀ key,
          Option.Rel Json.Same (expectedMember "HS256" roundTripHeaders true key)
            (header.get? key))
        ∧ ((PyJWS.init roundTripEnv none none).decodeComplete roundTripEnv (.str token)
              (.raw (.bytes (ascii "kk"))) (some ["HS256"]) none
              (some (ascii "a.b"))).result
            = .ok ⟨ascii "a.b", header, signature⟩ := by
  have registered : (PyJWS.init roundTripEnv none none).algorithms.get? "HS256"
      = some (.hmac ⟨.sha256⟩) :=
    rfl
  have plain : PlainHeaders ((some roundTripHeaders).getD Dict.empty) := roundTripHeaders_plain
  obtain ⟨token, msg, signature, header, encoded, called, _, members, decoded⟩ :=
    decodeComplete_encode registered (by decide) keyPair_kk plain roundTripHeaders_inverts
      (ascii "a.b")
  exact ⟨token, msg, signature, header, encoded, called, members, decoded none none⟩

end PyJwt
