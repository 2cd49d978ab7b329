import PyJwt.Correctness.JwtRoundTrip
import PyJwt.Implementation.PayloadMethods

/-! Classes with their own way to write claims. A payload goes through a verifying decode only
under a signature that was accepted, whatever the class makes of it, and comes back where the
class reads what it writes.
-/

namespace PyJwt

open Foundations
open Python

variable {env : Env}

namespace PyJWTSubclass

variable {self : PyJWTSubclass} {jwt : TextArg} {key : KeyArg} {algorithms : Option (List PyStr)}
  {options : Option Options} {detachedPayload : Option Bytes} {expected : PyJWT.Expected}
  {now : Rat}

-----------------------------------------------------------------------------------------
-- The class itself
-----------------------------------------------------------------------------------------

/-- Without overriding, the methods are those of `PyJWT`. -/
theorem encode_asSubclass (jwt : PyJWT)
    : (jwt.asSubclass env).encode env = jwt.encode env :=
  rfl

theorem decode_asSubclass (jwt : PyJWT)
    : (jwt.asSubclass env).decode env = jwt.decode env :=
  rfl

-----------------------------------------------------------------------------------------
-- Decoding
-----------------------------------------------------------------------------------------

/-- The call verifies a signature of the token over what it returns. -/
def Verified (env : Env) (jws : PyJWS) (jwt : TextArg) (key : KeyArg)
    (algorithms : Option (List PyStr)) (detachedPayload : Option Bytes)
    (decoded : PyJWS.Decoded)
    : Prop :=
  ∃ segments loaded signingInput alg algObj prepared,
    PyJWS.Opens env jwt detachedPayload segments loaded decoded.payload signingInput
    ∧ decoded.header = loaded.header
    ∧ decoded.signature = loaded.signature
    ∧ PyJWS.Verifies env jws signingInput loaded.header loaded.signature key algorithms alg
        algObj prepared

/-- Claims are returned exactly when the class reads them from what the signature layer
returned, and they pass the validation.
-/
theorem decode_eq_ok {claims : Dict Json}
    : (self.decode env jwt key algorithms options detachedPayload expected now).result
        = .ok claims
      ↔ ∃ inner,
          (self.base.jws.decodeComplete env jwt key algorithms
              (some (PyJWT.callSigOptions options)) detachedPayload).result
            = .ok inner
          ∧ self.decodePayload inner = .ok claims
          ∧ PyJWT.validateClaims env claims (PyJWT.mergeOptions self.base.options options)
              expected now
            = .ok () := by
  simp only [decode, decodeComplete, Traced.liftM_eq_ofExcept, Traced.bind_result_eq_ok,
    Traced.ofExcept_result, Traced.pure_result, Except.ok.injEq]
  constructor
  · intro h
    obtain ⟨decoded, ⟨inner, opened, payload, reads, ⟨⟩, valid, rfl⟩, rfl⟩ := h
    exact ⟨inner, opened, reads, valid⟩
  · intro h
    obtain ⟨inner, opened, reads, valid⟩ := h
    exact ⟨_, ⟨inner, opened, claims, reads, (), valid, rfl⟩, rfl⟩

/-- A token whose content the class reads as claims is decoded to the verdict on those claims. -/
theorem decode_of_inner {inner : PyJWS.Decoded} {claims : Dict Json}
    (opened : (self.base.jws.decodeComplete env jwt key algorithms
        (some (PyJWT.callSigOptions options)) detachedPayload).result
      = .ok inner)
    (reads : self.decodePayload inner = .ok claims) (expected : PyJWT.Expected) (now : Rat)
    : (self.decode env jwt key algorithms options detachedPayload expected now).result
      = (PyJWT.validateClaims env claims (PyJWT.mergeOptions self.base.options options) expected
          now).map (fun _ => claims) := by
  cases verdict : PyJWT.validateClaims env claims
      (PyJWT.mergeOptions self.base.options options) expected now with
  | ok accepted => exact decode_eq_ok.mpr ⟨inner, opened, reads, verdict⟩
  | error error =>
      simp only [decode, decodeComplete, Traced.liftM_eq_ofExcept, Except.map,
        Traced.bind_result_eq_error]
      exact Or.inl (Or.inr ⟨inner, opened, Or.inr ⟨claims, reads, Or.inl verdict⟩⟩)

/-- What a verifying call of the signature layer returns is verified. -/
theorem verified_of_decodeComplete {inner : PyJWS.Decoded}
    (verifying : PyJWT.signatureFlag options = true)
    (opened : (self.base.jws.decodeComplete env jwt key algorithms
        (some (PyJWT.callSigOptions options)) detachedPayload).result
      = .ok inner)
    : Verified env self.base.jws jwt key algorithms detachedPayload inner := by
  obtain ⟨segments, loaded, signingInput, opens, header, signature, verified⟩ :=
    PyJWS.decodeComplete_eq_ok.mp opened
  obtain ⟨_, alg, algObj, prepared, verifies⟩ := verified verifying
  exact ⟨segments, loaded, signingInput, alg, algObj, prepared, opens, header, signature,
    verifies⟩

/-- A verifying decode reads only a payload with a verified signature: what it returns the class
read from one, and a class that differs on no such payload decodes alike, whatever it does with
other bytes.
-/
theorem decode_reads_verified (env : Env) (self : PyJWTSubclass) (jwt : TextArg) (key : KeyArg)
    (algorithms : Option (List PyStr)) (options : Option Options)
    (detachedPayload : Option Bytes) (expected : PyJWT.Expected) (now : Rat)
    (verifying : PyJWT.signatureFlag options = true)
    : (∀ claims,
        (self.decode env jwt key algorithms options detachedPayload expected now).result
          = .ok claims
        → ∃ decoded,
            Verified env self.base.jws jwt key algorithms detachedPayload decoded
            ∧ self.decodePayload decoded = .ok claims)
      ∧ ∀ differently : PyJWTSubclass,
          differently.base = self.base
          → (∀ decoded,
              Verified env self.base.jws jwt key algorithms detachedPayload decoded
              → differently.decodePayload decoded = self.decodePayload decoded)
          → differently.decode env jwt key algorithms options detachedPayload expected now
            = self.decode env jwt key algorithms options detachedPayload expected now := by
  constructor
  · intro claims returned
    obtain ⟨inner, opened, reads, _⟩ := decode_eq_ok.mp returned
    exact ⟨inner, verified_of_decodeComplete verifying opened, reads⟩
  · intro differently sameBase agree
    have same : differently.decodeComplete env jwt key algorithms options detachedPayload
          expected now
        = self.decodeComplete env jwt key algorithms options detachedPayload expected now := by
      unfold decodeComplete
      rw [sameBase]
      refine Traced.bind_congr_of_result (fun inner opened => ?_)
      rw [agree inner (verified_of_decodeComplete verifying opened)]
    unfold decode
    rw [same]

/-- No payload is verified where the call raises, though it names algorithms. -/
theorem not_verified_of_raises {error : PyError} (named : PyJWS.NamesAlgorithms key algorithms)
    (raises : (self.base.jws.decodeComplete env jwt key algorithms
        (some (PyJWT.callSigOptions options)) detachedPayload).result
      = .error error)
    (decoded : PyJWS.Decoded)
    : ¬Verified env self.base.jws jwt key algorithms detachedPayload decoded := by
  intro verified
  obtain ⟨segments, loaded, signingInput, alg, algObj, prepared, opens, header, signature,
    verifies⟩ := verified
  have returns : (self.base.jws.decodeComplete env jwt key algorithms
        (some (PyJWT.callSigOptions options)) detachedPayload).result
      = .ok decoded :=
    PyJWS.decodeComplete_eq_ok.mpr ⟨segments, loaded, signingInput, opens, header, signature,
      fun _ => ⟨named, alg, algObj, prepared, verifies⟩⟩
  cases raises.symm.trans returns

/-- A class that reads nothing: it raises whatever it is given. -/
def failing : PyJWTSubclass :=
  {
    (PyJWT.init claimsEnv none).asSubclass claimsEnv with
    decodePayload := fun _ => .error ⟨.runtimeError, []⟩
  }

/-- `{"alg":"HS256"}`, `}{` and a zero byte. -/
def zeroSigned : Bytes := ascii "eyJhbGciOiJIUzI1NiJ9.fXs.AA"

/-- The signature is refused, with the same error, before either class looks at the payload. -/
theorem decode_reads_verified_refused
    : failing.decode claimsEnv (.bytes zeroSigned) (.raw (.bytes (ascii "kk"))) (some ["HS256"])
          none none ⟨.none, .none, none, .seconds 0⟩ 0
        = (PyJWT.init claimsEnv none).decode claimsEnv (.bytes zeroSigned)
            (.raw (.bytes (ascii "kk"))) (some ["HS256"]) none none
            ⟨.none, .none, none, .seconds 0⟩ 0 := by
  obtain ⟨error, raises, _⟩ := of_raisesWith
    (by decide +kernel : raisesWith (fun error => error.cls = .invalidSignatureError)
      ((PyJWT.init claimsEnv none).jws.decodeComplete claimsEnv (.bytes zeroSigned)
        (.raw (.bytes (ascii "kk"))) (some ["HS256"]) (some (PyJWT.callSigOptions none))
        none).result = true)
  have unverified := @not_verified_of_raises claimsEnv
    ((PyJWT.init claimsEnv none).asSubclass claimsEnv) (.bytes zeroSigned)
    (.raw (.bytes (ascii "kk"))) (some ["HS256"]) none none error (Or.inl rfl) raises
  exact (decode_reads_verified claimsEnv ((PyJWT.init claimsEnv none).asSubclass claimsEnv)
    (.bytes zeroSigned) (.raw (.bytes (ascii "kk"))) (some ["HS256"]) none none
    ⟨.none, .none, none, .seconds 0⟩ 0 rfl).2 failing rfl
    (fun decoded verified => absurd verified (unverified decoded))

-----------------------------------------------------------------------------------------
-- The round trip
-----------------------------------------------------------------------------------------

variable {heap : PyJWT.DictHeap} {ref : Nat} {claims : Dict PyJWT.ClaimValue} {name : PyStr}
  {handler : Algorithm} {headers : Option (Dict Json)} {sortHeaders : Bool}

/-- What an encode signs is what the class writes of the normal claims. -/
theorem encode_eq (given : heap[ref]? = some claims) (shape : ClaimsShape claims)
    (range : TimesInRange claims.entries) {data : Bytes}
    (writes : self.encodePayload (claims.mapValues (fun value => .json value.normalized)) headers
      = .ok data) (key : KeyArg) (algorithm : AlgorithmArg) (sortHeaders : Bool)
    : (self.encode env heap (some ref) key algorithm headers sortHeaders).2
      = self.base.jws.encode env data key algorithm headers false sortHeaders := by
  simp only [encode, PyJWT.preparePayloadClaims_eq given shape range, writes,
    Traced.liftM_eq_ofExcept, Traced.ofExcept_ok_bind]

/-- Whatever a class writes of the claims and reads back from its own bytes, its decode returns
of its encode's token where the validation accepts it, and raises where it rejects it.
-/
theorem decode_encode_payload (registered : self.base.jws.algorithms.get? name = some handler)
    (nonempty : name ≠ "") {signKey verifyKey signPrepared verifyPrepared : Key}
    (keys : KeyPair env self.base.jws handler signKey verifyKey signPrepared verifyPrepared)
    (plain : PlainHeaders (headers.getD Dict.empty))
    (headerInverts : JsonInverts env
      ((PyJWS.adjustHeader (PyJWS.mergedHeader (.str name) headers) false).dumped sortHeaders))
    (given : heap[ref]? = some claims) (shape : ClaimsShape claims)
    (range : TimesInRange claims.entries) {data : Bytes} {content : Dict Json}
    (writes : self.encodePayload (claims.mapValues (fun value => .json value.normalized)) headers
      = .ok data)
    (reads : ∀ decoded : PyJWS.Decoded,
      decoded.payload = data → self.decodePayload decoded = .ok content)
    : ∃ token,
        (self.encode env heap (some ref) (.raw signKey) (.name name) headers
            sortHeaders).2.result
          = .ok token
        ∧ ∀ (options : Option Options) (detachedPayload : Option Bytes)
            (expected : PyJWT.Expected) (now : Rat),
          (self.decode env (.str token) (.raw verifyKey) (some [name]) options detachedPayload
              expected now).result
            = (PyJWT.validateClaims env content
                (PyJWT.mergeOptions self.base.options options) expected now).map
                  (fun _ => content) := by
  obtain ⟨msg, signature, token, encoded, _, _, decoded⟩ :=
    PyJWS.decode_encode registered nonempty keys plain headerInverts data
  refine ⟨token, ?_, ?_⟩
  · rw [encode_eq given shape range writes]
    exact encoded
  · intro options detachedPayload expected now
    have opened := decoded (some (PyJWT.callSigOptions options)) detachedPayload
    rw [if_neg Bool.false_ne_true] at opened
    exact decode_of_inner opened (reads _ rfl) expected now

-----------------------------------------------------------------------------------------
-- Classes that pack their payloads
-----------------------------------------------------------------------------------------

/-- A class that packs the JSON text of the claims, as one that compresses does. -/
def packing (env : Env) (jwt : PyJWT) (pack unpack : Bytes → Outcome Bytes) : PyJWTSubclass where
  base := jwt
  encodePayload payload _ := PyJWT.encodePayload env payload >>= pack
  decodePayload decoded :=
    unpack decoded.payload >>= (fun data => PyJWS.loadObject env data "payload")

/-- The JSON text of the normal claims. -/
theorem encodePayload_normal {text : PyStr} {data : Bytes}
    (dumps : env.json.dumps true (normalClaims claims).toJson = .ok text)
    (encodes : text.encode = some data)
    : PyJWT.encodePayload env (claims.mapValues (fun value => .json value.normalized))
      = .ok data := by
  have dumped : env.json.dumps true (.dict (claims.entries.map
        (fun entry => (entry.1, entry.2.normalized))))
      = .ok text :=
    dumps
  simp only [PyJWT.encodePayload, Dict.mapValues, PyJWT.claimEntries_json, outcome_ok_bind,
    dumped, encodeStr, encodes]

/-- A class that unpacks what it packs reads the claims that it writes. -/
theorem packing_inverts {jwt : PyJWT} {pack unpack : Bytes → Outcome Bytes}
    (inverts : JsonInverts env (normalClaims claims))
    (packs : ∀ data, ∃ packed, pack data = .ok packed ∧ unpack packed = .ok data)
    (headers : Option (Dict Json))
    : ∃ packed,
        (packing env jwt pack unpack).encodePayload
            (claims.mapValues (fun value => .json value.normalized)) headers
          = .ok packed
        ∧ ∀ decoded : PyJWS.Decoded,
            decoded.payload = packed
            → (packing env jwt pack unpack).decodePayload decoded
              = .ok (normalClaims claims) := by
  obtain ⟨text, data, dumps, encodes, loads⟩ := inverts
  obtain ⟨packed, isPacked, unpacks⟩ := packs data
  refine ⟨packed, ?_, ?_⟩
  · simp only [packing, encodePayload_normal dumps encodes, outcome_ok_bind, isPacked]
  · intro decoded isPayload
    simp only [packing, isPayload, unpacks, outcome_ok_bind]
    exact PyJWS.loadObject_eq_ok.mpr ⟨_, loads, Dict.asDict?_toJson _⟩

/-- A class that reverses its payloads. -/
def reversing : PyJWTSubclass :=
  packing claimsEnv (PyJWT.init claimsEnv none) (fun data => .ok data.reverse)
    (fun data => .ok data.reverse)

theorem reversing_inverts
    : ∃ packed,
        reversing.encodePayload
            (roundTripClaims.mapValues (fun value => .json value.normalized)) none
          = .ok packed
        ∧ ∀ decoded : PyJWS.Decoded,
            decoded.payload = packed
            → reversing.decodePayload decoded = .ok (normalClaims roundTripClaims) := by
  have inverts : JsonInverts claimsEnv (normalClaims roundTripClaims) :=
    jsonInverts_withoutCryptography (by decide +kernel) (by decide +kernel)
  refine packing_inverts inverts ?_ none
  intro data
  refine ⟨data.reverse, rfl, ?_⟩
  rw [List.reverse_reverse]

/-- Claims go through the class and back: a second before their expiry they are returned. -/
theorem decode_encode_payload_reversing
    : ∃ token,
        (reversing.encode claimsEnv [roundTripClaims] (some 0) (.raw (.bytes (ascii "kk")))
            (.name "HS256") none true).2.result
          = .ok token
        ∧ (reversing.decode claimsEnv (.str token) (.raw (.bytes (ascii "kk")))
              (some ["HS256"]) none none ⟨.none, .none, none, .seconds 0⟩ 3599).result
          = .ok (normalClaims roundTripClaims) := by
  have registered : reversing.base.jws.algorithms.get? "HS256" = some (.hmac ⟨.sha256⟩) := rfl
  have given : ([roundTripClaims] : PyJWT.DictHeap)[0]? = some roundTripClaims := rfl
  obtain ⟨packed, writes, reads⟩ := reversing_inverts
  obtain ⟨token, encoded, decoded⟩ :=
    decode_encode_payload registered (by decide) keyPair_kk emptyHeaders_plain
      bareHeader_inverts given roundTripClaims_shape roundTripClaims_inRange writes reads
  obtain ⟨⟨⟩, accepted, _⟩ := of_returnsWith
    (by decide +kernel : returnsWith (fun _ => true)
      (PyJWT.validateClaims claimsEnv (normalClaims roundTripClaims)
        (PyJWT.mergeOptions reversing.base.options none)
        ⟨.none, .none, none, .seconds 0⟩ 3599) = true)
  refine ⟨token, encoded, (decoded none none ⟨.none, .none, none, .seconds 0⟩ 3599).trans ?_⟩
  exact congrArg (Except.map (fun _ => normalClaims roundTripClaims)) accepted

end PyJWTSubclass

end PyJwt
