import PyJwt.Correctness.DecodeStages
import PyJwt.Correctness.Registry

/-! Verified decoding is sound: what a verifying decode returns was signed, byte for byte,
under a registered algorithm that the caller listed.
-/

namespace PyJwt

open Foundations
open Python

/-- The `verify_signature` in force: the call's, else the constructor's, else true. -/
def effectiveSignature (constructor call : Option Bool) : Bool :=
  (call.or constructor).getD true

/-- The token vouches for what was returned: the caller listed the algorithm the header
states, its registered handler accepted the key and the token's own signature over the
token's own bytes, and what was returned is what those bytes decode to.
-/
structure Authenticates (env : Env) (jws : PyJWS) (jwt : TextArg) (key : Key)
    (algorithms : Option (List PyStr)) (log : List Event) (payload : Bytes)
    (header : Dict Json) (signature : Bytes) (segments : Segments) (name : PyStr)
    (handler : Algorithm) (prepared : Key)
    : Prop where
  token : PyJWS.tokenBytes jwt = .ok segments.serialize
  listed : ∃ names, algorithms = some names ∧ name ∈ names
  stated : header.get? "alg" = some (.str name)
  registered : jws.algorithms.get? name = some handler
  signs : handler ≠ .none
  prepares : handler.prepareKey env key = .ok prepared
  accepts : handler.verify env segments.signingInput prepared signature = .ok true
  called : Event.verify handler segments.signingInput prepared signature ∈ log
  header
    : ∃ data,
        base64urlDecode (.bytes segments.header) = .ok data
        ∧ PyJWS.ReadsObject env data header
  payload : base64urlDecode (.bytes segments.payload) = .ok payload
  signature : base64urlDecode (.bytes segments.crypto) = .ok signature

variable {env : Env} {jws : PyJWS} {jwt : TextArg} {key : Key}
  {algorithms : Option (List PyStr)} {detachedPayload : Option Bytes}

/-- Only listed names reach a verification by a key that brings no algorithm. -/
theorem listed_of_verifies {signingInput signature : Bytes} {header : Dict Json} {alg : Json}
    {algObj : Algorithm} {prepared : Key}
    (named : PyJWS.NamesAlgorithms (.raw key) algorithms)
    (h : PyJWS.Verifies env jws signingInput header signature (.raw key) algorithms alg algObj
      prepared)
    : ∃ names name,
        algorithms = some names
        ∧ name ∈ names
        ∧ header.get? "alg" = some (.str name)
        ∧ jws.algorithms.get? name = some algObj := by
  cases algorithms with
  | none => simp [PyJWS.NamesAlgorithms, listsAlgorithms, KeyArg.isJwk] at named
  | some names =>
      obtain ⟨stated, _, listed⟩ := PyJWS.allowedAlg_eq_ok.mp h.allowed
      obtain ⟨name, member, rfl⟩ := listed names rfl
      have chosen := h.chosen
      simp only [PyJWS.verifyingAlgorithm, tryExcept_raise_eq_ok] at chosen
      exact ⟨names, name, rfl, member, stated,
        PyJWS.getAlgorithmByName_str_eq_ok.mp chosen⟩

/-- `NoneAlgorithm` accepts no signature. -/
theorem ne_none_of_verify {algObj : Algorithm} {msg sig : Bytes} {prepared : Key}
    (h : algObj.verify env msg prepared sig = .ok true)
    : algObj ≠ .none := by
  rintro rfl
  cases h

/-- The signature layer authenticates what it returns, unless the payload is detached. -/
theorem decodeComplete_authenticates {options : Option SigOptions} {decoded : PyJWS.Decoded}
    (verifying : (jws.options.merge options).verifySignature = true)
    (returned : (jws.decodeComplete env jwt (.raw key) algorithms options
        detachedPayload).result
      = .ok decoded)
    (attached : decoded.header.get? "b64" ≠ some (.bool false))
    : ∃ segments name handler prepared,
        Authenticates env jws jwt key algorithms
          (jws.decodeComplete env jwt (.raw key) algorithms options detachedPayload).log
          decoded.payload decoded.header decoded.signature segments name handler prepared := by
  obtain ⟨segments, loaded, signingInput, opens, header, signature, verified⟩ :=
    PyJWS.decodeComplete_eq_ok.mp returned
  obtain ⟨named, alg, algObj, prepared, verifies⟩ := verified verifying
  obtain ⟨names, name, given, member, stated, registered⟩ := listed_of_verifies named verifies
  have content := PyJWS.signedContent_attached detachedPayload (header ▸ attached)
  rw [opens.content] at content
  have same := Prod.mk.inj (Except.ok.inj content)
  have signed : signingInput = segments.signingInput :=
    same.2.trans opens.loads.signingInput
  have called : Event.verify algObj signingInput prepared loaded.signature
      ∈ (jws.verifySignature env signingInput loaded.header loaded.signature (.raw key)
          algorithms).log :=
    PyJWS.mem_verifySignature_log.mpr ⟨alg, algObj, verifies.allowed, verifies.chosen,
      Or.inr ⟨prepared, verifies.prepares, verifies.length, rfl⟩⟩
  refine ⟨segments, name, algObj, prepared, {
    token := opens.loads.token
    listed := ⟨names, given, member⟩
    stated := header ▸ stated
    registered
    signs := ne_none_of_verify verifies.accepts
    prepares := verifies.prepares
    accepts := ?_
    called := ?_
    header := header ▸ opens.loads.header
    payload := ?_
    signature := signature ▸ opens.loads.signature
  }⟩
  · rw [signature, ← signed]
    exact verifies.accepts
  · rw [signature, ← signed]
    exact PyJWS.mem_decodeComplete_log.mpr ⟨verifying, named, segments, loaded,
      decoded.payload, signingInput, opens, called⟩
  · rw [same.1]
    exact opens.loads.payload

/-- The flag of the signature layer is the one in force. -/
theorem merge_default_verifySignature (constructed options : Option SigOptions)
    : ((PyJWS.getDefaultOptions.merge constructed).merge options).verifySignature
      = effectiveSignature (constructed.bind (·.verifySignature))
          (options.bind (·.verifySignature)) := by
  cases options with
  | none => cases constructed <;> rfl
  | some options =>
      cases constructed with
      | none => cases given : options.verifySignature <;>
          simp [FullSigOptions.merge, effectiveSignature, PyJWS.getDefaultOptions, given]
      | some constructed => cases given : options.verifySignature <;>
          simp [FullSigOptions.merge, effectiveSignature, PyJWS.getDefaultOptions, given]

/-- A decode of claims verifies wherever the flag in force is true. -/
theorem signatureFlag_of_effective {constructor : Option Bool} {options : Option Options}
    (h : effectiveSignature constructor (options.bind (·.verifySignature)) = true)
    : PyJWT.signatureFlag options = true := by
  cases options with
  | none => rfl
  | some options =>
      cases given : options.verifySignature with
      | none => simp [PyJWT.signatureFlag, given]
      | some flag => simpa [PyJWT.signatureFlag, effectiveSignature, given] using h

/-- Whatever the registry and the options, a verifying decode returns only what a listed and
registered algorithm accepted the signature of, for both layers.
-/
theorem decodeComplete_sound {names : Option (List PyStr)} {constructed : Option SigOptions}
    (reached : jws.Reachable env names constructed) (jwt : TextArg) (key : Key)
    (algorithms : Option (List PyStr)) (detachedPayload : Option Bytes)
    : (∀ (options : Option SigOptions) (decoded : PyJWS.Decoded),
        effectiveSignature (constructed.bind (·.verifySignature))
            (options.bind (·.verifySignature))
          = true
        → (jws.decodeComplete env jwt (.raw key) algorithms options detachedPayload).result
          = .ok decoded
        → decoded.header.get? "b64" ≠ some (.bool false)
        → ∃ segments name handler prepared,
            Authenticates env jws jwt key algorithms
              (jws.decodeComplete env jwt (.raw key) algorithms options detachedPayload).log
              decoded.payload decoded.header decoded.signature segments name handler
              prepared)
      ∧ ∀ (claimOptions options : Option Options) (expected : PyJWT.Expected) (now : Rat)
          (decoded : PyJWT.Decoded),
          effectiveSignature (claimOptions.bind (·.verifySignature))
              (options.bind (·.verifySignature))
            = true
          → (((PyJWT.init env claimOptions).withJws jws).decodeComplete env jwt (.raw key)
              algorithms options detachedPayload expected now).result
            = .ok decoded
          → decoded.header.get? "b64" ≠ some (.bool false)
          → ∃ payload segments name handler prepared,
              Authenticates env jws jwt key algorithms
                (((PyJWT.init env claimOptions).withJws jws).decodeComplete env jwt
                  (.raw key) algorithms options detachedPayload expected now).log
                payload decoded.header decoded.signature segments name handler prepared
              ∧ PyJWS.ReadsObject env payload decoded.payload := by
  constructor
  · intro options decoded effective returned attached
    refine decodeComplete_authenticates ?_ returned attached
    rw [reached.options_eq, merge_default_verifySignature]
    exact effective
  · intro claimOptions options expected now decoded effective returned attached
    obtain ⟨inner, opened, reads, _, header, signature⟩ :=
      PyJWT.decodeComplete_eq_ok.mp returned
    have verifying : (jws.options.merge (some (PyJWT.callSigOptions options))).verifySignature
        = true :=
      signatureFlag_of_effective effective
    obtain ⟨segments, name, handler, prepared, authenticates⟩ :=
      decodeComplete_authenticates verifying opened (header ▸ attached)
    refine ⟨inner.payload, segments, name, handler, prepared, ?_, reads⟩
    rw [PyJWT.decodeComplete_log, header, signature]
    exact authenticates

-----------------------------------------------------------------------------------------
-- A token that verifies
-----------------------------------------------------------------------------------------

/-- `{"alg":"HS256"}` over `{}`, signed with the two bytes `kk`. -/
def signedToken : Bytes :=
  ascii "eyJhbGciOiJIUzI1NiJ9.e30.a1UISXLCG8J29aZsHVhjdFGnOYcs9Ma_2_3x7aQU9W4"

/-- The digest of that token's signing input. -/
def signedDigest : Bytes :=
  [
    107, 85, 8, 73, 114, 194, 27, 194, 118, 245, 166, 108, 29, 88, 99, 116, 81, 167, 57,
    135, 44, 244, 198, 191, 219, 253, 241, 237, 164, 20, 245, 110
  ]

/-- A process without `cryptography`, in which `hmac` yields that digest. -/
def digestEnv : Env := .withoutCryptography (fun _ _ _ => signedDigest)

/-- The header does not ask for a detached payload. -/
def isAttached (header : Dict Json) : Bool :=
  !((header.get? "b64").getD (.bool true)).isFalse

theorem ne_false_of_isAttached {header : Dict Json} (h : isAttached header = true)
    : header.get? "b64" ≠ some (.bool false) := by
  intro detached
  simp [isAttached, detached, Json.isFalse] at h

/-- Both layers return a signed token, and so authenticate it. -/
theorem decodeComplete_sound_signedToken
    : (∃ (decoded : PyJWS.Decoded) (segments : Segments) (name : PyStr)
          (handler : Algorithm) (prepared : Key),
        Authenticates digestEnv (PyJWS.init digestEnv none none) (.bytes signedToken)
          (.bytes (ascii "kk")) (some ["HS256"])
          ((PyJWS.init digestEnv none none).decodeComplete digestEnv (.bytes signedToken)
            (.raw (.bytes (ascii "kk"))) (some ["HS256"]) none none).log
          decoded.payload decoded.header decoded.signature segments name handler prepared)
      ∧ ∃ (decoded : PyJWT.Decoded) (payload : Bytes) (segments : Segments) (name : PyStr)
          (handler : Algorithm) (prepared : Key),
          Authenticates digestEnv (PyJWS.init digestEnv none none) (.bytes signedToken)
            (.bytes (ascii "kk")) (some ["HS256"])
            (((PyJWT.init digestEnv none).withJws
                (PyJWS.init digestEnv none none)).decodeComplete digestEnv
              (.bytes signedToken) (.raw (.bytes (ascii "kk"))) (some ["HS256"]) none none
              ⟨.none, .none, none, .seconds 0⟩ 0).log
            payload decoded.header decoded.signature segments name handler prepared
          ∧ PyJWS.ReadsObject digestEnv payload decoded.payload := by
  have sound := decodeComplete_sound (.init : (PyJWS.init digestEnv none none).Reachable
    digestEnv none none) (.bytes signedToken) (.bytes (ascii "kk")) (some ["HS256"]) none
  obtain ⟨inner, returned, attached⟩ := of_returnsWith
    (by decide +kernel : returnsWith (fun decoded => isAttached decoded.header)
      ((PyJWS.init digestEnv none none).decodeComplete digestEnv (.bytes signedToken)
        (.raw (.bytes (ascii "kk"))) (some ["HS256"]) none none).result = true)
  obtain ⟨decoded, returned', attached'⟩ := of_returnsWith
    (by decide +kernel : returnsWith (fun decoded => isAttached decoded.header)
      (((PyJWT.init digestEnv none).withJws (PyJWS.init digestEnv none none)).decodeComplete
        digestEnv (.bytes signedToken) (.raw (.bytes (ascii "kk"))) (some ["HS256"]) none
        none ⟨.none, .none, none, .seconds 0⟩ 0).result = true)
  exact ⟨⟨inner, sound.1 none inner rfl returned (ne_false_of_isAttached attached)⟩,
    ⟨decoded, sound.2 none none ⟨.none, .none, none, .seconds 0⟩ 0 decoded rfl returned'
      (ne_false_of_isAttached attached')⟩⟩

end PyJwt
