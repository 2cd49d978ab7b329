import PyJwt.Correctness.JwsRoundTrip
import PyJwt.Implementation.JwksClient

/-! No token with an unmet critical extension gets through. Every way into the library loads
the header and validates it before it looks at a signature or for a key.
-/

namespace PyJwt

open Foundations
open Python

/-- The token's first segment is the JSON text of the header. -/
def StatesHeader (env : Env) (jwt : TextArg) (header : Dict Json) : Prop :=
  ∃ (segments : Segments) (data : Bytes),
    PyJWS.tokenBytes jwt = .ok segments.serialize
    ∧ base64urlDecode (.bytes segments.header) = .ok data
    ∧ PyJWS.ReadsObject env data header

/-- A call returns only if the condition is met. Otherwise it raises `InvalidTokenError` and
has done nothing before.
-/
structure Guarded {α ω : Type} (met : Prop) (log : List ω) (result : Outcome α) : Prop where
  returns : ∀ value, result = .ok value → met
  refuses
    : ¬met → log = [] ∧ ∃ error, result = .error error ∧ error.isA .invalidTokenError = true

/-- It is enough that an unmet condition leaves the log empty and only such errors. -/
theorem Guarded.of_fails {α ω : Type} {met : Prop} {log : List ω} {result : Outcome α}
    (returns : ∀ value, result = .ok value → met) (silent : ¬met → log = [])
    (fails : ¬met → FailsWith (fun error => error.isA .invalidTokenError = true) result)
    : Guarded met log result := by
  refine ⟨returns, fun unmet => ⟨silent unmet, ?_⟩⟩
  cases outcome : result with
  | ok value => exact absurd (returns value outcome) unmet
  | error error => exact ⟨error, rfl, fails unmet error outcome⟩

/-- What follows a guarded stage is guarded by it: it is reached only when the condition is met.
-/
theorem Guarded.bind {α β : Type} {met : Prop} {first : Run α}
    (h : Guarded met first.log first.result) (next : α → Run β)
    : Guarded met (first >>= next).log (first >>= next).result := by
  refine ⟨fun value returned => ?_, fun unmet => ?_⟩
  · obtain ⟨middle, early, _⟩ := Traced.bind_result_eq_ok.mp returned
    exact h.returns middle early
  · obtain ⟨silent, error, raised, isInvalid⟩ := h.refuses unmet
    rw [Traced.bind_of_error raised]
    exact ⟨silent, error, rfl, isInvalid⟩

variable {env : Env} {jwt : TextArg} {header : Dict Json} {crit : Json}

theorem invalidToken_of_decodeError (error : PyError) (h : error.cls = .decodeError)
    : error.isA .invalidTokenError = true := by
  rw [PyError.isA, h]
  rfl

namespace PyJWS

/-- Whatever the token loads to has the stated header. -/
theorem header_of_load {loaded : Loaded} (states : StatesHeader env jwt header)
    (loads : load env jwt = .ok loaded)
    : loaded.header = header := by
  obtain ⟨segments, data, token, decodes, value, reads, isObject⟩ := states
  obtain ⟨segments', h⟩ := load_eq_ok_iff.mp loads
  obtain rfl := Segments.serialize_injective (Except.ok.inj (token.symm.trans h.token))
  obtain ⟨data', decodes', value', reads', isObject'⟩ := h.header
  obtain rfl := Except.ok.inj (decodes.symm.trans decodes')
  obtain rfl := Except.ok.inj (reads.symm.trans reads')
  exact Option.some.inj (isObject'.symm.trans isObject)

/-- A token with a header in JSON fails to load with `DecodeError` only. -/
theorem failsWith_load_of_states (states : StatesHeader env jwt header)
    : FailsWith (fun error => error.isA .invalidTokenError = true) (load env jwt) := by
  obtain ⟨segments, data, token, decodes, value, reads, _⟩ := states
  have asBytes : load env jwt = load env (.bytes segments.serialize) := by
    unfold load
    rw [token]
    rfl
  rw [asBytes, failsWith_load invalidToken_of_decodeError]
  intro segments' data' same decodes'
  obtain rfl := Segments.serialize_injective same
  obtain rfl := Except.ok.inj (decodes.symm.trans decodes')
  rw [reads]
  exact failsWith_ok value

/-- A valid header that has critical extensions lists them as it must. -/
theorem met_of_valid (has : header.get? "crit" = some crit)
    (valid : validateHeaders header false = .ok ())
    : ListsExtensions header crit :=
  (validateHeaders_eq_ok.mp valid).crit crit has

/-- A call that starts by loading and validating fails with `InvalidTokenError` only, if the
extensions are not met: what follows is not reached.
-/
theorem failsWith_opening {α : Type} (states : StatesHeader env jwt header)
    (has : header.get? "crit" = some crit) (unmet : ¬ListsExtensions header crit)
    (next : Loaded → Run α)
    : Traced.FailsWith (fun error => PyError.isA error .invalidTokenError = true)
        (do
          let loaded ← (Traced.ofExcept (load env jwt) : Run Loaded)
          Traced.ofExcept (validateHeaders loaded.header false)
          next loaded) := by
  refine Traced.failsWith_bind.mpr ⟨failsWith_load_of_states states, fun loaded loads => ?_⟩
  refine Traced.failsWith_bind.mpr ⟨fun error failed => ?_, fun _ valid => ?_⟩
  · show error.cls.isSubclass .invalidTokenError = true
    rw [failsWith_validateHeaders loaded.header false error failed]
    rfl
  · rw [header_of_load states loads] at valid
    exact absurd (met_of_valid has valid) unmet

variable {jws : PyJWS} {key : KeyArg} {algorithms : Option (List PyStr)}
  {options : Option SigOptions} {detachedPayload : Option Bytes}

/-- A verified decode or an unverified one is guarded by the critical extensions. -/
theorem guarded_decodeComplete (states : StatesHeader env jwt header)
    (has : header.get? "crit" = some crit)
    : Guarded (ListsExtensions header crit)
        (jws.decodeComplete env jwt key algorithms options detachedPayload).log
        (jws.decodeComplete env jwt key algorithms options detachedPayload).result := by
  have opened {segments : Segments} {loaded : Loaded} {payload signingInput : Bytes}
      (opens : Opens env jwt detachedPayload segments loaded payload signingInput)
      : ListsExtensions header crit := by
    have valid := opens.valid
    rw [header_of_load states (load_eq_ok_iff.mpr ⟨segments, opens.loads⟩)] at valid
    exact met_of_valid has valid
  refine .of_fails (fun decoded returned => ?_) (fun unmet => ?_) (fun unmet => ?_)
  · obtain ⟨_, _, _, opens, _⟩ := decodeComplete_eq_ok.mp returned
    exact opened opens
  · refine List.eq_nil_iff_forall_not_mem.mpr (fun event member => unmet ?_)
    obtain ⟨_, _, _, _, _, _, opens, _⟩ := mem_decodeComplete_log.mp member
    exact opened opens
  · cases flag : (jws.options.merge options).verifySignature with
    | false =>
        rw [decodeComplete_unverified flag]
        exact failsWith_opening states has unmet _
    | true =>
        by_cases named : NamesAlgorithms key algorithms
        · rw [decodeComplete_verified flag named]
          exact failsWith_opening states has unmet _
        · obtain ⟨message, refused⟩ :=
            decodeComplete_refused env jwt detachedPayload flag named
          rw [refused]
          exact failsWith_error.mpr (invalidToken_of_decodeError _ rfl)

theorem guarded_decode (states : StatesHeader env jwt header)
    (has : header.get? "crit" = some crit)
    : Guarded (ListsExtensions header crit)
        (jws.decode env jwt key algorithms options detachedPayload).log
        (jws.decode env jwt key algorithms options detachedPayload).result :=
  (guarded_decodeComplete states has).bind _

theorem guarded_getUnverifiedHeader (states : StatesHeader env jwt header)
    (has : header.get? "crit" = some crit)
    : Guarded (ListsExtensions header crit) ([] : List Event)
        (getUnverifiedHeader env jwt) := by
  refine .of_fails (fun returned isReturned => ?_) (fun _ => rfl) (fun unmet => ?_)
  · obtain ⟨loaded, loads, rest⟩ := outcome_bind_eq_ok.mp isReturned
    obtain ⟨_, valid, _⟩ := outcome_bind_eq_ok.mp rest
    rw [header_of_load states loads] at valid
    exact met_of_valid has valid
  · refine failsWith_bind.mpr ⟨failsWith_load_of_states states, fun loaded loads => ?_⟩
    refine failsWith_bind.mpr ⟨fun error failed => ?_, fun _ valid => ?_⟩
    · show error.cls.isSubclass .invalidTokenError = true
      rw [failsWith_validateHeaders loaded.header false error failed]
      rfl
    · rw [header_of_load states loads] at valid
      exact absurd (met_of_valid has valid) unmet

end PyJWS

/-- A client that reads the key's name from a token makes no request and keeps its cache, where
the token is refused.
-/
theorem PyJWKClient.guarded_getSigningKeyFromJwt (states : StatesHeader env jwt header)
    (has : header.get? "crit" = some crit) (decoder : PyJWT) (now : Rat) (first second : Turn)
    (client : PyJWKClient)
    : Guarded (PyJWS.ListsExtensions header crit)
          (getSigningKeyFromJwt env decoder jwt now first second client).log
          (getSigningKeyFromJwt env decoder jwt now first second client).result
      ∧ (¬PyJWS.ListsExtensions header crit
        → (getSigningKeyFromJwt env decoder jwt now first second client).state = client) := by
  have decoded : Guarded (PyJWS.ListsExtensions header crit)
      (decoder.decodeComplete env jwt (.raw (.str "")) none (some unverifiedOptions) none
        defaultExpected now).log
      (decoder.decodeComplete env jwt (.raw (.str "")) none (some unverifiedOptions) none
        defaultExpected now).result :=
    (PyJWS.guarded_decodeComplete states has).bind _
  unfold getSigningKeyFromJwt
  rw [Stateful.liftM_eq_ofExcept]
  refine ⟨⟨fun found returned => ?_, fun unmet => ?_⟩, fun unmet => ?_⟩
  · obtain ⟨unverified, read, _⟩ := Stateful.bind_result_eq_ok.mp returned
    exact decoded.returns unverified read
  · obtain ⟨_, error, raised, isInvalid⟩ := decoded.refuses unmet
    rw [Stateful.bind_of_error (show (Stateful.ofExcept _ client).result = _ from raised)]
    exact ⟨rfl, error, rfl, isInvalid⟩
  · obtain ⟨_, error, raised, _⟩ := decoded.refuses unmet
    rw [Stateful.bind_of_error (show (Stateful.ofExcept _ client).result = _ from raised)]
    rfl

/-- Whatever way a token with critical extensions is given to the library, it gets through only
if they are a non-empty list of supported names of members of its header. Otherwise
`InvalidTokenError` is raised before any signature is checked and any key looked up.
-/
theorem criticalExtensions_met (states : StatesHeader env jwt header)
    (has : header.get? "crit" = some crit)
    : (∀ (jws : PyJWS) (key : KeyArg) (algorithms : Option (List PyStr))
        (options : Option SigOptions) (detachedPayload : Option Bytes),
        Guarded (PyJWS.ListsExtensions header crit)
            (jws.decodeComplete env jwt key algorithms options detachedPayload).log
            (jws.decodeComplete env jwt key algorithms options detachedPayload).result
          ∧ Guarded (PyJWS.ListsExtensions header crit)
              (jws.decode env jwt key algorithms options detachedPayload).log
              (jws.decode env jwt key algorithms options detachedPayload).result)
      ∧ Guarded (PyJWS.ListsExtensions header crit) ([] : List Event)
          (PyJWS.getUnverifiedHeader env jwt)
      ∧ (∀ (decoder : PyJWT) (key : KeyArg) (algorithms : Option (List PyStr))
          (options : Option Options) (detachedPayload : Option Bytes)
          (expected : PyJWT.Expected) (now : Rat),
          Guarded (PyJWS.ListsExtensions header crit)
            (decoder.decode env jwt key algorithms options detachedPayload expected now).log
            (decoder.decode env jwt key algorithms options detachedPayload expected now).result)
      ∧ ∀ (decoder : PyJWT) (now : Rat) (first second : Turn) (client : PyJWKClient),
          Guarded (PyJWS.ListsExtensions header crit)
              (PyJWKClient.getSigningKeyFromJwt env decoder jwt now first second client).log
              (PyJWKClient.getSigningKeyFromJwt env decoder jwt now first second client).result
            ∧ (¬PyJWS.ListsExtensions header crit
              → (PyJWKClient.getSigningKeyFromJwt env decoder jwt now first second client).state
                = client) := by
  refine ⟨?_, PyJWS.guarded_getUnverifiedHeader states has, ?_, ?_⟩
  · intro jws key algorithms options detachedPayload
    exact ⟨PyJWS.guarded_decodeComplete states has, PyJWS.guarded_decode states has⟩
  · intro decoder key algorithms options detachedPayload expected now
    exact ((PyJWS.guarded_decodeComplete states has).bind _).bind _
  · intro decoder now first second client
    exact PyJWKClient.guarded_getSigningKeyFromJwt states has decoder now first second client

/-- The text of a header states it, where `json.loads` inverts `json.dumps`. -/
theorem statesHeader_of_inverts (inverts : JsonInverts env header)
    : ∃ token : Bytes, StatesHeader env (.bytes token) header := by
  obtain ⟨text, data, _, _, loads⟩ := inverts
  exact ⟨(encodedSegments data true [] []).serialize, encodedSegments data true [] [], data, rfl,
    base64urlDecode_encode data, _, loads, Dict.asDict?_toJson header⟩

/-- A token with an empty list of critical extensions is refused even if its signature is not
verified.
-/
theorem criticalExtensions_met_empty
    : ∃ token error,
        StatesHeader roundTripEnv (.bytes token) (.ofEntries [("crit", .list [])])
        ∧ PyJWS.getUnverifiedHeader roundTripEnv (.bytes token) = .error error
        ∧ error.isA .invalidTokenError = true := by
  obtain ⟨token, states⟩ : ∃ token : Bytes,
      StatesHeader roundTripEnv (.bytes token) (.ofEntries [("crit", .list [])]) :=
    statesHeader_of_inverts
      (jsonInverts_withoutCryptography (by decide) (by decide))
  have unmet : ¬PyJWS.ListsExtensions (.ofEntries [("crit", .list [])]) (.list []) := by
    intro listed
    obtain ⟨names, same, nonempty, _⟩ := listed
    exact nonempty (List.map_eq_nil_iff.mp (Json.list.inj same).symm)
  have has : (Dict.ofEntries [("crit", Json.list [])]).get? "crit" = some (.list []) := rfl
  obtain ⟨_, guarded, _⟩ := criticalExtensions_met states has
  obtain ⟨_, error, raised, isInvalid⟩ := guarded.refuses unmet
  exact ⟨token, error, states, raised, isInvalid⟩

end PyJwt
