import PyJwt.Correctness.JwsRoundTrip
import PyJwt.Correctness.RegisteredHandlers

/-! What the header of an encoded token says. An encode resolves the algorithm and detaches the
payload on its own tests of the caller's headers, and merges the same headers into the one
it emits; the two agree only in part.
-/

namespace PyJwt

open Foundations
open Python

-----------------------------------------------------------------------------------------
-- The header in a token
-----------------------------------------------------------------------------------------

/-- The token's first segment is the JSON text of the header, and a reader finds the header
there if the text loads to what was dumped.
-/
structure CarriesHeader (env : Env) (token : PyStr) (header : Dict Json) : Prop where
  written
    : ∃ (segments : Segments) (text : PyStr) (data : Bytes),
        PyJWS.tokenBytes (.str token) = .ok segments.serialize
        ∧ env.json.dumps true header.toJson = .ok text
        ∧ text.encode = some data
        ∧ segments.header = base64urlEncode data
  read
    : JsonInverts env header
      → ∃ loaded, PyJWS.load env (.str token) = .ok loaded ∧ loaded.header = header

variable {env : Env} {jws : PyJWS} {payload : Bytes} {key : KeyArg}
  {algorithm : AlgorithmArg} {headers : Option (Dict Json)}
  {isPayloadDetached sortHeaders : Bool} {token : PyStr}

namespace PyJWS

/-- The header is dumped as the bytes of its JSON text. -/
theorem dumpHeader_eq_ok {header : Dict Json} {data : Bytes}
    : dumpHeader env header sortHeaders = .ok data
      ↔ ∃ text,
          env.json.dumps true (header.dumped sortHeaders).toJson = .ok text
          ∧ text.encode = some data := by
  unfold dumpHeader
  rw [outcome_bind_eq_ok]
  refine exists_congr (fun text => and_congr_right (fun _ => ?_))
  unfold encodeStr
  cases text.encode <;> simp

/-- A header that is built is the merged one, adjusted. -/
theorem eq_adjustHeader_of_buildHeader {alg : Json} {detached : Bool} {header : Dict Json}
    (built : buildHeader alg headers detached = .ok header)
    : header = adjustHeader (mergedHeader alg headers) detached := by
  unfold buildHeader at built
  obtain ⟨_, _, returned⟩ := outcome_bind_eq_ok.mp built
  exact (Except.ok.inj returned).symm

/-- The header that an encode dumps. -/
def emittedHeader (algorithm : AlgorithmArg) (key : KeyArg) (headers : Option (Dict Json))
    (isPayloadDetached sortHeaders : Bool)
    : Dict Json :=
  let resolved := resolveAlgorithm algorithm key headers isPayloadDetached
  (adjustHeader (mergedHeader resolved.1 headers) resolved.2).dumped sortHeaders

theorem emittedHeader_eq {alg : Json} {detached : Bool}
    (resolved : resolveAlgorithm algorithm key headers isPayloadDetached = (alg, detached))
    (sortHeaders : Bool)
    : emittedHeader algorithm key headers isPayloadDetached sortHeaders
      = (adjustHeader (mergedHeader alg headers) detached).dumped sortHeaders := by
  rw [emittedHeader, resolved]

/-- An encode that returned resolved to a name, and its token carries the emitted header. -/
theorem carriesHeader_of_encode
    (returned : (jws.encode env payload key algorithm headers isPayloadDetached
        sortHeaders).result
      = .ok token)
    : (∃ name detached,
        resolveAlgorithm algorithm key headers isPayloadDetached = (.str name, detached))
      ∧ CarriesHeader env token
          (emittedHeader algorithm key headers isPayloadDetached sortHeaders) := by
  obtain ⟨alg, detached, header, data, handler, _, signature, settles, _, _, _, rfl⟩ :=
    encode_eq_ok.mp returned
  obtain ⟨name, rfl, _⟩ := getAlgorithmByName_eq_ok.mp settles.chosen
  obtain rfl := eq_adjustHeader_of_buildHeader settles.built
  obtain ⟨text, dumps, encodes⟩ := dumpHeader_eq_ok.mp settles.dumped
  refine ⟨⟨name, detached, settles.resolved⟩, ?_⟩
  rw [emittedHeader_eq settles.resolved]
  refine {
    written := ⟨_, text, data, tokenBytes_encodedSegments data detached payload signature,
      dumps, encodes, rfl⟩
    read := ?_
  }
  intro inverts
  obtain ⟨text', data', dumps', encodes', loads⟩ := inverts
  obtain rfl := Except.ok.inj (dumps.symm.trans dumps')
  obtain rfl := Option.some.inj (encodes.symm.trans encodes')
  exact ⟨_, load_eq_ok_iff.mpr
    ⟨_, loads_encodedSegments ⟨_, loads, Dict.asDict?_toJson _⟩ payload signature⟩, rfl⟩

end PyJWS

-----------------------------------------------------------------------------------------
-- The algorithm it states
-----------------------------------------------------------------------------------------

/-- The header's `alg` is the name under which the one handler that signed is registered. -/
def StatesSigner (jws : PyJWS) (header : Dict Json) (log : List Event) : Prop :=
  ∃ alg, header.get? "alg" = some alg ∧ SignedByRegistered jws.algorithms.get? alg log

/-- The headers' `alg`, where there is one, is true, or finds the handler that the key and the
algorithm argument name without it.
-/
def StatesResolved (env : Env) (jws : PyJWS) (algorithm : AlgorithmArg) (key : KeyArg)
    (headers : Dict Json)
    : Prop :=
  ∀ alg,
    headers.get? "alg" = some alg
    → alg.truthy = true
      ∨ jws.getAlgorithmByName env alg
        = jws.getAlgorithmByName env (PyJWS.resolveAlgorithm algorithm key none false).1

namespace PyJWS

/-- Only a true `alg` of the headers is resolved to. -/
theorem resolveAlgorithm_fst
    : (resolveAlgorithm algorithm key headers isPayloadDetached).1
      = (((headers.getD Dict.empty).get? "alg").filter Json.truthy).getD
          (resolveAlgorithm algorithm key none false).1 := by
  have nothing : givenHeaders none = none := rfl
  rw [givenHeaders_get?]
  unfold resolveAlgorithm
  rw [nothing]
  cases givenHeaders headers with
  | none => rfl
  | some given =>
      rcases Option.eq_none_or_eq_some (given.get? "alg") with absent | ⟨alg, found⟩
      · simp [getOrNull, absent, Json.truthy]
      · cases truthy : alg.truthy <;> simp [getOrNull, found, truthy, Option.filter]

end PyJWS
/-- A dump changes no name. -/
theorem SignedByRegistered.iff_dumped {handlers : PyStr → Option Algorithm} {alg : Json}
    {log : List Event}
    : SignedByRegistered handlers (alg.dumped sortHeaders) log
      ↔ SignedByRegistered handlers alg log := by
  simp only [SignedByRegistered, Json.dumped_eq_str]

/-- Where a name's handler is the one that signed, another name states the signer exactly when
it finds the same handler.
-/
theorem SignedByRegistered.iff_sameHandler (env : Env) {name : PyStr} {log : List Event}
    (signed : SignedByRegistered jws.algorithms.get? (.str name) log) {alg : Json}
    : SignedByRegistered jws.algorithms.get? alg log
      ↔ jws.getAlgorithmByName env alg = jws.getAlgorithmByName env (.str name) := by
  obtain ⟨_, handler, same, registered, called, only⟩ := signed
  cases same
  rw [PyJWS.getAlgorithmByName_str_eq_ok.mpr registered, getAlgorithmByName_eq_ok]
  constructor
  · intro h
    obtain ⟨other, found, rfl, stored, ⟨msg, prepared, member⟩, _⟩ := h
    exact ⟨other, rfl, only found msg prepared member ▸ stored⟩
  · intro h
    obtain ⟨other, rfl, stored⟩ := h
    exact ⟨other, handler, rfl, stored, called, only⟩

/-- The header of a token states the algorithm that signed it exactly when the caller's headers
set no false `alg`, or one under which that same handler is registered.
-/
theorem statesSigner_iff
    (returned : (jws.encode env payload key algorithm headers isPayloadDetached
        sortHeaders).result
      = .ok token)
    : CarriesHeader env token
          (PyJWS.emittedHeader algorithm key headers isPayloadDetached sortHeaders)
      ∧ (StatesSigner jws
            (PyJWS.emittedHeader algorithm key headers isPayloadDetached sortHeaders)
            (jws.encode env payload key algorithm headers isPayloadDetached sortHeaders).log
          ↔ StatesResolved env jws algorithm key (headers.getD Dict.empty)) := by
  obtain ⟨⟨name, detached, resolved⟩, carries⟩ := PyJWS.carriesHeader_of_encode returned
  refine ⟨carries, ?_⟩
  rw [PyJWS.emittedHeader_eq resolved]
  have signed := signedByRegistered_of_encode returned
  rw [resolved] at signed
  have chosen := congrArg Prod.fst resolved
  rw [PyJWS.resolveAlgorithm_fst] at chosen
  unfold StatesSigner StatesResolved
  rw [PyJWS.dumpedHeader_get?, expectedMember_alg]
  rcases Option.eq_none_or_eq_some ((headers.getD Dict.empty).get? "alg") with
    absent | ⟨alg, given⟩
  · -- The library writes the name that it resolved to.
    simpa [absent] using signed
  · rw [given, Option.filter] at chosen
    simp only [given, Option.some_or, Option.map_some, Option.some.injEq, exists_eq_left',
      forall_eq']
    rw [SignedByRegistered.iff_dumped, signed.iff_sameHandler env]
    cases truthy : alg.truthy with
    | true =>
        simp only [truthy, if_true, Option.getD_some] at chosen
        simp [chosen]
    | false =>
        simp only [truthy, Bool.false_eq_true, if_false, Option.getD_none] at chosen
        simp [chosen]

/-- An HMAC encode whose caller sets headers. -/
def encodeWith (algorithm : AlgorithmArg) (headers : Dict Json) (isPayloadDetached : Bool)
    : Run PyStr :=
  (PyJWS.init roundTripEnv none none).encode roundTripEnv (ascii "a")
    (.raw (.bytes (ascii "kk"))) algorithm (some headers) isPayloadDetached true

/-- An `alg` in the headers overrides the argument, and is stated. -/
theorem statesSigner_iff_overridden
    : ∃ token,
        (encodeWith (.name "HS256") (.ofEntries [("alg", .str "HS512")]) false).result
          = .ok token
        ∧ StatesSigner (PyJWS.init roundTripEnv none none)
            (PyJWS.emittedHeader (.name "HS256") (.raw (.bytes (ascii "kk")))
              (some (.ofEntries [("alg", .str "HS512")])) false true)
            (encodeWith (.name "HS256") (.ofEntries [("alg", .str "HS512")]) false).log := by
  obtain ⟨token, returned, _⟩ := of_returnsWith
    (by decide : returnsWith (fun _ => true)
      (encodeWith (.name "HS256") (.ofEntries [("alg", .str "HS512")]) false).result = true)
  refine ⟨token, returned, (statesSigner_iff returned).2.mpr ?_⟩
  intro alg given
  cases given
  exact Or.inl (by decide)

/-- With an empty `alg` in the headers the token is signed by HS256, and does not say so. -/
theorem statesSigner_empty
    : ∃ token loaded,
        (encodeWith .unset (.ofEntries [("alg", .str "")]) false).result = .ok token
        ∧ PyJWS.load roundTripEnv (.str token) = .ok loaded
        ∧ loaded.header.get? "alg" = some (.str "")
        ∧ ¬StatesSigner (PyJWS.init roundTripEnv none none) loaded.header
            (encodeWith .unset (.ofEntries [("alg", .str "")]) false).log := by
  obtain ⟨token, returned, opens⟩ := of_returnsWith
    (by decide +kernel : returnsWith
      (fun token => returnsWith
        (fun loaded =>
          (loaded.header.get? "alg").bind Json.asStr? = some (PyStr.ofString ""))
        (PyJWS.load roundTripEnv (.str token)))
      (encodeWith .unset (.ofEntries [("alg", .str "")]) false).result = true)
  obtain ⟨loaded, loads, stated⟩ := of_returnsWith opens
  obtain ⟨alg, found, isName⟩ := Option.bind_eq_some_iff.mp (of_decide_eq_true stated)
  rw [Json.asStr?_eq_some.mp isName] at found
  have unregistered : (PyJWS.init roundTripEnv none none).algorithms.get? "" = none := rfl
  refine ⟨token, loaded, returned, loads, found, fun states => ?_⟩
  obtain ⟨alg', found', name, handler, rfl, registered, _⟩ := states
  cases found.symm.trans found'
  cases unregistered.symm.trans registered

-----------------------------------------------------------------------------------------
-- The extensions it lists
-----------------------------------------------------------------------------------------

/-- The headers call no extension critical, or the encoder keeps `b64`. -/
def KeepsExtensions (headers : Dict Json) (isPayloadDetached : Bool) : Prop :=
  headers.get? "crit" = none
  ∨ isPayloadDetached = true
  ∨ headers.get? "b64" = some (.bool false)

namespace PyJWS

/-- A payload is detached when the caller asks for it, or sets `b64` to false itself. -/
theorem resolveAlgorithm_snd_iff
    : (resolveAlgorithm algorithm key headers isPayloadDetached).2 = true
      ↔ isPayloadDetached = true
        ∨ (headers.getD Dict.empty).get? "b64" = some (.bool false) := by
  rw [resolveAlgorithm_detached, Bool.or_eq_true, givenHeaders_get?]
  refine or_congr_right ?_
  cases givenHeaders headers with
  | none => simp
  | some given =>
      simp only [Option.any_some, Json.isFalse_iff, getOrNull, Option.bind_some]
      cases given.get? "b64" <;> simp

/-- The emitted header is valid exactly when the critical extensions are kept. -/
theorem validateHeaders_emittedHeader_iff
    (valid : validateHeaders (headers.getD Dict.empty) false = .ok ())
    {name : PyStr} {detached : Bool}
    (resolved : resolveAlgorithm algorithm key headers isPayloadDetached
      = (.str name, detached))
    (sortHeaders : Bool)
    : validateHeaders
          (emittedHeader algorithm key headers isPayloadDetached sortHeaders) false
        = .ok ()
      ↔ KeepsExtensions (headers.getD Dict.empty) isPayloadDetached := by
  rw [emittedHeader_eq resolved, validateHeaders_eq_ok,
    validHeaders_dumped_iff (validateHeaders_eq_ok.mp valid)]
  unfold KeepsExtensions
  rw [← @resolveAlgorithm_snd_iff key algorithm headers isPayloadDetached, resolved]

/-- Whatever is loaded, there is content once a detached payload is given. -/
theorem signedContent_given (loaded : Loaded) (detachedPayload : Bytes)
    : ∃ content, signedContent loaded (some detachedPayload) = .ok content := by
  unfold signedContent
  split
  · exact ⟨_, rfl⟩
  · exact ⟨_, rfl⟩

/-- The header of a token that loads is returned exactly when it is valid. -/
theorem getUnverifiedHeader_eq_ok {loaded : Loaded}
    (loads : load env (.str token) = .ok loaded)
    : getUnverifiedHeader env (.str token) = .ok loaded.header
      ↔ validateHeaders loaded.header false = .ok () := by
  unfold getUnverifiedHeader
  rw [loads, outcome_ok_bind, outcome_bind_eq_ok]
  constructor
  · intro h
    obtain ⟨_, valid, _⟩ := h
    exact valid
  · intro valid
    exact ⟨(), valid, rfl⟩

/-- A decode that returns found the header valid, and with a detached payload nothing else
stops one that does not verify.
-/
theorem decodeComplete_header {loaded : Loaded}
    (loads : load env (.str token) = .ok loaded) (decoder : PyJWS) (verifyKey : KeyArg)
    (algorithms : Option (List PyStr)) (options : Option SigOptions)
    (detachedPayload : Bytes)
    : (∀ decoded,
        (decoder.decodeComplete env (.str token) verifyKey algorithms options
            (some detachedPayload)).result
          = .ok decoded
        → validateHeaders loaded.header false = .ok ())
      ∧ ((decoder.options.merge options).verifySignature = false
        → validateHeaders loaded.header false = .ok ()
        → ∃ decoded,
            (decoder.decodeComplete env (.str token) verifyKey algorithms options
                (some detachedPayload)).result
              = .ok decoded) := by
  constructor
  · intro decoded returned
    obtain ⟨segments, loaded', _, opens, _⟩ := decodeComplete_eq_ok.mp returned
    have same := loads.symm.trans (load_eq_ok_iff.mpr ⟨segments, opens.loads⟩)
    rw [Except.ok.inj same]
    exact opens.valid
  · intro unverified valid
    obtain ⟨⟨payload, signingInput⟩, content⟩ := signedContent_given loaded detachedPayload
    obtain ⟨segments, found⟩ := load_eq_ok_iff.mp loads
    exact ⟨⟨payload, loaded.header, loaded.signature⟩, decodeComplete_eq_ok.mpr
      ⟨segments, loaded, signingInput, ⟨found, valid, content⟩, rfl, rfl,
        fun verifies => nomatch unverified.symm.trans verifies⟩⟩

end PyJWS

/-- From valid headers an encode makes a valid header, which the library's own readers accept,
exactly when it keeps the extensions that the headers call critical.
-/
theorem validHeaders_iff
    (valid : PyJWS.validateHeaders (headers.getD Dict.empty) false = .ok ())
    (returned : (jws.encode env payload key algorithm headers isPayloadDetached
        sortHeaders).result
      = .ok token)
    : CarriesHeader env token
          (PyJWS.emittedHeader algorithm key headers isPayloadDetached sortHeaders)
      ∧ (PyJWS.validateHeaders
            (PyJWS.emittedHeader algorithm key headers isPayloadDetached sortHeaders) false
          = .ok ()
        ↔ KeepsExtensions (headers.getD Dict.empty) isPayloadDetached)
      ∧ (JsonInverts env
          (PyJWS.emittedHeader algorithm key headers isPayloadDetached sortHeaders)
        → (PyJWS.getUnverifiedHeader env (.str token)
              = .ok (PyJWS.emittedHeader algorithm key headers isPayloadDetached sortHeaders)
            ↔ KeepsExtensions (headers.getD Dict.empty) isPayloadDetached)
          ∧ ∀ (decoder : PyJWS) (verifyKey : KeyArg) (algorithms : Option (List PyStr))
              (options : Option SigOptions) (detachedPayload : Bytes),
              (∀ decoded,
                (decoder.decodeComplete env (.str token) verifyKey algorithms options
                    (some detachedPayload)).result
                  = .ok decoded
                → KeepsExtensions (headers.getD Dict.empty) isPayloadDetached)
              ∧ ((decoder.options.merge options).verifySignature = false
                → KeepsExtensions (headers.getD Dict.empty) isPayloadDetached
                → ∃ decoded,
                    (decoder.decodeComplete env (.str token) verifyKey algorithms options
                        (some detachedPayload)).result
                      = .ok decoded)) := by
  obtain ⟨⟨name, detached, resolved⟩, carries⟩ := PyJWS.carriesHeader_of_encode returned
  have accepted := PyJWS.validateHeaders_emittedHeader_iff valid resolved sortHeaders
  refine ⟨carries, accepted, ?_⟩
  rw [← accepted]
  intro inverts
  obtain ⟨loaded, loads, same⟩ := carries.read inverts
  rw [← same]
  exact ⟨PyJWS.getUnverifiedHeader_eq_ok loads, PyJWS.decodeComplete_header loads⟩

/-- The headers that call `b64` critical, with a value for it. -/
def criticalB64 (b64 : Bool) : Dict Json :=
  .ofEntries [("crit", .list [.str "b64"]), ("b64", .bool b64)]

/-- A false `b64` is kept, and the library reads the header back. -/
theorem validHeaders_iff_detached
    : ∃ token header,
        (encodeWith (.name "HS256") (criticalB64 false) false).result = .ok token
        ∧ PyJWS.validateHeaders header false = .ok ()
        ∧ PyJWS.getUnverifiedHeader roundTripEnv (.str token) = .ok header := by
  obtain ⟨token, returned, _⟩ := of_returnsWith
    (by decide +kernel : returnsWith (fun _ => true)
      (encodeWith (.name "HS256") (criticalB64 false) false).result = true)
  have inverts : JsonInverts roundTripEnv
      (PyJWS.emittedHeader (.name "HS256") (.raw (.bytes (ascii "kk")))
        (some (criticalB64 false)) false true) :=
    jsonInverts_withoutCryptography (by decide) (by decide)
  have keeps : KeepsExtensions (criticalB64 false) false := Or.inr (Or.inr rfl)
  obtain ⟨_, accepted, read⟩ := validHeaders_iff (by rfl) returned
  exact ⟨token, _, returned, accepted.mpr keeps, (read inverts).1.mpr keeps⟩

/-- A true `b64` is dropped from the token, which still calls it critical. -/
theorem validHeaders_attached
    : ∃ token loaded,
        PyJWS.validateHeaders (criticalB64 true) false = .ok ()
        ∧ (encodeWith (.name "HS256") (criticalB64 true) false).result = .ok token
        ∧ PyJWS.load roundTripEnv (.str token) = .ok loaded
        ∧ PyJWS.validateHeaders loaded.header false ≠ .ok ()
        ∧ ∀ header, PyJWS.getUnverifiedHeader roundTripEnv (.str token) ≠ .ok header := by
  obtain ⟨token, returned, opens⟩ := of_returnsWith
    (by decide +kernel : returnsWith
      (fun token => returnsWith
        (fun loaded =>
          raisesWith (fun _ => true) (PyJWS.validateHeaders loaded.header false))
        (PyJWS.load roundTripEnv (.str token)))
      (encodeWith (.name "HS256") (criticalB64 true) false).result = true)
  obtain ⟨loaded, loads, refuses⟩ := of_returnsWith opens
  obtain ⟨error, refused, _⟩ := of_raisesWith refuses
  have invalid : PyJWS.validateHeaders loaded.header false ≠ .ok () := by simp [refused]
  refine ⟨token, loaded, rfl, returned, loads, invalid, ?_⟩
  intro header read
  unfold PyJWS.getUnverifiedHeader at read
  rw [loads, outcome_ok_bind, refused] at read
  cases read

end PyJwt
