import PyJwt.Correctness.DecodeStages

/-! What each stage of an encode did when it returned, and the segments of the token it made.
Every segment is in the URL-safe alphabet, so no separator hides inside one.
-/

namespace PyJwt

open Foundations
open Python

theorem dot_not_mem_base64urlEncode (input : Bytes) : dot ∉ base64urlEncode input :=
  fun member => (urlSafe_ascii (base64urlEncode_urlSafe member)).2 rfl

/-- What is signed in place of the payload segment. -/
def payloadSegment (detached : Bool) (payload : Bytes) : Bytes :=
  if detached then payload else base64urlEncode payload

/-- The bytes an encode signs, for the header's JSON text `data`. -/
def signedBytes (data : Bytes) (detached : Bool) (payload : Bytes) : Bytes :=
  base64urlEncode data ++ dot :: payloadSegment detached payload

/-- The segments of the token: a detached payload leaves its segment empty. -/
def encodedSegments (data : Bytes) (detached : Bool) (payload signature : Bytes) : Segments :=
  {
    header := base64urlEncode data
    payload := if detached then [] else base64urlEncode payload
    crypto := base64urlEncode signature
    headerClean := dot_not_mem_base64urlEncode data
    cryptoClean := dot_not_mem_base64urlEncode signature
  }

/-- No encoded token has a separator inside a segment. -/
theorem encodedSegments_payloadClean (data : Bytes) (detached : Bool) (payload signature : Bytes)
    : dot ∉ (encodedSegments data detached payload signature).payload := by
  cases detached with
  | true => simp [encodedSegments]
  | false => exact dot_not_mem_base64urlEncode payload

theorem encodedSegments_ascii (data : Bytes) (detached : Bool) (payload signature : Bytes)
    : ∀ byte ∈ (encodedSegments data detached payload signature).serialize, byte < 0x80 := by
  have ascii (input : Bytes) : ∀ byte ∈ base64urlEncode input, byte < 0x80 :=
    fun byte member => (urlSafe_ascii (base64urlEncode_urlSafe member)).1
  have separator : dot < 0x80 := by decide
  intro byte member
  simp only [Segments.serialize, Segments.signingInput, encodedSegments, List.mem_append,
    List.mem_cons] at member
  rcases member with (member | rfl | member) | rfl | member
  · exact ascii data byte member
  · exact separator
  · cases detached with
    | true => simp at member
    | false => exact ascii payload byte (by simpa using member)
  · exact separator
  · exact ascii signature byte member

/-- The token that is returned is the text of its segments. -/
theorem decodeBytes_encodedSegments (data : Bytes) (detached : Bool) (payload signature : Bytes)
    : decodeBytes
          (joinSegments
            [
              base64urlEncode data,
              if detached then [] else payloadSegment detached payload,
              base64urlEncode signature
            ])
      = .ok (asciiText (encodedSegments data detached payload signature).serialize) := by
  have same : joinSegments
        [
          base64urlEncode data,
          if detached then [] else payloadSegment detached payload,
          base64urlEncode signature
        ]
      = (encodedSegments data detached payload signature).serialize := by
    rw [joinSegments_triple]
    cases detached <;> rfl
  rw [same, decodeBytes, decodeUtf8_ascii (encodedSegments_ascii data detached payload signature)]

/-- The token read back as bytes is its segments again. -/
theorem tokenBytes_encodedSegments (data : Bytes) (detached : Bool) (payload signature : Bytes)
    : PyJWS.tokenBytes
          (.str (asciiText (encodedSegments data detached payload signature).serialize))
      = .ok (encodedSegments data detached payload signature).serialize := by
  simp only [PyJWS.tokenBytes, encodeStr,
    encode_asciiText (encodedSegments_ascii data detached payload signature)]

namespace PyJWS

variable {env : Env} {jws : PyJWS} {payload : Bytes} {key : KeyArg}
  {algorithm : AlgorithmArg} {headers : Option (Dict Json)}
  {isPayloadDetached sortHeaders : Bool}

/-- The header is settled: which algorithm, whether the payload is detached, the header and
its JSON text, and the handler of the algorithm.
-/
structure Settles (env : Env) (jws : PyJWS) (key : KeyArg) (algorithm : AlgorithmArg)
    (headers : Option (Dict Json)) (isPayloadDetached sortHeaders : Bool) (alg : Json)
    (detached : Bool) (header : Dict Json) (data : Bytes) (handler : Algorithm)
    : Prop where
  resolved : resolveAlgorithm algorithm key headers isPayloadDetached = (alg, detached)
  built : buildHeader alg headers detached = .ok header
  dumped : dumpHeader env header sortHeaders = .ok data
  chosen : jws.getAlgorithmByName env alg = .ok handler

/-- A header is settled in only one way. -/
theorem Settles.unique {alg alg' : Json} {detached detached' : Bool}
    {header header' : Dict Json} {data data' : Bytes} {handler handler' : Algorithm}
    (h : Settles env jws key algorithm headers isPayloadDetached sortHeaders alg detached
      header data handler)
    (h' : Settles env jws key algorithm headers isPayloadDetached sortHeaders alg' detached'
      header' data' handler')
    : alg = alg' ∧ detached = detached' ∧ header = header' ∧ data = data'
      ∧ handler = handler' := by
  obtain ⟨rfl, rfl⟩ := Prod.mk.inj (h.resolved.symm.trans h'.resolved)
  obtain rfl := Except.ok.inj (h.built.symm.trans h'.built)
  exact ⟨rfl, rfl, rfl, Except.ok.inj (h.dumped.symm.trans h'.dumped),
    Except.ok.inj (h.chosen.symm.trans h'.chosen)⟩

/-- A payload is detached when the caller or the headers ask for it. -/
theorem resolveAlgorithm_detached
    : (resolveAlgorithm algorithm key headers isPayloadDetached).2
      = (isPayloadDetached
        || (givenHeaders headers).any (fun headers => (getOrNull headers "b64").isFalse)) := by
  unfold resolveAlgorithm
  cases givenHeaders headers with
  | none => simp
  | some headers => rfl

/-- An encode that is asked to detach the payload does. -/
theorem Settles.detached {alg : Json} {detached : Bool} {header : Dict Json} {data : Bytes}
    {handler : Algorithm}
    (h : Settles env jws key algorithm headers true sortHeaders alg detached header data
      handler)
    : detached = true := by
  have resolved := congrArg Prod.snd h.resolved
  rw [resolveAlgorithm_detached, Bool.true_or] at resolved
  exact resolved.symm

/-- An encode returns exactly when the header is settled, the handler accepts the key, and it
signs; the token holds the signature.
-/
theorem encode_eq_ok {token : PyStr}
    : (jws.encode env payload key algorithm headers isPayloadDetached sortHeaders).result
        = .ok token
      ↔ ∃ alg detached header data handler prepared signature,
          Settles env jws key algorithm headers isPayloadDetached sortHeaders alg detached
            header data handler
          ∧ handler.prepareKey env key.unwrap = .ok prepared
          ∧ jws.AcceptsLength handler prepared
          ∧ handler.sign env (signedBytes data detached payload) prepared = .ok signature
          ∧ token
            = asciiText (encodedSegments data detached payload signature).serialize := by
  unfold encode callSign
  simp only [Traced.liftM_eq_ofExcept, Traced.bind_result_eq_ok, Traced.ofExcept_result,
    prepareSigningKey_eq_ok, Traced.emit_result, joinSegments_pair]
  constructor
  · intro h
    obtain ⟨header, built, data, dumped, handler, chosen, prepared, ⟨prepares, length⟩,
      signature, ⟨_, _, signs⟩, decodes⟩ := h
    refine ⟨_, _, header, data, handler, prepared, signature, ⟨rfl, built, dumped, chosen⟩,
      prepares, length, signs, ?_⟩
    exact (Except.ok.inj ((decodeBytes_encodedSegments data _ payload signature).symm.trans
      decodes)).symm
  · intro h
    obtain ⟨alg, detached, header, data, handler, prepared, signature, settles, prepares,
      length, signs, rfl⟩ := h
    rw [settles.resolved]
    exact ⟨header, settles.built, data, settles.dumped, handler, settles.chosen, prepared,
      ⟨prepares, length⟩, signature, ⟨⟨⟩, trivial, signs⟩,
      decodeBytes_encodedSegments data detached payload signature⟩

/-- The only call of an algorithm that an encode makes is `sign`, on the signed bytes and the
prepared key, once the header is settled.
-/
theorem mem_encode_log {event : Event}
    : event ∈ (jws.encode env payload key algorithm headers isPayloadDetached sortHeaders).log
      ↔ ∃ alg detached header data handler,
          Settles env jws key algorithm headers isPayloadDetached sortHeaders alg detached
            header data handler
          ∧ (event ∈ (jws.prepareSigningKey env handler key).log
            ∨ ∃ prepared,
                handler.prepareKey env key.unwrap = .ok prepared
                ∧ jws.AcceptsLength handler prepared
                ∧ event = .sign handler (signedBytes data detached payload) prepared) := by
  unfold encode callSign
  simp only [Traced.liftM_eq_ofExcept, Traced.mem_bind_log, Traced.ofExcept_log,
    List.not_mem_nil, false_or, Traced.ofExcept_result, prepareSigningKey_eq_ok,
    Traced.emit_log, List.mem_singleton, and_false, exists_false, or_false,
    joinSegments_pair]
  constructor
  · intro h
    rcases h with ⟨header, built, data, dumped, handler, chosen,
      early | ⟨prepared, ⟨prepares, length⟩, signed⟩⟩
    · exact ⟨_, _, header, data, handler, ⟨rfl, built, dumped, chosen⟩, Or.inl early⟩
    · exact ⟨_, _, header, data, handler, ⟨rfl, built, dumped, chosen⟩,
        Or.inr ⟨prepared, prepares, length, signed⟩⟩
  · intro h
    rcases h with ⟨alg, detached, header, data, handler, settles,
      early | ⟨prepared, prepares, length, signed⟩⟩
    · exact ⟨header, settles.resolved ▸ settles.built, data, settles.dumped, handler,
        settles.resolved ▸ settles.chosen, Or.inl early⟩
    · refine ⟨header, settles.resolved ▸ settles.built, data, settles.dumped, handler,
        settles.resolved ▸ settles.chosen, Or.inr ⟨prepared, ⟨prepares, length⟩, ?_⟩⟩
      rw [settles.resolved]
      exact signed

end PyJWS

end PyJwt
