import PyJwt.Correctness.EncodeStages
import PyJwt.Correctness.VerifiedDecoding

/-! What a signature over a detached payload binds. The decoder finds the header before the
first separator and rebuilds the signing input from before the last one, so the two agree
only for tokens whose middle segment holds no separator.
-/

namespace PyJwt

open Foundations
open Python

/-- What the decoder keeps of a token in front of a detached payload. -/
def Segments.rebuiltPrefix (segments : Segments) : Bytes :=
  match splitLast dot segments.payload with
  | none => segments.header
  | some (left, _) => segments.header ++ dot :: left

/-- The kept prefix is what stands before the last separator of the signing input. -/
theorem Segments.splitLast_signingInput (segments : Segments)
    : ∃ right, splitLast dot segments.signingInput = some (segments.rebuiltPrefix, right) := by
  unfold Segments.rebuiltPrefix Segments.signingInput
  cases found : splitLast dot segments.payload with
  | none =>
      have clean := splitLast_eq_none_iff.mp found
      exact ⟨segments.payload, splitLast_append segments.header clean⟩
  | some parts =>
      obtain ⟨left, right⟩ := parts
      obtain ⟨whole, clean⟩ := splitLast_eq_some_iff.mp found
      refine ⟨right, splitLast_eq_some_iff.mpr ⟨?_, clean⟩⟩
      rw [whole, List.append_assoc, List.cons_append]

/-- The prefix is the header segment alone exactly when the middle segment has no separator. -/
theorem Segments.rebuiltPrefix_cases (segments : Segments)
    : dot ∉ segments.payload ∧ segments.rebuiltPrefix = segments.header
      ∨ dot ∈ segments.payload
        ∧ ∃ left, segments.rebuiltPrefix = segments.header ++ dot :: left := by
  unfold Segments.rebuiltPrefix
  cases found : splitLast dot segments.payload with
  | none => exact Or.inl ⟨splitLast_eq_none_iff.mp found, rfl⟩
  | some parts =>
      obtain ⟨left, right⟩ := parts
      obtain ⟨whole, _⟩ := splitLast_eq_some_iff.mp found
      exact Or.inr ⟨by simp [whole], left, rfl⟩

/-- Behind the header segment, the rebuilt signing input holds exactly the payload if and only
if the middle segment has no separator.
-/
theorem Segments.rebuilt_eq_iff (segments : Segments) (payload : Bytes)
    : segments.rebuiltPrefix ++ dot :: payload = segments.header ++ dot :: payload
      ↔ dot ∉ segments.payload := by
  rcases segments.rebuiltPrefix_cases with ⟨clean, same⟩ | ⟨spliced, left, longer⟩
  · simp [same, clean]
  · simp only [longer, spliced, not_true_eq_false, iff_false]
    intro same
    have lengths := congrArg List.length same
    simp only [List.length_append, List.length_cons] at lengths
    omega

/-- A payload that was signed behind the header segment is the one the decoder was given, if
and only if the middle segment has no separator.
-/
theorem Segments.rebuilt_eq_signed {segments : Segments} {payload signed : Bytes}
    (h : segments.rebuiltPrefix ++ dot :: payload = segments.header ++ dot :: signed)
    : payload = signed ↔ dot ∉ segments.payload := by
  constructor
  · rintro rfl
    exact (segments.rebuilt_eq_iff payload).mp h
  · intro clean
    rw [(segments.rebuilt_eq_iff payload).mpr clean] at h
    exact (List.cons.inj (List.append_cancel_left h)).2

/-- With `b64` false, the payload is the given one and the signing input is rebuilt. -/
theorem PyJWS.signedContent_detached {loaded : PyJWS.Loaded} {segments : Segments}
    (split : loaded.signingInput = segments.signingInput)
    (unencoded : loaded.header.get? "b64" = some (.bool false)) (payload : Bytes)
    : PyJWS.signedContent loaded (some payload)
      = .ok (payload, segments.rebuiltPrefix ++ dot :: payload) := by
  obtain ⟨right, atLast⟩ := segments.splitLast_signingInput
  simp [PyJWS.signedContent, unencoded, Json.isFalse, split, atLast, joinSegments_pair]

-----------------------------------------------------------------------------------------
-- What the signature covers
-----------------------------------------------------------------------------------------

/-- The signature was verified over exactly `msg`. -/
def VerifiedOver (env : Env) (log : List Event) (signature msg : Bytes) : Prop :=
  ∃ handler prepared,
    Event.verify handler msg prepared signature ∈ log
    ∧ handler.verify env msg prepared signature = .ok true

/-- The handler and the key that checked the signature accept it for nothing but what was
signed: the signature is not forged.
-/
def AcceptsOnlySigned (env : Env) (signLog verifyLog : List Event) (signature : Bytes)
    : Prop :=
  ∀ handler prepared asked,
    Event.verify handler asked prepared signature ∈ verifyLog
    → ∀ msg,
        handler.verify env msg prepared signature = .ok true
        → ∃ signer signingKey, Event.sign signer msg signingKey ∈ signLog

variable {env : Env} {jws : PyJWS} {jwt : TextArg} {key : KeyArg}
  {algorithms : Option (List PyStr)} {options : Option SigOptions} {payload : Bytes}
  {decoded : PyJWS.Decoded} {segments : Segments}

/-- A verified decode of a detached payload checks the signature over the rebuilt input. -/
theorem verifiedOver_rebuilt
    (verifying : (jws.options.merge options).verifySignature = true)
    (returned : (jws.decodeComplete env jwt key algorithms options (some payload)).result
      = .ok decoded)
    (unencoded : decoded.header.get? "b64" = some (.bool false))
    (split : PyJWS.tokenBytes jwt = .ok segments.serialize)
    : decoded.payload = payload
      ∧ VerifiedOver env (jws.decodeComplete env jwt key algorithms options (some payload)).log
          decoded.signature (segments.rebuiltPrefix ++ dot :: payload)
      ∧ ∀ handler msg prepared sig,
          Event.verify handler msg prepared sig
              ∈ (jws.decodeComplete env jwt key algorithms options (some payload)).log
          → msg = segments.rebuiltPrefix ++ dot :: payload := by
  obtain ⟨segments', loaded, signingInput, opens, header, signature, verified⟩ :=
    PyJWS.decodeComplete_eq_ok.mp returned
  obtain rfl : segments = segments' :=
    Segments.serialize_injective (Except.ok.inj (split.symm.trans opens.loads.token))
  obtain ⟨named, alg, algObj, prepared, verifies⟩ := verified verifying
  have content := PyJWS.signedContent_detached opens.loads.signingInput (header ▸ unencoded)
    payload
  obtain ⟨samePayload, rfl⟩ := Prod.mk.inj (Except.ok.inj (opens.content.symm.trans content))
  refine ⟨samePayload, ⟨algObj, prepared, ?_, ?_⟩, ?_⟩
  · rw [signature]
    exact PyJWS.mem_decodeComplete_log.mpr ⟨verifying, named, segments, loaded,
      decoded.payload, _, opens, PyJWS.mem_verifySignature_log.mpr ⟨alg, algObj,
        verifies.allowed, verifies.chosen,
        Or.inr ⟨prepared, verifies.prepares, verifies.length, rfl⟩⟩⟩
  · rw [signature]
    exact verifies.accepts
  · intro handler msg prepared sig called
    exact (PyJWS.verify_mem_decodeComplete_log opens called).1

/-- What an encode with a detached payload signs: the payload behind the token's header
segment.
-/
theorem sign_mem_encode_log {signer : PyJWS} {signed : Bytes} {signingKey : KeyArg}
    {algorithm : AlgorithmArg} {headers : Option (Dict Json)} {sortHeaders : Bool}
    {token : PyStr} {original : Segments}
    (encoded : (signer.encode env signed signingKey algorithm headers true sortHeaders).result
      = .ok token)
    (split : PyJWS.tokenBytes (.str token) = .ok original.serialize)
    {handler : Algorithm} {msg : Bytes} {prepared : Key}
    (called : Event.sign handler msg prepared
      ∈ (signer.encode env signed signingKey algorithm headers true sortHeaders).log)
    : msg = original.header ++ dot :: signed := by
  obtain ⟨alg, detached, header, data, handler', prepared', signature, settles, _, _, _, rfl⟩ :=
    PyJWS.encode_eq_ok.mp encoded
  obtain ⟨alg', detached', header', data', handler'', settles', warned | ⟨_, _, _, same⟩⟩ :=
    PyJWS.mem_encode_log.mp called
  · obtain ⟨message, impossible⟩ := PyJWS.prepareSigningKey_logs signer _ signingKey _ warned
    cases impossible
  · obtain ⟨_, _, _, rfl, _⟩ := settles.unique settles'
    obtain rfl := settles'.detached
    obtain rfl := Segments.serialize_injective (Except.ok.inj (split.symm.trans
      (tokenBytes_encodedSegments data detached signed signature)))
    cases same
    rfl

/-- The signature of a returned detached payload covers that payload behind the token's header
segment, and an unforged signature lets no other payload through, exactly for the tokens
whose middle segment has no separator.
-/
theorem detachedPayload_bound_iff
    (verifying : (jws.options.merge options).verifySignature = true)
    (returned : (jws.decodeComplete env jwt key algorithms options (some payload)).result
      = .ok decoded)
    (unencoded : decoded.header.get? "b64" = some (.bool false))
    (split : PyJWS.tokenBytes jwt = .ok segments.serialize)
    : (VerifiedOver env (jws.decodeComplete env jwt key algorithms options (some payload)).log
          decoded.signature (segments.header ++ dot :: payload)
        ↔ dot ∉ segments.payload)
      ∧ ∀ (signer : PyJWS) (signed : Bytes) (signingKey : KeyArg) (algorithm : AlgorithmArg)
          (headers : Option (Dict Json)) (sortHeaders : Bool) (token : PyStr)
          (original : Segments),
          (signer.encode env signed signingKey algorithm headers true sortHeaders).result
            = .ok token
          → PyJWS.tokenBytes (.str token) = .ok original.serialize
          → segments.header = original.header
          → AcceptsOnlySigned env
              (signer.encode env signed signingKey algorithm headers true sortHeaders).log
              (jws.decodeComplete env jwt key algorithms options (some payload)).log
              decoded.signature
          → (decoded.payload = signed ↔ dot ∉ segments.payload) := by
  obtain ⟨samePayload, verified, only⟩ :=
    verifiedOver_rebuilt verifying returned unencoded split
  constructor
  · rw [← segments.rebuilt_eq_iff payload]
    constructor
    · intro h
      obtain ⟨handler, prepared, called, _⟩ := h
      exact (only _ _ _ _ called).symm
    · intro same
      rwa [← same]
  · intro signer signed signingKey algorithm headers sortHeaders token original encoded
      splitOriginal sameHeader unforged
    obtain ⟨handler, prepared, called, accepts⟩ := verified
    obtain ⟨_, _, signedCall⟩ := unforged handler prepared _ called _ accepts
    have message := sign_mem_encode_log encoded splitOriginal signedCall
    rw [samePayload]
    exact Segments.rebuilt_eq_signed (sameHeader ▸ message)

-----------------------------------------------------------------------------------------
-- A spliced token
-----------------------------------------------------------------------------------------

/-- The messages `sign` was called on. -/
def signedMessages (log : List Event) : List Bytes :=
  log.filterMap (fun event =>
    match event with
    | .sign _ msg _ => some msg
    | _ => none)

theorem exists_sign_of_mem {log : List Event} {msg : Bytes} (h : msg ∈ signedMessages log)
    : ∃ signer signingKey, Event.sign signer msg signingKey ∈ log := by
  obtain ⟨event, member, isSign⟩ := List.mem_filterMap.mp h
  cases event with
  | sign signer signed signingKey =>
      obtain rfl := Option.some.inj isSign
      exact ⟨signer, signingKey, member⟩
  | insecureKeyLength _ | verify _ _ _ _ => cases isSign

/-- Every `verify` of the log is an HMAC under a bytes key. -/
def verifiesWithHmac (log : List Event) : Bool :=
  log.all (fun event =>
    match event with
    | .verify (.hmac _) _ (.bytes _) _ => true
    | .verify _ _ _ _ => false
    | _ => true)

/-- An HMAC that only signed messages have is not forged. -/
theorem acceptsOnlySigned_of_hmac {env : Env} {signLog verifyLog : List Event}
    {signature : Bytes} (hmac : verifiesWithHmac verifyLog = true)
    (digests : ∀ hashAlg key msg,
      env.crypto.hmacDigest hashAlg key msg = signature → msg ∈ signedMessages signLog)
    : AcceptsOnlySigned env signLog verifyLog signature := by
  intro handler prepared asked called msg accepts
  have shape := List.all_eq_true.mp hmac _ called
  split at shape
  · rename_i same
    cases same
    have digest := of_decide_eq_true (Except.ok.inj accepts)
    exact exists_sign_of_mem (digests _ _ msg digest.symm)
  · cases shape
  · rename_i other
    exact absurd rfl (other _ _ _ _)

/-- The segment of `{"alg":"HS256","b64":false,"typ":"JWT"}`. -/
def detachedHeader : Bytes :=
  ascii "eyJhbGciOiJIUzI1NiIsImI2NCI6ZmFsc2UsInR5cCI6IkpXVCJ9"

def detachedPayload : Bytes := ascii "USD0.50"

/-- The digest of `detachedPayload` behind `detachedHeader`, under the two bytes `kk`. -/
def detachedDigest : Bytes :=
  [
    49, 209, 138, 140, 127, 227, 53, 139, 46, 249, 19, 8, 138, 80, 80, 96, 43, 204, 244,
    197, 154, 48, 209, 124, 146, 89, 38, 47, 171, 155, 241, 5
  ]

/-- A process without `cryptography`, in which `hmac` yields that digest for that message
alone.
-/
def detachedEnv : Env :=
  .withoutCryptography (fun _ _ msg =>
    if msg = detachedHeader ++ dot :: detachedPayload then detachedDigest else [])

/-- The token of a signer, with `middle` put between its header and its signature. -/
def detachedSegments (middle : Bytes) : Segments :=
  {
    header := detachedHeader
    payload := middle
    crypto := ascii "MdGKjH_jNYsu-RMIilBQYCvM9MWaMNF8klkmL6ub8QU"
    headerClean := by decide
    cryptoClean := by decide
  }

/-- The signer's call. -/
def detachedEncode : Run PyStr :=
  (PyJWS.init detachedEnv none none).encode detachedEnv detachedPayload
    (.raw (.bytes (ascii "kk"))) (.name "HS256") none true true

/-- A receiver's call, for a token with `middle` between its header and its signature. -/
def detachedDecode (middle payload : Bytes) : Run PyJWS.Decoded :=
  (PyJWS.init detachedEnv none none).decodeComplete detachedEnv
    (.bytes (detachedSegments middle).serialize) (.raw (.bytes (ascii "kk"))) (some ["HS256"])
    none (some payload)

/-- The middle segment and the payload of two calls: the signer's own token, and that token
with the front of its payload moved in.
-/
def detachedCalls : List (Bytes × Bytes) :=
  [([], detachedPayload), (ascii "USD0.", ascii "50")]

/-- The signer's call evaluated: the token it returns, and the message it signs. -/
theorem detachedEncode_runs
    : returnsWith (fun token => token = asciiText (detachedSegments []).serialize)
        detachedEncode.result = true
      ∧ (∀ byte ∈ (detachedSegments []).serialize, byte < 0x80)
      ∧ detachedHeader ++ dot :: detachedPayload ∈ signedMessages detachedEncode.log := by
  decide +kernel

/-- The receiver's two calls evaluated: each returns its payload, for the signer's digest. -/
theorem detachedDecode_runs
    : ∀ call ∈ detachedCalls,
        returnsWith
            (fun decoded =>
              decoded.signature = detachedDigest
                && ((decoded.header.get? "b64").any Json.isFalse && decoded.payload = call.2))
            (detachedDecode call.1 call.2).result = true
          ∧ verifiesWithHmac (detachedDecode call.1 call.2).log = true := by
  decide +kernel

/-- The signer's token has nothing between its header and its signature. -/
theorem detachedEncode_eq_ok
    : ∃ token,
        detachedEncode.result = .ok token
        ∧ PyJWS.tokenBytes (.str token) = .ok (detachedSegments []).serialize := by
  obtain ⟨returns, clean, _⟩ := detachedEncode_runs
  obtain ⟨token, encoded, same⟩ := of_returnsWith returns
  refine ⟨token, encoded, ?_⟩
  rw [of_decide_eq_true same]
  simp only [PyJWS.tokenBytes, encodeStr, encode_asciiText clean]

/-- Only the signer's message has the signer's digest. -/
theorem detachedDigest_only (hashAlg : HashAlg) (key msg : Bytes)
    (h : detachedEnv.crypto.hmacDigest hashAlg key msg = detachedDigest)
    : msg ∈ signedMessages detachedEncode.log := by
  obtain ⟨_, _, signed⟩ := detachedEncode_runs
  have digest : (if msg = detachedHeader ++ dot :: detachedPayload then detachedDigest else [])
      = detachedDigest := h
  by_cases same : msg = detachedHeader ++ dot :: detachedPayload
  · exact same ▸ signed
  · rw [if_neg same] at digest
    exact absurd digest (by decide)

/-- The receiver's two calls return, and let through only what was signed. -/
theorem detachedDecode_eq_ok {call : Bytes × Bytes} (h : call ∈ detachedCalls)
    : ∃ decoded,
        (detachedDecode call.1 call.2).result = .ok decoded
        ∧ decoded.header.get? "b64" = some (.bool false)
        ∧ decoded.payload = call.2
        ∧ AcceptsOnlySigned detachedEnv detachedEncode.log
          (detachedDecode call.1 call.2).log decoded.signature := by
  obtain ⟨returns, hmac⟩ := detachedDecode_runs call h
  obtain ⟨decoded, returned, facts⟩ := of_returnsWith returns
  simp only [Bool.and_eq_true, decide_eq_true_eq, Option.any_eq_true] at facts
  obtain ⟨signature, ⟨value, found, isFalse⟩, payload⟩ := facts
  rw [Json.isFalse_iff.mp isFalse] at found
  exact ⟨decoded, returned, found, payload,
    acceptsOnlySigned_of_hmac hmac (signature ▸ detachedDigest_only)⟩

/-- A receiver of the signer's own token gets the signer's payload, and only that one. -/
theorem detachedPayload_bound_iff_signed
    : ∃ decoded,
        (detachedDecode [] detachedPayload).result = .ok decoded
        ∧ VerifiedOver detachedEnv (detachedDecode [] detachedPayload).log decoded.signature
          ((detachedSegments []).header ++ dot :: detachedPayload)
        ∧ decoded.payload = detachedPayload := by
  obtain ⟨decoded, returned, found, _, unforged⟩ := detachedDecode_eq_ok (.head _)
  obtain ⟨token, encoded, split⟩ := detachedEncode_eq_ok
  have received : PyJWS.tokenBytes (.bytes (detachedSegments []).serialize)
      = .ok (detachedSegments []).serialize := rfl
  have bound := detachedPayload_bound_iff rfl returned found received
  refine ⟨decoded, returned, bound.1.mpr (by decide), ?_⟩
  exact (bound.2 _ _ _ _ _ _ token (detachedSegments []) encoded split rfl unforged).mpr
    (by decide)

/-- With `USD0.` put before the signature, the receiver is given `50` for a signature over
`USD0.50`, which nobody forged.
-/
theorem detachedPayload_spliced
    : ∃ decoded token,
        (detachedDecode (ascii "USD0.") (ascii "50")).result = .ok decoded
        ∧ decoded.header.get? "b64" = some (.bool false)
        ∧ ¬VerifiedOver detachedEnv (detachedDecode (ascii "USD0.") (ascii "50")).log
          decoded.signature ((detachedSegments (ascii "USD0.")).header ++ dot :: ascii "50")
        ∧ detachedEncode.result = .ok token
        ∧ PyJWS.tokenBytes (.str token) = .ok (detachedSegments []).serialize
        ∧ AcceptsOnlySigned detachedEnv detachedEncode.log
          (detachedDecode (ascii "USD0.") (ascii "50")).log decoded.signature
        ∧ decoded.payload ≠ detachedPayload := by
  obtain ⟨decoded, returned, found, payload, unforged⟩ :=
    detachedDecode_eq_ok (.tail _ (.head _))
  obtain ⟨token, encoded, split⟩ := detachedEncode_eq_ok
  have received : PyJWS.tokenBytes (.bytes (detachedSegments (ascii "USD0.")).serialize)
      = .ok (detachedSegments (ascii "USD0.")).serialize := rfl
  obtain ⟨_, _, only⟩ := verifiedOver_rebuilt rfl returned found received
  refine ⟨decoded, token, returned, found, ?_, encoded, split, unforged, ?_⟩
  · intro h
    obtain ⟨handler, prepared, called, _⟩ := h
    have clean := ((detachedSegments (ascii "USD0.")).rebuilt_eq_iff (ascii "50")).mp
      (only _ _ _ _ called).symm
    exact clean (by decide)
  · rw [payload]
    decide

end PyJwt
