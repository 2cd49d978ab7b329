import PyJwt.Correctness.EmittedHeader
import PyJwt.Foundations.History

/-! What a verified decode returns was issued. Calls follow one another in any order, on any
instances and any tokens. A key pair is trusted in one thing: its verifying key accepts no
message that was not signed before.
-/

namespace PyJwt

open Foundations
open Python

/-- The two halves of a key, as a handler has prepared them. -/
structure TrustedPair where
  handler : Algorithm
  signing : Key
  verifying : Key

namespace TrustedPair

/-- The message was signed with the signing key. -/
def Signs (pair : TrustedPair) (env : Env) (log : List Event) (msg : Bytes) : Prop :=
  Event.sign pair.handler msg pair.signing ∈ log
  ∧ ∃ signature, pair.handler.sign env msg pair.signing = .ok signature

/-- A signature of the message was checked, and the verifying key accepts it. -/
def Verifies (pair : TrustedPair) (env : Env) (log : List Event) (msg : Bytes) : Prop :=
  ∃ signature,
    Event.verify pair.handler msg pair.verifying signature ∈ log
    ∧ pair.handler.verify env msg pair.verifying signature = .ok true

end TrustedPair

/-- Calls one after another. Each may be any call, except that a message which the verifying key
accepts was signed in an earlier one.
-/
inductive Exchange {α : Type} (env : Env) (pair : TrustedPair) (log : α → List Event)
    : List α → Prop
  | nil : Exchange env pair log []
  | step {history : List α} {call : α} (run : Exchange env pair log history)
      (unforged
        : ∀ msg,
            pair.Verifies env (log call) msg
            → ∃ earlier ∈ history, pair.Signs env (log earlier) msg)
      : Exchange env pair log (history ++ [call])

/-- A call on some instance, by whoever makes it. -/
inductive SignatureCall
  | encode (jws : PyJWS) (payload : Bytes) (key : KeyArg) (algorithm : AlgorithmArg)
      (headers : Option (Dict Json)) (isPayloadDetached sortHeaders : Bool)
  | decode (jws : PyJWS) (jwt : TextArg) (key : KeyArg) (algorithms : Option (List PyStr))
      (options : Option SigOptions) (detachedPayload : Option Bytes)

namespace SignatureCall

/-- The warnings and the calls of algorithms that the call makes. -/
def log (env : Env) : SignatureCall → List Event
  | encode jws payload key algorithm headers isPayloadDetached sortHeaders =>
      (jws.encode env payload key algorithm headers isPayloadDetached sortHeaders).log
  | decode jws jwt key algorithms options detachedPayload =>
      (jws.decodeComplete env jwt key algorithms options detachedPayload).log

/-- The JSON text of the header that the call emits reads back. -/
def HeaderInverts (env : Env) : SignatureCall → Prop
  | encode _ _ key algorithm headers isPayloadDetached sortHeaders =>
      JsonInverts env
        (PyJWS.emittedHeader algorithm key headers isPayloadDetached sortHeaders)
  | decode .. => True

/-- The call returned the content, which the verifying key vouched for. -/
def Accepts (env : Env) (pair : TrustedPair) : SignatureCall → PyJWS.Decoded → Prop
  | encode .., _ => False
  | call@(decode jws jwt key algorithms options detachedPayload), decoded =>
      (jws.decodeComplete env jwt key algorithms options detachedPayload).result = .ok decoded
      ∧ ∃ msg, pair.Verifies env (call.log env) msg

/-- The signed payload is the one that was returned. A payload that is not in the token may have
been cut at a separator, and its front half moved into the token.
-/
def Covers (signed : Bytes) (decoded : PyJWS.Decoded) : Prop :=
  signed = decoded.payload
  ∨ decoded.header.get? "b64" = some (.bool false)
    ∧ ∃ left, signed = left ++ dot :: decoded.payload

/-- The call signed a token with that header, for a payload that covers the content. -/
def Issues (env : Env) (pair : TrustedPair) : SignatureCall → PyJWS.Decoded → Prop
  | call@(encode jws payload key algorithm headers isPayloadDetached sortHeaders), decoded =>
      (∃ token,
        (jws.encode env payload key algorithm headers isPayloadDetached sortHeaders).result
            = .ok token
          ∧ PyJWS.getUnverifiedHeader env (.str token) = .ok decoded.header)
      ∧ (∃ msg, pair.Signs env (call.log env) msg)
      ∧ Covers payload decoded
  | decode .., _ => False

end SignatureCall

-----------------------------------------------------------------------------------------
-- Signed bytes
-----------------------------------------------------------------------------------------

/-- Only one header segment stands in front of the first separator of signed bytes. -/
theorem header_of_signedBytes {header rest data payload : Bytes} {detached : Bool}
    (clean : dot ∉ header) (h : header ++ dot :: rest = signedBytes data detached payload)
    : header = base64urlEncode data ∧ rest = payloadSegment detached payload := by
  have split := congrArg (splitFirst dot) h
  rw [splitFirst_append clean, signedBytes,
    splitFirst_append (dot_not_mem_base64urlEncode data)] at split
  exact Prod.mk.inj (Option.some.inj split)

namespace PyJWS

variable {env : Env} {jws : PyJWS} {payload : Bytes} {key : KeyArg} {algorithm : AlgorithmArg}
  {headers : Option (Dict Json)} {isPayloadDetached sortHeaders : Bool}

/-- The emitted header has a false `b64` exactly when the payload is detached. -/
theorem emittedHeader_b64
    : (emittedHeader algorithm key headers isPayloadDetached sortHeaders).get? "b64"
      = if (resolveAlgorithm algorithm key headers isPayloadDetached).2 then
          some (.bool false)
        else none := by
  rw [emittedHeader, Dict.get?_dumped]
  unfold adjustHeader
  cases (resolveAlgorithm algorithm key headers isPayloadDetached).2 <;> simp

/-- What an encode signed, when its header reads back: a header that is the emitted one, in front
of the payload.
-/
theorem signed_of_encode {handler : Algorithm} {msg : Bytes} {signing : Key}
    (inverts : JsonInverts env
      (emittedHeader algorithm key headers isPayloadDetached sortHeaders))
    (called : Event.sign handler msg signing
      ∈ (jws.encode env payload key algorithm headers isPayloadDetached sortHeaders).log)
    {signature : Bytes} (signs : handler.sign env msg signing = .ok signature)
    : ∃ data token loaded,
        ReadsObject env data
            (emittedHeader algorithm key headers isPayloadDetached sortHeaders)
          ∧ msg
            = signedBytes data
                (resolveAlgorithm algorithm key headers isPayloadDetached).2 payload
          ∧ (jws.encode env payload key algorithm headers isPayloadDetached
              sortHeaders).result
            = .ok token
          ∧ load env (.str token) = .ok loaded
          ∧ loaded.header
            = emittedHeader algorithm key headers isPayloadDetached sortHeaders := by
  obtain ⟨alg, detached, header, data, handler', settles, warned | ⟨_, prepares, length, same⟩⟩ :=
    mem_encode_log.mp called
  · obtain ⟨message, impossible⟩ := prepareSigningKey_logs jws handler' key _ warned
    cases impossible
  · cases same
    have returned := encode_eq_ok.mpr
      ⟨_, _, _, _, _, _, _, settles, prepares, length, signs, rfl⟩
    obtain ⟨loaded, loads, isHeader⟩ := (carriesHeader_of_encode returned).2.read inverts
    obtain rfl := eq_adjustHeader_of_buildHeader settles.built
    obtain ⟨text, dumps, encodes⟩ := dumpHeader_eq_ok.mp settles.dumped
    rw [← emittedHeader_eq settles.resolved] at dumps
    obtain ⟨text', data', dumps', encodes', reads⟩ := inverts
    obtain rfl := Except.ok.inj (dumps.symm.trans dumps')
    obtain rfl := Option.some.inj (encodes.symm.trans encodes')
    refine ⟨data, _, loaded, ⟨_, reads, Dict.asDict?_toJson _⟩, ?_, returned, loads, isHeader⟩
    rw [settles.resolved]

/-- An encode verifies nothing. -/
theorem verify_not_mem_encode_log {handler : Algorithm} {msg sig : Bytes} {verifying : Key}
    : Event.verify handler msg verifying sig
      ∉ (jws.encode env payload key algorithm headers isPayloadDetached sortHeaders).log := by
  intro called
  obtain ⟨_, _, _, _, _, _, warned | ⟨_, _, _, same⟩⟩ := mem_encode_log.mp called
  · obtain ⟨message, impossible⟩ := prepareSigningKey_logs jws _ key _ warned
    cases impossible
  · cases same

/-- A decode signs nothing. -/
theorem sign_not_mem_decodeComplete_log {jwt : TextArg} {algorithms : Option (List PyStr)}
    {options : Option SigOptions} {detachedPayload : Option Bytes} {handler : Algorithm}
    {msg : Bytes} {signing : Key}
    : Event.sign handler msg signing
      ∉ (jws.decodeComplete env jwt key algorithms options detachedPayload).log := by
  intro called
  obtain ⟨_, _, _, _, _, _, _, member⟩ := mem_decodeComplete_log.mp called
  obtain ⟨_, _, _, _, warned | ⟨_, _, _, same⟩⟩ := mem_verifySignature_log.mp member
  · obtain ⟨message, impossible⟩ := prepareSigningKey_logs jws _ key _ warned
    cases impossible
  · cases same

end PyJWS

-----------------------------------------------------------------------------------------
-- One call and the run
-----------------------------------------------------------------------------------------

namespace SignatureCall

variable {env : Env} {pair : TrustedPair}

/-- What a decode accepts, it accepts by the message that the token stands for. -/
theorem Accepts.opens {jws : PyJWS} {jwt : TextArg} {key : KeyArg}
    {algorithms : Option (List PyStr)} {options : Option SigOptions}
    {detachedPayload : Option Bytes} {decoded : PyJWS.Decoded}
    (accepts : (decode jws jwt key algorithms options detachedPayload).Accepts env pair decoded)
    : ∃ segments loaded msg,
        PyJWS.Opens env jwt detachedPayload segments loaded decoded.payload msg
        ∧ decoded.header = loaded.header
        ∧ pair.Verifies env ((decode jws jwt key algorithms options detachedPayload).log env) msg := by
  obtain ⟨returned, msg, signature, called, verifies⟩ := accepts
  obtain ⟨segments, loaded, signingInput, opens, header, _⟩ :=
    PyJWS.decodeComplete_eq_ok.mp returned
  obtain rfl := (PyJWS.verify_mem_decodeComplete_log opens called).1
  exact ⟨segments, loaded, msg, opens, header, signature, called, verifies⟩

/-- A token that opens over signed bytes has the header that was signed, and its content is
covered by the payload that was signed.
-/
theorem covers_of_opens {jwt : TextArg} {detachedPayload : Option Bytes} {segments : Segments}
    {loaded : PyJWS.Loaded} {data payload signed : Bytes} {detached : Bool} {header : Dict Json}
    (opens : PyJWS.Opens env jwt detachedPayload segments loaded payload
      (signedBytes data detached signed))
    (reads : PyJWS.ReadsObject env data header)
    (b64 : header.get? "b64" = if detached then some (.bool false) else none) (signature : Bytes)
    : loaded.header = header ∧ Covers signed ⟨payload, loaded.header, signature⟩ := by
  have sameHeader (isData : segments.header = base64urlEncode data) : loaded.header = header := by
    obtain ⟨data', decodes, readsLoaded⟩ := opens.loads.header
    rw [isData, base64urlDecode_encode] at decodes
    cases decodes
    exact readsLoaded.unique reads
  by_cases unencoded : loaded.header.get? "b64" = some (.bool false)
  · -- The payload is given beside the token, and the signed bytes are rebuilt around it.
    cases detachedPayload with
    | none =>
        have content := opens.content
        simp only [PyJWS.signedContent, unencoded, Option.getD_some, Json.isFalse, if_true]
          at content
        cases content
    | some given =>
        obtain ⟨rfl, rebuilt⟩ := Prod.mk.inj (Except.ok.inj (opens.content.symm.trans
          (PyJWS.signedContent_detached opens.loads.signingInput unencoded given)))
        have isDetached (isData : segments.header = base64urlEncode data) : detached = true := by
          rw [sameHeader isData, b64] at unencoded
          by_contra attached
          simp [attached] at unencoded
        rcases segments.rebuiltPrefix_cases with ⟨_, same⟩ | ⟨_, left, longer⟩
        · rw [same] at rebuilt
          obtain ⟨isData, isPayload⟩ := header_of_signedBytes segments.headerClean rebuilt.symm
          rw [isDetached isData] at isPayload
          exact ⟨sameHeader isData, Or.inl isPayload.symm⟩
        · rw [longer, List.append_assoc, List.cons_append] at rebuilt
          obtain ⟨isData, isPayload⟩ := header_of_signedBytes segments.headerClean rebuilt.symm
          rw [isDetached isData] at isPayload
          exact ⟨sameHeader isData, Or.inr ⟨unencoded, left, isPayload.symm⟩⟩
  · -- The payload is in the token, and the signed bytes are those before the last separator.
    obtain ⟨rfl, signingInput⟩ := Prod.mk.inj (Except.ok.inj (opens.content.symm.trans
      (PyJWS.signedContent_attached detachedPayload unencoded)))
    rw [opens.loads.signingInput] at signingInput
    obtain ⟨isData, isPayload⟩ := header_of_signedBytes segments.headerClean signingInput.symm
    have isAttached : detached = false := by
      rw [sameHeader isData, b64] at unencoded
      by_contra isDetached
      simp [isDetached] at unencoded
    have decodes := opens.loads.payload
    rw [isPayload, isAttached] at decodes
    have same : base64urlDecode (.bytes (base64urlEncode signed)) = .ok signed :=
      base64urlDecode_encode signed
    exact ⟨sameHeader isData, Or.inl (Except.ok.inj (same.symm.trans decodes))⟩

/-- What a token opens on, the call that signed its message issued. -/
theorem issues_of_signs {jwt : TextArg} {detachedPayload : Option Bytes} {segments : Segments}
    {loaded : PyJWS.Loaded} {decoded : PyJWS.Decoded} {msg : Bytes}
    (opens : PyJWS.Opens env jwt detachedPayload segments loaded decoded.payload msg)
    (header : decoded.header = loaded.header) {earlier : SignatureCall}
    (signs : pair.Signs env (earlier.log env) msg) (inverts : earlier.HeaderInverts env)
    : earlier.Issues env pair decoded := by
  have signed := signs
  obtain ⟨called, signature, made⟩ := signs
  cases earlier with
  | decode _ _ _ _ _ _ => exact absurd called PyJWS.sign_not_mem_decodeComplete_log
  | encode jws payload key algorithm headers isPayloadDetached sortHeaders =>
      obtain ⟨data, token, tokenLoaded, reads, rfl, returned, loads, isHeader⟩ :=
        PyJWS.signed_of_encode inverts called made
      obtain ⟨sameHeader, covers⟩ :=
        covers_of_opens opens reads PyJWS.emittedHeader_b64 decoded.signature
      rw [← header] at sameHeader covers
      refine ⟨⟨token, returned, ?_⟩, ⟨_, signed⟩, covers⟩
      rw [sameHeader, ← isHeader, PyJWS.getUnverifiedHeader_eq_ok loads, isHeader, ← sameHeader,
        header]
      exact opens.valid

/-- One more call accepts only what earlier calls issued. -/
theorem exists_issues {history : List SignatureCall} {call : SignatureCall}
    (unforged : ∀ msg,
      pair.Verifies env (call.log env) msg
      → ∃ earlier ∈ history, pair.Signs env (earlier.log env) msg)
    (inverts : ∀ earlier ∈ history, earlier.HeaderInverts env) {decoded : PyJWS.Decoded}
    (accepts : call.Accepts env pair decoded)
    : ∃ earlier ∈ history, earlier.Issues env pair decoded := by
  cases call with
  | encode _ _ _ _ _ _ _ => exact absurd accepts not_false
  | decode _ _ _ _ _ _ =>
      obtain ⟨segments, loaded, msg, opens, header, verifies⟩ := accepts.opens
      obtain ⟨earlier, member, signs⟩ := unforged msg verifies
      exact ⟨earlier, member, issues_of_signs opens header signs (inverts earlier member)⟩

end SignatureCall

/-- In every exchange, whatever a verified decode returns was issued in an earlier call: under the
header that is returned, and for the payload that is returned, or a detached payload that ends
with it behind a separator. By induction on the calls.
-/
theorem Exchange.issued {env : Env} {pair : TrustedPair} {history : List SignatureCall}
    (run : Exchange env pair (SignatureCall.log env) history)
    (inverts : ∀ call ∈ history, call.HeaderInverts env)
    : Throughout
        (fun before call => ∀ decoded : PyJWS.Decoded,
          call.Accepts env pair decoded
          → ∃ earlier ∈ before, earlier.Issues env pair decoded)
        history := by
  induction run with
  | nil => exact throughout_nil _
  | @step history call _ unforged ih =>
      have before : ∀ earlier ∈ history, earlier.HeaderInverts env :=
        fun earlier member => inverts earlier (List.mem_append_left _ member)
      refine throughout_concat.mpr ⟨ih before, ?_⟩
      intro decoded accepts
      exact SignatureCall.exists_issues unforged before accepts

-----------------------------------------------------------------------------------------
-- A spliced token
-----------------------------------------------------------------------------------------

/-- Every `verify` of the log is of that message. -/
def verifiesOnly (msg : Bytes) (log : List Event) : Bool :=
  log.all (fun event =>
    match event with
    | .verify _ asked _ _ => asked = msg
    | _ => true)

/-- The key `kk` signs the message with HMAC-SHA256 in the log. -/
def signsWithSecret (msg : Bytes) (log : List Event) : Bool :=
  log.any (fun event =>
    match event with
    | .sign (.hmac ⟨.sha256⟩) signed (.bytes key) => signed = msg && key = ascii "kk"
    | _ => false)

/-- The key `kk` verifies that signature of the message with HMAC-SHA256 in the log. -/
def checksWithSecret (msg sig : Bytes) (log : List Event) : Bool :=
  log.any (fun event =>
    match event with
    | .verify (.hmac ⟨.sha256⟩) asked (.bytes key) signature =>
        asked = msg && (key = ascii "kk" && signature = sig)
    | _ => false)

def secretPair : TrustedPair := ⟨.hmac ⟨.sha256⟩, .bytes (ascii "kk"), .bytes (ascii "kk")⟩

theorem signs_of_signsWithSecret {hmacDigest : HashAlg → (key msg : Bytes) → Bytes}
    {msg : Bytes} {log : List Event} (h : signsWithSecret msg log = true)
    : secretPair.Signs (.withoutCryptography hmacDigest) log msg := by
  obtain ⟨event, member, isSign⟩ := List.any_eq_true.mp h
  split at isSign
  · rw [Bool.and_eq_true, decide_eq_true_eq, decide_eq_true_eq] at isSign
    obtain ⟨rfl, rfl⟩ := isSign
    exact ⟨member, _, rfl⟩
  · cases isSign

theorem verifies_of_checksWithSecret {hmacDigest : HashAlg → (key msg : Bytes) → Bytes}
    {msg sig : Bytes} {log : List Event} (h : checksWithSecret msg sig log = true)
    (digest : sig = hmacDigest .sha256 (ascii "kk") msg)
    : secretPair.Verifies (.withoutCryptography hmacDigest) log msg := by
  obtain ⟨event, member, isVerify⟩ := List.any_eq_true.mp h
  split at isVerify
  · simp only [Bool.and_eq_true, decide_eq_true_eq] at isVerify
    obtain ⟨rfl, rfl, rfl⟩ := isVerify
    exact ⟨_, member, congrArg Except.ok (decide_eq_true digest)⟩
  · cases isVerify

/-- A signer and a receiver of one message are an exchange. -/
theorem exchange_pair {α : Type} {hmacDigest : HashAlg → (key msg : Bytes) → Bytes}
    {log : α → List Event} {signer receiver : α} (msg : Bytes)
    (silent : ∀ asked, ¬secretPair.Verifies (.withoutCryptography hmacDigest) (log signer) asked)
    (signs : signsWithSecret msg (log signer) = true)
    (verifies : verifiesOnly msg (log receiver) = true)
    : Exchange (.withoutCryptography hmacDigest) secretPair log [signer, receiver] := by
  have first : Exchange (.withoutCryptography hmacDigest) secretPair log [signer] :=
    .step .nil (fun asked verified => absurd verified (silent asked))
  refine first.step ?_
  intro asked verified
  obtain ⟨signature, member, _⟩ := verified
  have same := of_decide_eq_true (List.all_eq_true.mp verifies _ member)
  rw [same]
  exact ⟨signer, List.mem_singleton_self signer, signs_of_signsWithSecret signs⟩

/-- The signer's call, with the payload detached. -/
def signerCall : SignatureCall :=
  .encode (PyJWS.init detachedEnv none none) detachedPayload (.raw (.bytes (ascii "kk")))
    (.name "HS256") none true true

/-- The receiver's call, for the payload `50` and a token with `USD0.` in its middle. -/
def receiverCall : SignatureCall :=
  .decode (PyJWS.init detachedEnv none none)
    (.bytes (detachedSegments (ascii "USD0.")).serialize) (.raw (.bytes (ascii "kk")))
    (some ["HS256"]) none (some (ascii "50"))

/-- The receiver is given `50`, for a signature over `USD0.50`. -/
theorem receiverCall_accepts
    : ∃ decoded,
        receiverCall.Accepts detachedEnv secretPair decoded ∧ decoded.payload = ascii "50" := by
  obtain ⟨decoded, returned, payload⟩ := of_returnsWith
    (by decide +kernel : returnsWith (fun decoded => decoded.payload = ascii "50")
      (detachedDecode (ascii "USD0.") (ascii "50")).result = true)
  have checks : checksWithSecret (detachedHeader ++ dot :: detachedPayload) detachedDigest
      (receiverCall.log detachedEnv) = true := by
    decide +kernel
  exact ⟨decoded, ⟨returned, _, verifies_of_checksWithSecret checks (if_pos rfl).symm⟩,
    of_decide_eq_true payload⟩

/-- What the receiver is given, the signer issued: the end of a detached payload. -/
theorem Exchange.issued_spliced
    : ∃ decoded,
        receiverCall.Accepts detachedEnv secretPair decoded
        ∧ decoded.payload = ascii "50"
        ∧ ∃ earlier ∈ [signerCall], earlier.Issues detachedEnv secretPair decoded := by
  have exchange : Exchange detachedEnv secretPair (SignatureCall.log detachedEnv)
      [signerCall, receiverCall] :=
    exchange_pair (detachedHeader ++ dot :: detachedPayload)
      (fun _ verified => by
        obtain ⟨_, member, _⟩ := verified
        exact PyJWS.verify_not_mem_encode_log member)
      (by decide +kernel) (by decide +kernel)
  have inverts : ∀ call ∈ [signerCall, receiverCall], call.HeaderInverts detachedEnv := by
    intro call member
    simp only [List.mem_cons, List.not_mem_nil, or_false] at member
    rcases member with rfl | rfl
    · exact jsonInverts_withoutCryptography (by decide +kernel) (by decide +kernel)
    · trivial
  obtain ⟨decoded, accepts, payload⟩ := receiverCall_accepts
  exact ⟨decoded, accepts, payload,
    exchange.issued inverts [signerCall] receiverCall [] rfl decoded accepts⟩

end PyJwt
