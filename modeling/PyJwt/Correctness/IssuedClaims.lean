import PyJwt.Correctness.IssuedTokens
import PyJwt.Correctness.JwtRoundTrip

/-! What claims a verified decode returns. The calls on claims are calls on the signature layer,
with the JSON text of the claims as their payload; what holds of those is carried over.
-/

namespace PyJwt

open Foundations
open Python

-----------------------------------------------------------------------------------------
-- The text that is signed
-----------------------------------------------------------------------------------------

namespace PyJWT

/-- A turn of the loop over the time claims leaves the normal claims as they are. -/
theorem normalClaims_convertTimeClaim {payload converted : Dict ClaimValue} {key : PyStr}
    (h : convertTimeClaim payload key = .ok converted)
    : normalClaims converted = normalClaims payload := by
  unfold convertTimeClaim at h
  split at h
  · rename_i value found
    obtain ⟨seconds, epoch, returned⟩ := outcome_bind_eq_ok.mp h
    obtain rfl := Except.ok.inj returned
    have floored : seconds = value.posixFloor := by
      unfold epochSeconds at epoch
      split at epoch
      · rename_i tuple converts
        exact (Except.ok.inj epoch).symm.trans (DateTime.timegm_utctimetuple converts)
      · cases epoch
    refine Dict.ext ?_
    simp only [normalClaims, Dict.mapValues, Dict.set_entries_of_get? found, List.map_map]
    refine List.map_congr_left ?_
    intro entry member
    obtain ⟨name, old⟩ := entry
    by_cases here : name = key
    · subst here
      have stored : payload.get? name = some old :=
        (getEntry_eq_some_iff payload.nodupKeys).mpr member
      cases found.symm.trans stored
      simp [ClaimValue.normalized, floored]
    · simp [here]
  · rw [Except.ok.inj h]

theorem normalClaims_convertTimeClaims {payload converted : Dict ClaimValue}
    (h : convertTimeClaims payload = .ok converted)
    : normalClaims converted = normalClaims payload := by
  obtain ⟨first, atExp, rest⟩ := outcome_bind_eq_ok.mp h
  obtain ⟨second, atIat, atNbf⟩ := outcome_bind_eq_ok.mp rest
  rw [normalClaims_convertTimeClaim atNbf, normalClaims_convertTimeClaim atIat,
    normalClaims_convertTimeClaim atExp]

/-- Entries that are dumped are normal. By induction on the entries. -/
theorem eq_of_claimEntries {entries : List (PyStr × ClaimValue)} {dumped : List (PyStr × Json)}
    (h : claimEntries entries = .ok dumped)
    : dumped = entries.map (fun entry => (entry.1, entry.2.normalized)) := by
  induction entries generalizing dumped with
  | nil => exact (Except.ok.inj h).symm
  | cons head rest ih =>
      obtain ⟨key, value⟩ := head
      obtain ⟨first, isJson, rest'⟩ := outcome_bind_eq_ok.mp h
      obtain ⟨more, areJson, returned⟩ := outcome_bind_eq_ok.mp rest'
      cases value with
      | datetime _ => cases isJson
      | json value =>
          cases isJson
          rw [← Except.ok.inj returned, ih areJson]
          rfl

variable {env : Env}

/-- The bytes that a payload is encoded to are the JSON text of its normal claims. -/
theorem dumps_of_encodePayload {payload : Dict ClaimValue} {data : Bytes}
    (h : encodePayload env payload = .ok data)
    : ∃ text,
        env.json.dumps true (normalClaims payload).toJson = .ok text
        ∧ text.encode = some data := by
  obtain ⟨entries, areEntries, rest⟩ := outcome_bind_eq_ok.mp h
  obtain ⟨text, dumps, encodes⟩ := outcome_bind_eq_ok.mp rest
  obtain rfl := eq_of_claimEntries areEntries
  refine ⟨text, dumps, ?_⟩
  unfold encodeStr at encodes
  split at encodes
  · rename_i found
    rw [found, Except.ok.inj encodes]
  · cases encodes

/-- What is prepared are claims that the caller's reference stands for, converted. -/
theorem of_preparePayloadClaims {heap : DictHeap} {payload : Option Nat}
    {prepared : Dict ClaimValue} (h : (preparePayloadClaims heap payload).2 = .ok prepared)
    : ∃ original,
        payload.bind (fun ref => heap[ref]?) = some original
        ∧ normalClaims prepared = normalClaims original := by
  unfold preparePayloadClaims at h
  split at h
  · cases h
  · rename_i original found
    refine ⟨original, found, ?_⟩
    split at h
    · cases h
    · rename_i converted converts
      split at h
      · cases h
      · obtain rfl := Except.ok.inj h
        exact normalClaims_convertTimeClaims converts

/-- An encode of claims is an encode of their JSON text. -/
theorem encode_run (jwt : PyJWT) (heap : DictHeap) (payload : Option Nat) (key : KeyArg)
    (algorithm : AlgorithmArg) (headers : Option (Dict Json)) (sortHeaders : Bool)
    : (jwt.encode env heap payload key algorithm headers sortHeaders).2
      = (do
          let data ←
            Traced.ofExcept ((preparePayloadClaims heap payload).2 >>= encodePayload env)
          jwt.jws.encode env data key algorithm headers false sortHeaders) := by
  simp only [encode, Traced.liftM_eq_ofExcept]
  cases prepares : (preparePayloadClaims heap payload).2 with
  | error _ => rfl
  | ok prepared => simp only [Traced.ofExcept_ok_bind, outcome_ok_bind]

end PyJWT

-----------------------------------------------------------------------------------------
-- Calls on claims
-----------------------------------------------------------------------------------------

/-- A call on the signature layer or on claims. The claims are those of `heap` at the reference.
-/
inductive TokenCall
  | signature (call : SignatureCall)
  | encode (jwt : PyJWT) (heap : PyJWT.DictHeap) (payload : Option Nat) (key : KeyArg)
      (algorithm : AlgorithmArg) (headers : Option (Dict Json)) (sortHeaders : Bool)
  | decode (jwt : PyJWT) (token : TextArg) (key : KeyArg) (algorithms : Option (List PyStr))
      (options : Option Options) (detachedPayload : Option Bytes) (expected : PyJWT.Expected)
      (now : Rat)

namespace TokenCall

/-- The call that is made on the signature layer, where the payload gets there. -/
def signatureCall? (env : Env) : TokenCall → Option SignatureCall
  | signature call => some call
  | encode jwt heap payload key algorithm headers sortHeaders =>
      match (PyJWT.preparePayloadClaims heap payload).2 >>= PyJWT.encodePayload env with
      | .ok data => some (.encode jwt.jws data key algorithm headers false sortHeaders)
      | .error _ => none
  | decode jwt token key algorithms options detachedPayload _ _ =>
      some (.decode jwt.jws token key algorithms (some (PyJWT.callSigOptions options))
        detachedPayload)

/-- The warnings and the calls of algorithms that the call makes. -/
def log (env : Env) : TokenCall → List Event
  | signature call => call.log env
  | encode jwt heap payload key algorithm headers sortHeaders =>
      (jwt.encode env heap payload key algorithm headers sortHeaders).2.log
  | decode jwt token key algorithms options detachedPayload expected now =>
      (jwt.decode env token key algorithms options detachedPayload expected now).log

/-- A call on claims does nothing but the call it makes on the signature layer. -/
theorem log_eq (env : Env) (call : TokenCall)
    : call.log env = ((call.signatureCall? env).map (SignatureCall.log env)).getD [] := by
  cases call with
  | signature call => rfl
  | decode jwt token key algorithms options detachedPayload expected now =>
      have decoded : (jwt.decode env token key algorithms options detachedPayload expected now).log
          = (jwt.decodeComplete env token key algorithms options detachedPayload expected now).log :=
        Traced.bind_log_of_silent (fun _ => rfl)
      exact decoded.trans PyJWT.decodeComplete_log
  | encode jwt heap payload key algorithm headers sortHeaders =>
      simp only [log, signatureCall?, PyJWT.encode_run]
      cases (PyJWT.preparePayloadClaims heap payload).2 >>= PyJWT.encodePayload env with
      | error _ => rfl
      | ok data => simp only [Traced.ofExcept_ok_bind, Option.map_some, Option.getD_some,
          SignatureCall.log]

/-- The JSON texts that the call writes read back. -/
def JsonInverts (env : Env) : TokenCall → Prop
  | signature call => call.HeaderInverts env
  | encode _ heap payload key algorithm headers sortHeaders =>
      PyJwt.JsonInverts env (PyJWS.emittedHeader algorithm key headers false sortHeaders)
      ∧ ∀ original,
          payload.bind (fun ref => heap[ref]?) = some original
          → PyJwt.JsonInverts env (normalClaims original)
  | decode .. => True

/-- The call returned the claims of a token, which the verifying key vouched for. -/
def Accepts (env : Env) (pair : TrustedPair) : TokenCall → Dict Json → Prop
  | call@(decode jwt token key algorithms options none expected now), claims =>
      (jwt.decode env token key algorithms options none expected now).result = .ok claims
      ∧ ∃ msg, pair.Verifies env (call.log env) msg
  | _, _ => False

/-- The call signed a token for the claims: as the claims of a caller, in their normal form, or as
their JSON text.
-/
def Issues (env : Env) (pair : TrustedPair) : TokenCall → Dict Json → Prop
  | call@(encode jwt heap payload key algorithm headers sortHeaders), claims =>
      (∃ token,
        (jwt.encode env heap payload key algorithm headers sortHeaders).2.result = .ok token)
      ∧ (∃ msg, pair.Signs env (call.log env) msg)
      ∧ ∃ original,
          payload.bind (fun ref => heap[ref]?) = some original ∧ claims = normalClaims original
  | call@(signature (.encode jws payload key algorithm headers isPayloadDetached sortHeaders)),
      claims =>
      (∃ token,
        (jws.encode env payload key algorithm headers isPayloadDetached sortHeaders).result
          = .ok token)
      ∧ (∃ msg, pair.Signs env (call.log env) msg)
      ∧ PyJWS.ReadsObject env payload claims
  | _, _ => False

-----------------------------------------------------------------------------------------
-- One call and the run
-----------------------------------------------------------------------------------------

variable {env : Env} {pair : TrustedPair}

/-- A call that signs makes a call on the signature layer that does. -/
theorem exists_signs {call : TokenCall} {msg : Bytes} (signs : pair.Signs env (call.log env) msg)
    : ∃ inner, call.signatureCall? env = some inner ∧ pair.Signs env (inner.log env) msg := by
  rw [log_eq] at signs
  cases found : call.signatureCall? env with
  | none =>
      rw [found] at signs
      cases signs.1
  | some inner =>
      rw [found] at signs
      exact ⟨inner, rfl, signs⟩

theorem JsonInverts.headerInverts {call : TokenCall} (h : call.JsonInverts env)
    {inner : SignatureCall} (found : call.signatureCall? env = some inner)
    : inner.HeaderInverts env := by
  cases call with
  | signature call =>
      cases found
      exact h
  | decode _ _ _ _ _ _ _ _ =>
      cases found
      trivial
  | encode jwt heap payload key algorithm headers sortHeaders =>
      simp only [signatureCall?] at found
      split at found
      · cases found
        exact h.1
      · cases found

/-- A content that is not detached was issued with its claims. -/
theorem issues_of_signatureCall {call : TokenCall} {inner : SignatureCall}
    (found : call.signatureCall? env = some inner) (inverts : call.JsonInverts env)
    {decoded : PyJWS.Decoded} (issues : inner.Issues env pair decoded)
    (attached : decoded.header.get? "b64" ≠ some (.bool false)) {claims : Dict Json}
    (reads : PyJWS.ReadsObject env decoded.payload claims)
    : call.Issues env pair claims := by
  have sameLog : call.log env = inner.log env := by
    rw [log_eq, found]
    rfl
  cases inner with
  | decode _ _ _ _ _ _ => exact absurd issues not_false
  | encode jws data key algorithm headers isPayloadDetached sortHeaders =>
      obtain ⟨⟨token, returned, _⟩, signs, covers⟩ := issues
      obtain rfl := covers.resolve_right (fun detached => attached detached.1)
      rw [← sameLog] at signs
      cases call with
      | decode _ _ _ _ _ _ _ _ => cases found
      | signature call =>
          cases found
          exact ⟨⟨token, returned⟩, signs, reads⟩
      | encode jwt heap payload key' algorithm' headers' sortHeaders' =>
          have run := @PyJWT.encode_run env jwt heap payload key' algorithm' headers' sortHeaders'
          simp only [signatureCall?] at found
          split at found
          · rename_i text isText
            cases found
            rw [isText, Traced.ofExcept_ok_bind] at run
            obtain ⟨prepared, prepares, encodes⟩ := outcome_bind_eq_ok.mp isText
            obtain ⟨original, given, same⟩ := PyJWT.of_preparePayloadClaims prepares
            refine ⟨⟨token, ?_⟩, signs, original, given, ?_⟩
            · rw [run]
              exact returned
            · obtain ⟨written, dumps, isData⟩ := PyJWT.dumps_of_encodePayload encodes
              obtain ⟨written', data, dumps', isData', loads⟩ := inverts.2 original given
              rw [same] at dumps
              obtain rfl := Except.ok.inj (dumps.symm.trans dumps')
              obtain rfl := Option.some.inj (isData.symm.trans isData')
              obtain ⟨value, loads', isClaims⟩ := reads
              obtain rfl := Except.ok.inj (loads'.symm.trans loads)
              exact Option.some.inj (isClaims.symm.trans (Dict.asDict?_toJson _))
          · cases found

/-- What a decode of claims accepts, its call on the signature layer does, with a payload that
reads as the claims and is not detached.
-/
theorem Accepts.signature {call : TokenCall} {claims : Dict Json}
    (accepts : call.Accepts env pair claims)
    : ∃ inner decoded,
        call.signatureCall? env = some inner
        ∧ inner.Accepts env pair decoded
        ∧ decoded.header.get? "b64" ≠ some (.bool false)
        ∧ PyJWS.ReadsObject env decoded.payload claims := by
  cases call with
  | signature _ => exact absurd accepts not_false
  | encode _ _ _ _ _ _ _ => exact absurd accepts not_false
  | decode jwt token key algorithms options detachedPayload expected now =>
      cases detachedPayload with
      | some _ => exact absurd accepts not_false
      | none =>
          obtain ⟨returned, msg, verifies⟩ := accepts
          rw [log_eq] at verifies
          obtain ⟨complete, decoded, rfl⟩ := PyJWT.decode_eq_ok.mp returned
          obtain ⟨inner, opened, reads, _⟩ := PyJWT.decodeComplete_eq_ok.mp decoded
          refine ⟨_, inner, rfl, ⟨opened, msg, verifies⟩, ?_, reads⟩
          intro unencoded
          obtain ⟨_, loaded, _, opens, header, _⟩ := PyJWS.decodeComplete_eq_ok.mp opened
          have content := opens.content
          rw [header] at unencoded
          simp only [PyJWS.signedContent, unencoded, Option.getD_some, Json.isFalse, if_true]
            at content
          cases content

/-- One more call accepts only claims that earlier calls issued. -/
theorem exists_issues {history : List TokenCall} {call : TokenCall}
    (unforged : ∀ msg,
      pair.Verifies env (call.log env) msg
      → ∃ earlier ∈ history, pair.Signs env (earlier.log env) msg)
    (inverts : ∀ earlier ∈ history, earlier.JsonInverts env) {claims : Dict Json}
    (accepts : call.Accepts env pair claims)
    : ∃ earlier ∈ history, earlier.Issues env pair claims := by
  obtain ⟨inner, decoded, found, innerAccepts, attached, reads⟩ := accepts.signature
  have innerUnforged : ∀ msg,
      pair.Verifies env (inner.log env) msg
      → ∃ earlier ∈ history.filterMap (signatureCall? env),
          pair.Signs env (earlier.log env) msg := by
    intro msg verifies
    rw [log_eq, found] at unforged
    obtain ⟨earlier, member, signs⟩ := unforged msg verifies
    obtain ⟨innerEarlier, isInner, innerSigns⟩ := exists_signs signs
    exact ⟨innerEarlier, List.mem_filterMap.mpr ⟨earlier, member, isInner⟩, innerSigns⟩
  have innerInverts : ∀ earlier ∈ history.filterMap (signatureCall? env),
      earlier.HeaderInverts env := by
    intro innerEarlier member
    obtain ⟨earlier, member, isInner⟩ := List.mem_filterMap.mp member
    exact (inverts earlier member).headerInverts isInner
  obtain ⟨innerEarlier, member, issues⟩ :=
    SignatureCall.exists_issues innerUnforged innerInverts innerAccepts
  obtain ⟨earlier, member, isInner⟩ := List.mem_filterMap.mp member
  exact ⟨earlier, member,
    issues_of_signatureCall isInner (inverts earlier member) issues attached reads⟩

end TokenCall

/-- The two segments of the token of `roundTripClaims` that the key `kk` signs. -/
def issuedInput : Bytes :=
  ascii "eyJhbGciOiJIUzI1NiIsInR5cCI6IkpXVCJ9.eyJpc3MiOiJqb2UiLCJleHAiOjM2MDB9"

def issuedToken : Bytes := issuedInput ++ dot :: base64urlEncode claimsDigest

end PyJwt
