import PyJwt.Correctness.CompactTokens
import PyJwt.Implementation.SigningKeyCache

/-! The spellings of a token. A signature covers the bytes before the last separator and not those
behind it, which are decoded leniently; so a token has many spellings that are all taken for it.
-/

namespace PyJwt

open Foundations
open Python

variable {env : Env}

-----------------------------------------------------------------------------------------
-- Segments
-----------------------------------------------------------------------------------------

/-- What the decoder reads of a segment. -/
def spelling (segment : Bytes) : Bytes :=
  (segment.map Base64.ofUrlSafe).filter Base64.isRead

theorem urlsafeDecode_eq (segment : Bytes)
    : Base64.urlsafeDecode segment = Base64.decode (spelling segment) :=
  (Base64.decodeFrom_filter _ 0 0 0).symm

/-- Segments with one spelling decode alike, if their lengths ask for the same padding. -/
theorem base64urlDecode_of_spelling {left right : Bytes} (same : spelling left = spelling right)
    (padding : left.length % 4 = right.length % 4)
    : base64urlDecode (.bytes left) = base64urlDecode (.bytes right) := by
  have padded (more : Bytes)
      : urlsafeB64decode (left ++ more) = urlsafeB64decode (right ++ more) := by
    have spelled : spelling (left ++ more) = spelling (right ++ more) := by
      unfold spelling at same ⊢
      rw [List.map_append, List.map_append, List.filter_append, List.filter_append, same]
    unfold urlsafeB64decode
    rw [urlsafeDecode_eq, urlsafeDecode_eq, spelled]
  have plain := padded []
  rw [List.append_nil, List.append_nil] at plain
  simp only [base64urlDecode, forceBytes, outcome_ok_bind, padding]
  split
  · exact padded _
  · exact plain

/-- Bytes that are dropped change no spelling. -/
theorem spelling_append_dropped {segment dropped : Bytes}
    (h : ∀ byte ∈ dropped, Base64.isRead (Base64.ofUrlSafe byte) = false)
    : spelling (segment ++ dropped) = spelling segment := by
  have none : (dropped.map Base64.ofUrlSafe).filter Base64.isRead = [] := by
    rw [List.filter_eq_nil_iff]
    intro byte member
    obtain ⟨plain, inner, rfl⟩ := List.mem_map.mp member
    simp [h plain inner]
  unfold spelling
  rw [List.map_append, List.filter_append, none, List.append_nil]

-----------------------------------------------------------------------------------------
-- Tokens
-----------------------------------------------------------------------------------------

/-- Whatever is asked of the one token and of the other, the answers and the calls of algorithms
are the same.
-/
structure SameToken (env : Env) (token respelled : TextArg) : Prop where
  signature : ∀ (jws : PyJWS) key algorithms options detachedPayload,
    jws.decodeComplete env respelled key algorithms options detachedPayload
    = jws.decodeComplete env token key algorithms options detachedPayload
  claims : ∀ (jwt : PyJWT) key algorithms options detachedPayload expected now,
    jwt.decode env respelled key algorithms options detachedPayload expected now
    = jwt.decode env token key algorithms options detachedPayload expected now
  header : PyJWS.getUnverifiedHeader env respelled = PyJWS.getUnverifiedHeader env token
  lookup : ∀ decoder now first second,
    KeyCachingClient.getSigningKeyFromJwt env decoder respelled now first second
    = KeyCachingClient.getSigningKeyFromJwt env decoder token now first second

/-- Tokens that load alike are the same. -/
theorem sameToken_of_load {token respelled : TextArg}
    (same : PyJWS.load env respelled = PyJWS.load env token)
    : SameToken env token respelled := by
  have signature (jws : PyJWS) (key : KeyArg) (algorithms : Option (List PyStr))
      (options : Option SigOptions) (detachedPayload : Option Bytes)
      : jws.decodeComplete env respelled key algorithms options detachedPayload
        = jws.decodeComplete env token key algorithms options detachedPayload := by
    simp only [PyJWS.decodeComplete, same]
  have complete (jwt : PyJWT) (key : KeyArg) (algorithms : Option (List PyStr))
      (options : Option Options) (detachedPayload : Option Bytes) (expected : PyJWT.Expected)
      (now : Rat)
      : jwt.decodeComplete env respelled key algorithms options detachedPayload expected now
        = jwt.decodeComplete env token key algorithms options detachedPayload expected now := by
    simp only [PyJWT.decodeComplete, signature]
  refine ⟨signature, ?_, ?_, ?_⟩
  · intro jwt key algorithms options detachedPayload expected now
    simp only [PyJWT.decode, complete]
  · simp only [PyJWS.getUnverifiedHeader, same]
  · intro decoder now first second
    simp only [KeyCachingClient.getSigningKeyFromJwt, complete]

variable {segments respelled : Segments}

/-- The signing input has one header segment in it, and one payload segment. -/
theorem Segments.eq_of_signingInput (input : respelled.signingInput = segments.signingInput)
    : respelled.header = segments.header ∧ respelled.payload = segments.payload := by
  have split := congrArg (splitFirst dot) input
  rw [Segments.signingInput, Segments.signingInput, splitFirst_append respelled.headerClean,
    splitFirst_append segments.headerClean] at split
  exact Prod.mk.inj (Option.some.inj split)

theorem Segments.splitToken_serialize (segments : Segments)
    : PyJWS.splitToken segments.serialize
      = .ok (segments.signingInput, segments.header, segments.payload, segments.crypto) :=
  splitToken_eq_ok_iff.mpr ⟨segments, rfl, rfl, rfl, rfl, rfl⟩

/-- With one signing input, tokens load alike if their signatures decode alike. -/
theorem load_of_signature (input : respelled.signingInput = segments.signingInput)
    (decodes : base64urlDecode (.bytes respelled.crypto)
      = base64urlDecode (.bytes segments.crypto))
    : PyJWS.load env (.bytes respelled.serialize)
      = PyJWS.load env (.bytes segments.serialize) := by
  obtain ⟨sameHeader, samePayload⟩ := Segments.eq_of_signingInput input
  simp only [PyJWS.load, PyJWS.tokenBytes, outcome_ok_bind, Segments.splitToken_serialize, input,
    sameHeader, samePayload, PyJWS.decodeSegment, decodes]

/-- A longer token with the same signing input, and with bytes that are dropped at its end. -/
theorem Segments.exists_longer (segments : Segments) (bound : Nat)
    : ∃ respelled : Segments,
        bound < respelled.serialize.length
        ∧ respelled.signingInput = segments.signingInput
        ∧ base64urlDecode (.bytes respelled.crypto)
          = base64urlDecode (.bytes segments.crypto) := by
  -- Exclamation marks, as many as keep the padding that the length asks for.
  let dropped : Bytes := List.replicate (4 * (bound + 1)) 33
  have isDropped : ∀ byte ∈ dropped, Base64.isRead (Base64.ofUrlSafe byte) = false := by
    intro byte member
    rw [List.eq_of_mem_replicate member]
    decide
  have clean : dot ∉ segments.crypto ++ dropped := by
    intro member
    rcases List.mem_append.mp member with inside | isMark
    · exact segments.cryptoClean inside
    · exact absurd (List.eq_of_mem_replicate isMark) (by decide)
  have length : dropped.length = 4 * (bound + 1) := List.length_replicate
  refine ⟨{ segments with crypto := segments.crypto ++ dropped, cryptoClean := clean }, ?_, rfl,
    base64urlDecode_of_spelling (spelling_append_dropped isDropped) ?_⟩
  · simp only [Segments.serialize, List.length_append, List.length_cons, length]
    omega
  · rw [List.length_append, length]
    omega

/-- A token that some decode returns for, verified or not, is taken for every token with the same
signing input and the same signature, however that is spelled, and for no other with the same
signing input. It has such spellings of any length.
-/
theorem sameToken_iff {jws : PyJWS} {key : KeyArg} {algorithms : Option (List PyStr)}
    {options : Option SigOptions} {detachedPayload : Option Bytes} {decoded : PyJWS.Decoded}
    (returned : (jws.decodeComplete env (.bytes segments.serialize) key algorithms options
        detachedPayload).result
      = .ok decoded)
    : (∀ respelled : Segments,
        respelled.signingInput = segments.signingInput
        → (SameToken env (.bytes segments.serialize) (.bytes respelled.serialize)
          ↔ base64urlDecode (.bytes respelled.crypto)
            = base64urlDecode (.bytes segments.crypto)))
      ∧ ∀ bound, ∃ respelled : Segments,
          bound < respelled.serialize.length
          ∧ respelled.signingInput = segments.signingInput
          ∧ SameToken env (.bytes segments.serialize) (.bytes respelled.serialize) := by
  have decodes {other : Segments}
      (returned : (jws.decodeComplete env (.bytes other.serialize) key algorithms options
          detachedPayload).result
        = .ok decoded)
      : base64urlDecode (.bytes other.crypto) = .ok decoded.signature := by
    obtain ⟨found, loaded, _, opens, _, signature, _⟩ := PyJWS.decodeComplete_eq_ok.mp returned
    have token := Except.ok.inj opens.loads.token
    obtain rfl : other = found := Segments.serialize_injective token
    rw [signature]
    exact opens.loads.signature
  refine ⟨?_, ?_⟩
  · intro respelled input
    constructor
    · intro same
      have returned' := returned
      rw [← same.signature] at returned'
      exact (decodes returned').trans (decodes returned).symm
    · intro sameSignature
      exact sameToken_of_load (load_of_signature input sameSignature)
  · intro bound
    obtain ⟨respelled, longer, input, sameSignature⟩ := segments.exists_longer bound
    exact ⟨respelled, longer, input, sameToken_of_load (load_of_signature input sameSignature)⟩

/-- A token that verifies has a spelling of more than a thousand bytes. -/
theorem sameToken_iff_signed
    : ∃ respelled : Bytes,
        1000 < respelled.length ∧ SameToken digestEnv (.bytes signedToken) (.bytes respelled) := by
  obtain ⟨decoded, returned, _⟩ := of_returnsWith
    (by decide +kernel : returnsWith (fun _ => true)
      ((PyJWS.init digestEnv none none).decodeComplete digestEnv (.bytes signedToken)
        (.raw (.bytes (ascii "kk"))) (some ["HS256"]) none none).result = true)
  let segments : Segments := {
    header := ascii "eyJhbGciOiJIUzI1NiJ9"
    payload := ascii "e30"
    crypto := ascii "a1UISXLCG8J29aZsHVhjdFGnOYcs9Ma_2_3x7aQU9W4"
    headerClean := by decide +kernel
    cryptoClean := by decide +kernel
  }
  have token : signedToken = segments.serialize := by decide +kernel
  rw [token] at returned ⊢
  obtain ⟨respelled, longer, _, same⟩ := (sameToken_iff returned).2 1000
  exact ⟨respelled.serialize, longer, same⟩

end PyJwt
