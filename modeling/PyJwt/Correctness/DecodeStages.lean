import PyJwt.Implementation.ApiJwt

/-! What each stage of a decode did when it returned. A token that loads is three segments,
of which the first and the last hold no separator; every later result is stated over them.
-/

namespace PyJwt

open Foundations
open Python

-----------------------------------------------------------------------------------------
-- Tokens as segments
-----------------------------------------------------------------------------------------

/-- A token cut at its first and its last separator. The middle segment of a malformed token
may hold further separators.
-/
@[ext] structure Segments where
  header : Bytes
  payload : Bytes
  crypto : Bytes
  headerClean : dot ∉ header
  cryptoClean : dot ∉ crypto

namespace Segments

/-- The bytes before the last separator. -/
def signingInput (segments : Segments) : Bytes :=
  segments.header ++ dot :: segments.payload

def serialize (segments : Segments) : Bytes :=
  segments.signingInput ++ dot :: segments.crypto

end Segments

theorem joinSegments_pair (left right : Bytes)
    : joinSegments [left, right] = left ++ dot :: right := by
  simp [joinSegments, List.intercalate, List.intersperse]

theorem joinSegments_triple (first second third : Bytes)
    : joinSegments [first, second, third] = (first ++ dot :: second) ++ dot :: third := by
  simp [joinSegments, List.intercalate, List.intersperse]

/-- A token splits exactly into the segments it serializes. -/
theorem splitToken_eq_ok_iff {jwt signingInput header payload crypto : Bytes}
    : PyJWS.splitToken jwt = .ok (signingInput, header, payload, crypto)
      ↔ ∃ segments : Segments,
          jwt = segments.serialize
          ∧ signingInput = segments.signingInput
          ∧ header = segments.header
          ∧ payload = segments.payload
          ∧ crypto = segments.crypto := by
  constructor
  · intro h
    unfold PyJWS.splitToken at h
    split at h
    · cases h
    · rename_i last cryptoSegment atLast
      split at h
      · cases h
      · rename_i headerSegment payloadSegment atFirst
        obtain ⟨whole, cryptoClean⟩ := splitLast_eq_some_iff.mp atLast
        obtain ⟨inner, headerClean⟩ := splitFirst_eq_some_iff.mp atFirst
        simp only [Except.ok.injEq, Prod.mk.injEq] at h
        obtain ⟨rfl, rfl, rfl, rfl⟩ := h
        refine ⟨⟨_, _, _, headerClean, cryptoClean⟩, ?_, inner, rfl, rfl, rfl⟩
        rw [whole, inner]
        rfl
  · intro h
    obtain ⟨segments, rfl, rfl, rfl, rfl, rfl⟩ := h
    have atLast : splitLast dot segments.serialize
        = some (segments.signingInput, segments.crypto) :=
      splitLast_append _ segments.cryptoClean
    have atFirst : splitFirst dot segments.signingInput
        = some (segments.header, segments.payload) :=
      splitFirst_append segments.headerClean _
    simp only [PyJWS.splitToken, atLast, atFirst]

/-- A token has only one reading as segments. -/
theorem Segments.serialize_injective {left right : Segments}
    (h : left.serialize = right.serialize)
    : left = right := by
  have splits := splitToken_eq_ok_iff.mpr ⟨right, h, rfl, rfl, rfl, rfl⟩
  rw [splitToken_eq_ok_iff.mpr ⟨left, rfl, rfl, rfl, rfl, rfl⟩] at splits
  simp only [Except.ok.injEq, Prod.mk.injEq] at splits
  exact Segments.ext splits.2.1 splits.2.2.1 splits.2.2.2

-----------------------------------------------------------------------------------------
-- Loading
-----------------------------------------------------------------------------------------

variable {env : Env}

namespace PyJWS

/-- `data` is the JSON text of the object. -/
def ReadsObject (env : Env) (data : Bytes) (object : Dict Json) : Prop :=
  ∃ value, env.json.loadsBytes data = .ok value ∧ value.asDict? = some object

/-- Bytes read as one object at most. -/
theorem ReadsObject.unique {data : Bytes} {object other : Dict Json}
    (h : ReadsObject env data object) (h' : ReadsObject env data other)
    : object = other := by
  obtain ⟨value, loads, isObject⟩ := h
  obtain ⟨value', loads', isOther⟩ := h'
  obtain rfl := Except.ok.inj (loads.symm.trans loads')
  exact Option.some.inj (isObject.symm.trans isOther)

/-- `loaded` is what the segments of the token decode to. -/
structure Loads (env : Env) (jwt : TextArg) (segments : Segments) (loaded : Loaded)
    : Prop where
  token : tokenBytes jwt = .ok segments.serialize
  signingInput : loaded.signingInput = segments.signingInput
  header
    : ∃ data,
        base64urlDecode (.bytes segments.header) = .ok data
        ∧ ReadsObject env data loaded.header
  payload : base64urlDecode (.bytes segments.payload) = .ok loaded.payload
  signature : base64urlDecode (.bytes segments.crypto) = .ok loaded.signature

theorem decodeSegment_eq_ok {segment data : Bytes} {label : String}
    : decodeSegment segment label = .ok data ↔ base64urlDecode (.bytes segment) = .ok data :=
  tryExcept_raise_eq_ok

/-- An object is loaded exactly from its JSON text. -/
theorem loadObject_eq_ok {data : Bytes} {label : String} {object : Dict Json}
    : loadObject env data label = .ok object ↔ ReadsObject env data object := by
  unfold loadObject ReadsObject
  rw [outcome_bind_eq_ok]
  constructor
  · intro h
    obtain ⟨value, parsed, isObject⟩ := h
    refine ⟨value, tryExcept_raise_eq_ok.mp parsed, ?_⟩
    split at isObject
    · rename_i found
      rw [found, Except.ok.inj isObject]
    · cases isObject
  · intro h
    obtain ⟨value, parsed, isObject⟩ := h
    exact ⟨value, tryExcept_raise_eq_ok.mpr parsed, by simp [isObject]⟩

/-- A token loads exactly when all three of its segments decode. -/
theorem load_eq_ok_iff {jwt : TextArg} {loaded : Loaded}
    : load env jwt = .ok loaded ↔ ∃ segments, Loads env jwt segments loaded := by
  unfold load
  simp only [outcome_bind_eq_ok]
  constructor
  · intro h
    obtain ⟨bytes, isBytes, ⟨signingInput, header, payload, crypto⟩, isSplit, headerData,
      headerDecodes, object, isObject, payloadData, payloadDecodes, signature, signatureDecodes,
      returned⟩ := h
    cases returned
    obtain ⟨segments, rfl, rfl, rfl, rfl, rfl⟩ := splitToken_eq_ok_iff.mp isSplit
    exact ⟨segments, {
      token := isBytes
      signingInput := rfl
      header := ⟨headerData, decodeSegment_eq_ok.mp headerDecodes,
        loadObject_eq_ok.mp isObject⟩
      payload := decodeSegment_eq_ok.mp payloadDecodes
      signature := decodeSegment_eq_ok.mp signatureDecodes
    }⟩
  · intro given
    obtain ⟨segments, h⟩ := given
    obtain ⟨headerData, headerDecodes, isObject⟩ := h.header
    refine ⟨segments.serialize, h.token,
      (segments.signingInput, segments.header, segments.payload, segments.crypto),
      splitToken_eq_ok_iff.mpr ⟨segments, rfl, rfl, rfl, rfl, rfl⟩,
      headerData, decodeSegment_eq_ok.mpr headerDecodes,
      loaded.header, loadObject_eq_ok.mpr isObject,
      loaded.payload, decodeSegment_eq_ok.mpr h.payload,
      loaded.signature, decodeSegment_eq_ok.mpr h.signature, ?_⟩
    rw [← h.signingInput]
    rfl

-----------------------------------------------------------------------------------------
-- How loading fails
-----------------------------------------------------------------------------------------

/-- Decoding a segment fails with `DecodeError`. -/
theorem failsWith_decodeSegment {expected : PyError → Prop}
    (own : ∀ error, error.cls = .decodeError → expected error) (segment : Bytes)
    (label : String)
    : FailsWith expected (decodeSegment segment label) := by
  unfold decodeSegment
  refine failsWith_tryExcept.mpr ⟨?_, fun _ _ _ => failsWith_error.mpr (own _ rfl)⟩
  intro error failed
  unfold base64urlDecode at failed
  simp only [forceBytes, outcome_ok_bind, urlsafeB64decode] at failed
  split at failed
  · cases failed
  · cases failed
    exact Or.inl rfl
  · cases failed
    exact Or.inl rfl

theorem failsWith_splitToken {expected : PyError → Prop}
    (own : ∀ error, error.cls = .decodeError → expected error) (jwt : Bytes)
    : FailsWith expected (splitToken jwt) := by
  unfold splitToken
  split
  · exact failsWith_error.mpr (own _ rfl)
  · split
    · exact failsWith_error.mpr (own _ rfl)
    · exact failsWith_ok _

/-- Loading an object fails with `DecodeError`, but for the errors of `json.loads` that are no
`ValueError`.
-/
theorem failsWith_loadObject {expected : PyError → Prop}
    (own : ∀ error, error.cls = .decodeError → expected error) {data : Bytes}
    {label : String}
    : FailsWith expected (loadObject env data label)
      ↔ FailsWith (fun error => [ExcClass.valueError].any error.isA = true ∨ expected error)
          (env.json.loadsBytes data) := by
  unfold loadObject
  rw [failsWith_bind, failsWith_tryExcept]
  constructor
  · intro h
    exact h.1.1
  · intro h
    refine ⟨⟨h, fun _ _ _ => failsWith_error.mpr (own _ rfl)⟩, fun value _ => ?_⟩
    split
    · exact failsWith_ok _
    · exact failsWith_error.mpr (own _ rfl)

/-- Loading a token fails with `DecodeError`, but for what `json.loads` raises on the text of
its header.
-/
theorem failsWith_load {expected : PyError → Prop}
    (own : ∀ error, error.cls = .decodeError → expected error) {jwt : Bytes}
    : FailsWith expected (load env (.bytes jwt))
      ↔ ∀ (segments : Segments) (data : Bytes),
          jwt = segments.serialize
          → base64urlDecode (.bytes segments.header) = .ok data
          → FailsWith (fun error => [ExcClass.valueError].any error.isA = true ∨ expected error)
              (env.json.loadsBytes data) := by
  have decodes := failsWith_decodeSegment own
  unfold load
  simp only [tokenBytes, outcome_ok_bind, failsWith_bind, failsWith_splitToken own, true_and,
    decodes, failsWith_loadObject own]
  constructor
  · intro h segments data token decoded
    exact (h _ (splitToken_eq_ok_iff.mpr ⟨segments, token, rfl, rfl, rfl, rfl⟩) data
      (decodeSegment_eq_ok.mpr decoded)).1
  · intro h parts split data decoded
    obtain ⟨segments, token, _, same, _, _⟩ := splitToken_eq_ok_iff.mp split
    exact ⟨h segments data token (same ▸ decodeSegment_eq_ok.mp decoded),
      fun _ _ _ _ _ _ => failsWith_ok _⟩

-----------------------------------------------------------------------------------------
-- Validating headers
-----------------------------------------------------------------------------------------

/-- A non-empty list of supported names of members. -/
def ListsExtensions (headers : Dict Json) (crit : Json) : Prop :=
  ∃ names : List PyStr,
    crit = .list (names.map .str)
    ∧ names ≠ []
    ∧ ∀ name ∈ names, name ∈ supportedCrit ∧ headers.contains name = true

/-- The key is named by a string, if at all, and so are the critical extensions. -/
structure ValidHeaders (headers : Dict Json) : Prop where
  kid : ∀ kid, headers.get? "kid" = some kid → ∃ name, kid = .str name
  crit : ∀ crit, headers.get? "crit" = some crit → ListsExtensions headers crit

/-- Every listed extension is looked at, by induction on the list. -/
theorem validateExtensions_eq_ok {headers : Dict Json} {items : List Json}
    : validateExtensions headers items = .ok ()
      ↔ ∃ names : List PyStr,
          items = names.map .str
          ∧ ∀ name ∈ names, name ∈ supportedCrit ∧ headers.contains name = true := by
  induction items with
  | nil =>
      refine iff_of_true rfl ⟨[], rfl, ?_⟩
      simp
  | cons item rest ih =>
      unfold validateExtensions
      constructor
      · intro valid
        split at valid
        · cases valid
        · rename_i name isName
          split at valid
          · cases valid
          · rename_i supported
            split at valid
            · cases valid
            · rename_i present
              obtain ⟨names, rfl, listed⟩ := ih.mp valid
              refine ⟨name :: names, ?_, ?_⟩
              · rw [Json.asStr?_eq_some.mp isName, List.map_cons]
              · refine List.forall_mem_cons.mpr ⟨⟨not_not.mp supported, ?_⟩, listed⟩
                simpa using present
      · intro h
        obtain ⟨names, same, listed⟩ := h
        cases names with
        | nil => cases same
        | cons name names =>
            obtain ⟨rfl, rfl⟩ := List.cons.inj same
            obtain ⟨⟨supported, present⟩, others⟩ := List.forall_mem_cons.mp listed
            simp only [Json.asStr?, supported, not_true_eq_false, if_false, present,
              Bool.not_true, Bool.false_eq_true]
            exact ih.mpr ⟨names, rfl, others⟩

theorem validateCrit_eq_ok {headers : Dict Json} {crit : Json}
    : validateCrit headers crit = .ok () ↔ ListsExtensions headers crit := by
  unfold validateCrit ListsExtensions
  split
  · rename_i head rest
    rw [validateExtensions_eq_ok]
    constructor
    · intro h
      obtain ⟨names, same, listed⟩ := h
      refine ⟨names, congrArg Json.list same, ?_, listed⟩
      rintro rfl
      cases same
    · intro h
      obtain ⟨names, same, _, listed⟩ := h
      exact ⟨names, Json.list.inj same, listed⟩
  · rename_i other
    refine iff_of_false nofun ?_
    intro h
    obtain ⟨names, rfl, nonempty, _⟩ := h
    cases names with
    | nil => exact nonempty rfl
    | cons name names => exact other _ _ rfl

/-- A `kid` that is there is a string. -/
theorem validateKid_present_iff {headers : Dict Json}
    : (match headers.get? "kid" with
        | some kid => validateKid kid
        | none => .ok ())
        = .ok ()
      ↔ ∀ kid, headers.get? "kid" = some kid → ∃ name, kid = .str name := by
  cases headers.get? "kid" with
  | none => simp
  | some kid => cases kid <;> simp [validateKid, Json.asStr?]

/-- A `crit` that is there lists extensions. -/
theorem validateCrit_present_iff {headers : Dict Json}
    : (match headers.get? "crit" with
        | some crit => validateCrit headers crit
        | none => .ok ())
        = .ok ()
      ↔ ∀ crit, headers.get? "crit" = some crit → ListsExtensions headers crit := by
  cases headers.get? "crit" with
  | none => simp
  | some crit => simp [validateCrit_eq_ok]

/-- The decoder accepts exactly the valid headers. -/
theorem validateHeaders_eq_ok {headers : Dict Json}
    : validateHeaders headers false = .ok () ↔ ValidHeaders headers := by
  unfold validateHeaders
  rw [outcome_bind_eq_ok]
  constructor
  · intro h
    obtain ⟨_, kid, crit⟩ := h
    exact ⟨validateKid_present_iff.mp kid, validateCrit_present_iff.mp crit⟩
  · intro valid
    exact ⟨(), validateKid_present_iff.mpr valid.kid, validateCrit_present_iff.mpr valid.crit⟩

/-- Checking the extensions fails with `InvalidTokenError`, by induction on what is listed. -/
theorem failsWith_validateExtensions (headers : Dict Json) (items : List Json)
    : FailsWith (fun error => error.cls = .invalidTokenError)
        (validateExtensions headers items) := by
  induction items with
  | nil => exact failsWith_ok _
  | cons ext rest ih =>
      unfold validateExtensions
      split
      · exact failsWith_error.mpr rfl
      · refine failsWith_ite.mpr ⟨fun _ => failsWith_error.mpr rfl, fun _ => ?_⟩
        exact failsWith_ite.mpr ⟨fun _ => failsWith_error.mpr rfl, fun _ => ih⟩

/-- Validating headers fails with `InvalidTokenError`. -/
theorem failsWith_validateHeaders (headers : Dict Json) (encoding : Bool)
    : FailsWith (fun error => error.cls = .invalidTokenError)
        (validateHeaders headers encoding) := by
  unfold validateHeaders
  refine failsWith_bind.mpr ⟨?_, fun _ _ => ?_⟩
  · split
    · unfold validateKid
      exact failsWith_ite.mpr ⟨fun _ => failsWith_error.mpr rfl, fun _ => failsWith_ok _⟩
    · exact failsWith_ok _
  · refine failsWith_ite.mpr ⟨fun _ => failsWith_ok _, fun _ => ?_⟩
    split
    · unfold validateCrit
      split
      · exact failsWith_validateExtensions headers _
      · exact failsWith_error.mpr rfl
    · exact failsWith_ok _

-----------------------------------------------------------------------------------------
-- Preparing keys
-----------------------------------------------------------------------------------------

/-- The instance accepts the prepared key's length: there is no message about it, or the
instance only warns.
-/
def AcceptsLength (jws : PyJWS) (algObj : Algorithm) (prepared : Key) : Prop :=
  ∃ message,
    algObj.checkKeyLength prepared = .ok message
    ∧ (message.filter (fun message => !message.isEmpty) = none
      ∨ jws.options.enforceMinimumKeyLength = false)

/-- A key is prepared exactly when the algorithm accepts it and its length is accepted. -/
theorem prepareSigningKey_eq_ok {jws : PyJWS} {algObj : Algorithm} {key : KeyArg}
    {prepared : Key}
    : (jws.prepareSigningKey env algObj key).result = .ok prepared
      ↔ algObj.prepareKey env key.unwrap = .ok prepared
        ∧ jws.AcceptsLength algObj prepared := by
  unfold prepareSigningKey AcceptsLength
  simp only [Traced.liftM_eq_ofExcept, Traced.bind_result_eq_ok, Traced.ofExcept_result]
  constructor
  · intro h
    obtain ⟨found, isPrepared, message, isMessage, judged⟩ := h
    split at judged
    · rename_i absent
      cases judged
      exact ⟨isPrepared, message, isMessage, Or.inl absent⟩
    · split at judged
      · cases judged
      · rename_i lenient
        cases judged
        exact ⟨isPrepared, message, isMessage, Or.inr (by simpa using lenient)⟩
  · intro h
    obtain ⟨isPrepared, message, isMessage, accepted⟩ := h
    refine ⟨prepared, isPrepared, message, isMessage, ?_⟩
    split
    · rfl
    · rename_i present
      rcases accepted with absent | lenient
      · rw [absent] at present
        cases present
      · rw [if_neg (by simp [lenient])]
        rfl

/-- Preparing a key makes no call of `sign` or `verify`: it at most warns. -/
theorem prepareSigningKey_logs (jws : PyJWS) (algObj : Algorithm) (key : KeyArg)
    : (jws.prepareSigningKey env algObj key).Logs
        (fun event => ∃ message, event = .insecureKeyLength message) := by
  unfold prepareSigningKey
  simp only [Traced.liftM_eq_ofExcept]
  refine .bind (.ofExcept _) (fun prepared _ => .bind (.ofExcept _) (fun message _ => ?_))
  split
  · exact .pure _
  · split
    · exact .bind (.raise _) (fun _ _ => .pure _)
    · exact .bind (.emit ⟨_, rfl⟩) (fun _ _ => .pure _)

-----------------------------------------------------------------------------------------
-- Verifying
-----------------------------------------------------------------------------------------

/-- The header names `alg`, and the allow-list has it. -/
theorem allowedAlg_eq_ok {header : Dict Json} {algorithms : Option (List PyStr)} {alg : Json}
    : allowedAlg header algorithms = .ok alg
      ↔ header.get? "alg" = some alg
        ∧ alg.truthy = true
        ∧ ∀ names ∈ algorithms, ∃ name ∈ names, alg = .str name := by
  unfold allowedAlg
  split
  · rename_i absent
    simp [absent]
  · rename_i found present
    have listed (names : List PyStr)
        : found.asStr?.any (fun name => decide (name ∈ names)) = true
          ↔ ∃ name ∈ names, found = .str name := by
      cases found <;> simp [Json.asStr?]
    simp only [present, Option.some.injEq]
    split
    · rename_i rejected
      simp only [reduceCtorEq, false_iff, not_and]
      rintro rfl isTrue isListed
      cases algorithms with
      | none => simp [isTrue] at rejected
      | some names =>
          have member := (listed names).mpr (isListed names rfl)
          simp [isTrue, member] at rejected
    · rename_i accepted
      simp only [Bool.or_eq_true, Bool.not_eq_true', not_or, Bool.not_eq_false] at accepted
      simp only [Except.ok.injEq]
      constructor
      · rintro rfl
        refine ⟨rfl, accepted.1, ?_⟩
        intro names same
        cases same
        exact (listed names).mp (by simpa using accepted.2)
      · intro h
        obtain ⟨rfl, _⟩ := h
        rfl

/-- A registered name is found under itself. -/
theorem getAlgorithmByName_str_eq_ok {jws : PyJWS} {name : PyStr} {algObj : Algorithm}
    : jws.getAlgorithmByName env (.str name) = .ok algObj
      ↔ jws.algorithms.get? name = some algObj := by
  simp only [getAlgorithmByName, requireHashable, outcome_ok_bind, Json.asStr?,
    Option.bind_some]
  cases jws.algorithms.get? name with
  | none =>
      simp only [reduceCtorEq, iff_false]
      intro found
      rcases ite_eq_iff.mp found with ⟨_, raised⟩ | ⟨_, raised⟩
      · cases raised
      · cases raised
  | some found => simp

/-- A verification that returned: which algorithm object accepted which key and bytes. -/
structure Verifies (env : Env) (jws : PyJWS) (signingInput : Bytes) (header : Dict Json)
    (signature : Bytes) (key : KeyArg) (algorithms : Option (List PyStr)) (alg : Json)
    (algObj : Algorithm) (prepared : Key)
    : Prop where
  allowed : allowedAlg header (effectiveAlgorithms key algorithms) = .ok alg
  chosen : jws.verifyingAlgorithm env alg key = .ok algObj
  prepares : algObj.prepareKey env key.unwrap = .ok prepared
  length : jws.AcceptsLength algObj prepared
  accepts : algObj.verify env signingInput prepared signature = .ok true

/-- A verification returns exactly when the allowed algorithm accepts the signature. -/
theorem verifySignature_eq_ok {jws : PyJWS} {signingInput : Bytes} {header : Dict Json}
    {signature : Bytes} {key : KeyArg} {algorithms : Option (List PyStr)}
    : (jws.verifySignature env signingInput header signature key algorithms).result = .ok ()
      ↔ ∃ alg algObj prepared,
          Verifies env jws signingInput header signature key algorithms alg algObj
            prepared := by
  unfold verifySignature callVerify
  simp only [Traced.liftM_eq_ofExcept, Traced.bind_result_eq_ok, Traced.ofExcept_result,
    prepareSigningKey_eq_ok, Traced.emit_result]
  constructor
  · intro h
    obtain ⟨alg, allowed, algObj, chosen, prepared, ⟨prepares, length⟩, verified,
      ⟨_, _, accepts⟩, judged⟩ := h
    cases verified with
    | false => simp at judged
    | true => exact ⟨alg, algObj, prepared, allowed, chosen, prepares, length, accepts⟩
  · intro given
    obtain ⟨alg, algObj, prepared, h⟩ := given
    exact ⟨alg, h.allowed, algObj, h.chosen, prepared, ⟨h.prepares, h.length⟩, true,
      ⟨⟨⟩, trivial, h.accepts⟩, rfl⟩

/-- The only call of an algorithm that verification makes is `verify`, on the signing input,
the prepared key and the signature; it makes it whenever it returns.
-/
theorem mem_verifySignature_log {jws : PyJWS} {signingInput : Bytes} {header : Dict Json}
    {signature : Bytes} {key : KeyArg} {algorithms : Option (List PyStr)} {event : Event}
    : event ∈ (jws.verifySignature env signingInput header signature key algorithms).log
      ↔ ∃ alg algObj,
          allowedAlg header (effectiveAlgorithms key algorithms) = .ok alg
          ∧ jws.verifyingAlgorithm env alg key = .ok algObj
          ∧ (event ∈ (jws.prepareSigningKey env algObj key).log
            ∨ ∃ prepared,
                algObj.prepareKey env key.unwrap = .ok prepared
                ∧ jws.AcceptsLength algObj prepared
                ∧ event = .verify algObj signingInput prepared signature) := by
  have judgement (verified : Bool)
      : (if !verified then
            Traced.raise ⟨.invalidSignatureError, [.text "Signature verification failed"]⟩
          else pure () : Run Unit).log = [] := by
    cases verified <;> rfl
  unfold verifySignature callVerify
  simp only [Traced.liftM_eq_ofExcept, Traced.mem_bind_log, Traced.ofExcept_log,
    List.not_mem_nil, false_or, Traced.ofExcept_result, prepareSigningKey_eq_ok,
    Traced.emit_log, List.mem_singleton, and_false, exists_false, or_false, judgement]
  constructor
  · intro h
    rcases h with ⟨alg, allowed, algObj, chosen,
      early | ⟨prepared, ⟨prepares, length⟩, rfl⟩⟩
    · exact ⟨alg, algObj, allowed, chosen, Or.inl early⟩
    · exact ⟨alg, algObj, allowed, chosen, Or.inr ⟨prepared, prepares, length, rfl⟩⟩
  · intro h
    rcases h with ⟨alg, algObj, allowed, chosen, early | ⟨prepared, prepares, length, rfl⟩⟩
    · exact ⟨alg, allowed, algObj, chosen, Or.inl early⟩
    · exact ⟨alg, allowed, algObj, chosen, Or.inr ⟨prepared, ⟨prepares, length⟩, rfl⟩⟩

-----------------------------------------------------------------------------------------
-- Decoding
-----------------------------------------------------------------------------------------

/-- The token passes every stage of a decode that comes before its signature is looked at.
`payload` is what will be returned, and `signingInput` what must have been signed.
-/
structure Opens (env : Env) (jwt : TextArg) (detachedPayload : Option Bytes)
    (segments : Segments) (loaded : Loaded) (payload signingInput : Bytes)
    : Prop where
  loads : Loads env jwt segments loaded
  valid : validateHeaders loaded.header false = .ok ()
  content : signedContent loaded detachedPayload = .ok (payload, signingInput)

/-- A token opens in only one way. -/
theorem Opens.unique {env : Env} {jwt : TextArg} {detachedPayload : Option Bytes}
    {segments segments' : Segments} {loaded loaded' : Loaded}
    {payload payload' signingInput signingInput' : Bytes}
    (h : Opens env jwt detachedPayload segments loaded payload signingInput)
    (h' : Opens env jwt detachedPayload segments' loaded' payload' signingInput')
    : segments = segments' ∧ loaded = loaded' ∧ payload = payload'
      ∧ signingInput = signingInput' := by
  have sameSegments : segments = segments' :=
    Segments.serialize_injective
      (Except.ok.inj (h.loads.token.symm.trans h'.loads.token))
  have sameLoaded : loaded = loaded' :=
    Except.ok.inj ((load_eq_ok_iff.mpr ⟨_, h.loads⟩).symm.trans
      (load_eq_ok_iff.mpr ⟨_, h'.loads⟩))
  subst sameLoaded
  have sameContent := Except.ok.inj (h.content.symm.trans h'.content)
  exact ⟨sameSegments, rfl, (Prod.mk.inj sameContent).1, (Prod.mk.inj sameContent).2⟩

/-- The call may verify: it lists algorithms, or its key brings one. -/
def NamesAlgorithms (key : KeyArg) (algorithms : Option (List PyStr)) : Prop :=
  listsAlgorithms algorithms = true ∨ key.isJwk = true

variable {jws : PyJWS} {jwt : TextArg} {key : KeyArg} {algorithms : Option (List PyStr)}
  {options : Option SigOptions} {detachedPayload : Option Bytes}

theorem missingAlgorithms_iff
    : (!listsAlgorithms algorithms && !key.isJwk) = true ↔ ¬NamesAlgorithms key algorithms := by
  simp [NamesAlgorithms, not_or]

theorem decodeComplete_unverified
    (h : (jws.options.merge options).verifySignature = false)
    : jws.decodeComplete env jwt key algorithms options detachedPayload
      = (do
          let loaded ← Traced.ofExcept (load env jwt)
          Traced.ofExcept (validateHeaders loaded.header false)
          let content ← Traced.ofExcept (signedContent loaded detachedPayload)
          return ⟨content.1, loaded.header, loaded.signature⟩) := by
  simp only [decodeComplete, h, Bool.false_and, Bool.false_eq_true, if_false,
    Traced.liftM_eq_ofExcept]

theorem decodeComplete_verified (h : (jws.options.merge options).verifySignature = true)
    (named : NamesAlgorithms key algorithms)
    : jws.decodeComplete env jwt key algorithms options detachedPayload
      = (do
          let loaded ← Traced.ofExcept (load env jwt)
          Traced.ofExcept (validateHeaders loaded.header false)
          let content ← Traced.ofExcept (signedContent loaded detachedPayload)
          jws.verifySignature env content.2 loaded.header loaded.signature key algorithms
          return ⟨content.1, loaded.header, loaded.signature⟩) := by
  simp only [decodeComplete, h, Bool.true_and, if_true, Traced.liftM_eq_ofExcept,
    if_neg (missingAlgorithms_iff.not.mpr (not_not.mpr named))]

/-- Without an algorithm to verify with, a verifying decode does nothing but fail. -/
theorem decodeComplete_refused (env : Env) (jwt : TextArg) (detachedPayload : Option Bytes)
    (h : (jws.options.merge options).verifySignature = true)
    (unnamed : ¬NamesAlgorithms key algorithms)
    : ∃ message,
        jws.decodeComplete env jwt key algorithms options detachedPayload
          = Traced.raise ⟨.decodeError, message⟩ := by
  simp only [decodeComplete, h, Bool.true_and, if_true, Traced.liftM_eq_ofExcept,
    if_pos (missingAlgorithms_iff.mpr unnamed), Traced.raise_bind]
  exact ⟨_, rfl⟩

/-- A decode returns exactly when the token opens and, where it verifies, the signature
is accepted.
-/
theorem decodeComplete_eq_ok {decoded : Decoded}
    : (jws.decodeComplete env jwt key algorithms options detachedPayload).result
        = .ok decoded
      ↔ ∃ segments loaded signingInput,
          Opens env jwt detachedPayload segments loaded decoded.payload signingInput
          ∧ decoded.header = loaded.header
          ∧ decoded.signature = loaded.signature
          ∧ ((jws.options.merge options).verifySignature = true
            → NamesAlgorithms key algorithms
              ∧ ∃ alg algObj prepared,
                  Verifies env jws signingInput loaded.header loaded.signature key
                    algorithms alg algObj prepared) := by
  cases flag : (jws.options.merge options).verifySignature with
  | false =>
      rw [decodeComplete_unverified flag]
      simp only [Traced.bind_result_eq_ok, Traced.ofExcept_result, load_eq_ok_iff]
      constructor
      · intro h
        obtain ⟨loaded, ⟨segments, loads⟩, ⟨⟩, valid, ⟨payload, signingInput⟩, content,
          returned⟩ := h
        cases returned
        exact ⟨segments, loaded, signingInput, ⟨loads, valid, content⟩, rfl, rfl, nofun⟩
      · intro h
        obtain ⟨segments, loaded, signingInput, opens, header, signature, _⟩ := h
        refine ⟨loaded, ⟨segments, opens.loads⟩, (), opens.valid,
          (decoded.payload, signingInput), opens.content, ?_⟩
        rw [← header, ← signature]
        rfl
  | true =>
      by_cases named : NamesAlgorithms key algorithms
      · rw [decodeComplete_verified flag named]
        simp only [Traced.bind_result_eq_ok, Traced.ofExcept_result, load_eq_ok_iff]
        constructor
        · intro h
          obtain ⟨loaded, ⟨segments, loads⟩, ⟨⟩, valid, ⟨payload, signingInput⟩, content,
            ⟨⟩, verified, returned⟩ := h
          cases returned
          exact ⟨segments, loaded, signingInput, ⟨loads, valid, content⟩, rfl, rfl,
            fun _ => ⟨named, verifySignature_eq_ok.mp verified⟩⟩
        · intro h
          obtain ⟨segments, loaded, signingInput, opens, header, signature, verified⟩ := h
          refine ⟨loaded, ⟨segments, opens.loads⟩, (), opens.valid,
            (decoded.payload, signingInput), opens.content, (),
            verifySignature_eq_ok.mpr (verified trivial).2, ?_⟩
          rw [← header, ← signature]
          rfl
      · obtain ⟨message, refused⟩ :=
          decodeComplete_refused env jwt detachedPayload flag named
        rw [refused]
        simp only [Traced.raise_result, reduceCtorEq, false_iff]
        intro h
        obtain ⟨_, _, _, _, _, _, verified⟩ := h
        exact named (verified trivial).1

/-- A decode calls an algorithm only on the signature of a token that opens. -/
theorem mem_decodeComplete_log {event : Event}
    : event ∈ (jws.decodeComplete env jwt key algorithms options detachedPayload).log
      ↔ (jws.options.merge options).verifySignature = true
        ∧ NamesAlgorithms key algorithms
        ∧ ∃ segments loaded payload signingInput,
            Opens env jwt detachedPayload segments loaded payload signingInput
            ∧ event ∈ (jws.verifySignature env signingInput loaded.header loaded.signature
                key algorithms).log := by
  cases flag : (jws.options.merge options).verifySignature with
  | false =>
      rw [decodeComplete_unverified flag]
      simp [Traced.mem_bind_log]
  | true =>
      by_cases named : NamesAlgorithms key algorithms
      · rw [decodeComplete_verified flag named]
        simp only [Traced.mem_bind_log, Traced.ofExcept_log, List.not_mem_nil, false_or,
          Traced.ofExcept_result, load_eq_ok_iff, Traced.pure_log, and_false, exists_false,
          or_false, true_and, named]
        constructor
        · intro h
          obtain ⟨loaded, ⟨segments, loads⟩, ⟨⟩, valid, ⟨payload, signingInput⟩, content,
            member⟩ := h
          exact ⟨segments, loaded, payload, signingInput, ⟨loads, valid, content⟩, member⟩
        · intro h
          obtain ⟨segments, loaded, payload, signingInput, opens, member⟩ := h
          exact ⟨loaded, ⟨segments, opens.loads⟩, (), opens.valid, (payload, signingInput),
            opens.content, member⟩
      · obtain ⟨message, refused⟩ :=
          decodeComplete_refused env jwt detachedPayload flag named
        rw [refused]
        simp [named]

/-- The only `verify` a decode calls is on the token's signing input and signature. -/
theorem verify_mem_decodeComplete_log {segments : Segments} {loaded : Loaded}
    {payload signingInput : Bytes}
    (opens : Opens env jwt detachedPayload segments loaded payload signingInput)
    {handler : Algorithm} {msg sig : Bytes} {prepared : Key}
    (called : Event.verify handler msg prepared sig
      ∈ (jws.decodeComplete env jwt key algorithms options detachedPayload).log)
    : msg = signingInput
      ∧ sig = loaded.signature
      ∧ handler.prepareKey env key.unwrap = .ok prepared := by
  obtain ⟨_, _, segments', loaded', payload', signingInput', opens', member⟩ :=
    mem_decodeComplete_log.mp called
  obtain ⟨_, rfl, _, rfl⟩ := opens.unique opens'
  obtain ⟨alg, algObj, _, _, warned | ⟨prepared', prepares, _, same⟩⟩ :=
    mem_verifySignature_log.mp member
  · obtain ⟨message, impossible⟩ := prepareSigningKey_logs jws algObj key _ warned
    cases impossible
  · cases same
    exact ⟨rfl, rfl, prepares⟩

/-- Without `b64` false the payload is the token's own, and the signed bytes are the ones
before its last separator.
-/
theorem signedContent_attached {loaded : Loaded} (detachedPayload : Option Bytes)
    (h : loaded.header.get? "b64" ≠ some (.bool false))
    : signedContent loaded detachedPayload = .ok (loaded.payload, loaded.signingInput) := by
  unfold signedContent
  have attached : ((loaded.header.get? "b64").getD (.bool true)).isFalse = false := by
    rw [← Bool.not_eq_true, Json.isFalse_iff]
    cases found : loaded.header.get? "b64" with
    | none => simp
    | some value =>
        rintro rfl
        exact h found
  simp [attached]

end PyJWS

namespace PyJWT

variable {self : PyJWT} {jwt : TextArg} {key : KeyArg} {algorithms : Option (List PyStr)}
  {options : Option Options} {detachedPayload : Option Bytes} {expected : Expected}
  {now : Rat}

/-- What a decode of claims asks of the signature layer. -/
def callSigOptions (options : Option Options) : SigOptions :=
  { verifySignature := some (signatureFlag options) }

/-- Claims are returned exactly when the token decodes to their JSON text and they pass the
validation.
-/
theorem decodeComplete_eq_ok {decoded : Decoded}
    : (self.decodeComplete env jwt key algorithms options detachedPayload expected now).result
        = .ok decoded
      ↔ ∃ inner,
          (self.jws.decodeComplete env jwt key algorithms (some (callSigOptions options))
              detachedPayload).result
            = .ok inner
          ∧ PyJWS.ReadsObject env inner.payload decoded.payload
          ∧ validateClaims env decoded.payload (mergeOptions self.options options) expected
              now
            = .ok ()
          ∧ decoded.header = inner.header
          ∧ decoded.signature = inner.signature := by
  simp only [decodeComplete, decodePayload, Traced.liftM_eq_ofExcept,
    Traced.bind_result_eq_ok, Traced.ofExcept_result, PyJWS.loadObject_eq_ok]
  constructor
  · intro h
    obtain ⟨inner, opened, payload, reads, ⟨⟩, valid, returned⟩ := h
    cases returned
    exact ⟨inner, opened, reads, valid, rfl, rfl⟩
  · intro h
    obtain ⟨inner, opened, reads, valid, header, signature⟩ := h
    refine ⟨inner, opened, decoded.payload, reads, (), valid, ?_⟩
    rw [← header, ← signature]
    rfl

/-- Reading and validating the claims calls no algorithm. -/
theorem decodeComplete_log
    : (self.decodeComplete env jwt key algorithms options detachedPayload expected now).log
      = (self.jws.decodeComplete env jwt key algorithms (some (callSigOptions options))
          detachedPayload).log := by
  simp only [decodeComplete, Traced.liftM_eq_ofExcept]
  refine Traced.bind_log_of_silent (fun inner => ?_)
  rw [Traced.bind_log_of_silent (fun payload => ?_), Traced.ofExcept_log]
  rw [Traced.bind_log_of_silent (fun _ => rfl), Traced.ofExcept_log]

theorem decode_eq_ok {payload : Dict Json}
    : (self.decode env jwt key algorithms options detachedPayload expected now).result
        = .ok payload
      ↔ ∃ decoded,
          (self.decodeComplete env jwt key algorithms options detachedPayload expected
              now).result
            = .ok decoded
          ∧ decoded.payload = payload := by
  simp only [decode, Traced.bind_result_eq_ok, Traced.pure_result, Except.ok.injEq]

end PyJWT

end PyJwt
