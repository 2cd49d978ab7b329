import PyJwt.Correctness.JwsRoundTrip

/-! Which keys reach `sign` and `verify`. Every return path of a `prepare_key` checks the
family of the key, and for elliptic curves the curve.
-/

namespace PyJwt

open Foundations
open Python

/-- Families of keys. -/
inductive KeyFamily
  | absent
  | secret
  | rsa
  | ec (curve : Curve)
  | edwards
  deriving DecidableEq

/-- The key belongs to the family. -/
def KeyFamily.Has : KeyFamily → Key → Prop
  | absent, key => key = .none
  | secret, key => ∃ bytes, key = .bytes bytes
  | rsa, key =>
      (∃ numbers, key = .object (.rsaPublic numbers))
      ∨ ∃ numbers, key = .object (.rsaPrivate numbers)
  | ec curve, key =>
      ∃ object, key = .object object ∧ ECAlgorithm.keyCurve? object = some curve
  | edwards, key =>
      (∃ curve raw, key = .object (.edPublic curve raw))
      ∨ ∃ curve raw, key = .object (.edPrivate curve raw)

/-- The family of each default algorithm. -/
def keyFamilies : List (PyStr × KeyFamily) :=
  [
    ("none", .absent), ("HS256", .secret), ("HS384", .secret), ("HS512", .secret),
    ("RS256", .rsa), ("RS384", .rsa), ("RS512", .rsa), ("PS256", .rsa), ("PS384", .rsa),
    ("PS512", .rsa), ("ES256", .ec .secp256r1), ("ES256K", .ec .secp256k1),
    ("ES384", .ec .secp384r1), ("ES521", .ec .secp521r1), ("ES512", .ec .secp521r1),
    ("EdDSA", .edwards)
  ]

/-- The family a handler is made for; an algorithm without an expected curve and a caller's
own have none.
-/
def Algorithm.family? : Algorithm → Option KeyFamily
  | .none => some .absent
  | .hmac _ => some .secret
  | .rsa _ => some .rsa
  | .ec self => self.expectedCurve.map .ec
  | .okp => some .edwards
  | .custom _ => Option.none

variable {env : Env}

/-- A default algorithm is made for the family of its name. -/
theorem family?_of_default {name : PyStr} {handler : Algorithm}
    (h : (getDefaultAlgorithms env).get? name = some handler)
    : ∃ family, getEntry name keyFamilies = some family ∧ handler.family? = some family := by
  have member := (getEntry_eq_some_iff (getDefaultAlgorithms env).nodupKeys).mp h
  have listed : (name, handler.family?) ∈ (getDefaultAlgorithms env).entries.map
      (fun entry => (entry.1, entry.2.family?)) :=
    List.mem_map.mpr ⟨_, member, rfl⟩
  have table : ∀ entry ∈ (getDefaultAlgorithms env).entries.map
      (fun entry => (entry.1, entry.2.family?)),
      getEntry entry.1 keyFamilies = entry.2 ∧ entry.2.isSome = true := by
    unfold getDefaultAlgorithms
    cases env.hasCrypto <;> decide +kernel
  obtain ⟨same, present⟩ := table _ listed
  obtain ⟨family, found⟩ := Option.isSome_iff_exists.mp present
  exact ⟨family, same.trans found, found⟩

/-- Without `cryptography` the default algorithms are for no key and for secrets. -/
theorem hasCrypto_of_default {name : PyStr} {handler : Algorithm}
    (library : (getDefaultAlgorithms env).get? name = some handler)
    (asymmetric : handler.family? ≠ some .absent ∧ handler.family? ≠ some .secret)
    : env.hasCrypto = true := by
  by_contra missing
  rw [Bool.not_eq_true] at missing
  have member := (getEntry_eq_some_iff (getDefaultAlgorithms env).nodupKeys).mp library
  have listed : handler.family? ∈ (getDefaultAlgorithms env).entries.map
      (fun entry => entry.2.family?) :=
    List.mem_map.mpr ⟨_, member, rfl⟩
  have table : (getDefaultAlgorithms env).entries.map (fun entry => entry.2.family?)
      = [some .absent, some .secret, some .secret, some .secret] := by
    unfold getDefaultAlgorithms
    rw [missing]
    decide +kernel
  rw [table] at listed
  simp only [List.mem_cons, List.not_mem_nil, or_false] at listed
  rcases listed with same | same | same | same
  · exact asymmetric.1 same
  · exact asymmetric.2 same
  · exact asymmetric.2 same
  · exact asymmetric.2 same

-----------------------------------------------------------------------------------------
-- Preparing a key of the family
-----------------------------------------------------------------------------------------

theorem checkCryptoKeyType_bind_ok {α : Type} {selfClass : String}
    {keyTypes : KeyObject → Bool} {object : KeyObject} {next : Outcome α} {value : α}
    (h : (checkCryptoKeyType env selfClass keyTypes (.object object) >>= fun _ => next)
      = .ok value)
    : keyTypes object = true ∧ next = .ok value := by
  obtain ⟨⟨⟩, checked, returned⟩ := outcome_bind_eq_ok.mp h
  obtain ⟨_, same, accepted⟩ := checkCryptoKeyType_ok checked
  cases same
  exact ⟨accepted, returned⟩

/-- The objects of RSA are the two kinds of RSA keys. -/
theorem RSAAlgorithm.has_of_cryptoKeyTypes {object : KeyObject}
    (h : cryptoKeyTypes object = true)
    : KeyFamily.rsa.Has (.object object) := by
  cases object with
  | rsaPublic numbers => exact Or.inl ⟨numbers, rfl⟩
  | rsaPrivate numbers => exact Or.inr ⟨numbers, rfl⟩
  | _ => cases h

theorem OKPAlgorithm.has_of_cryptoKeyTypes {object : KeyObject}
    (h : cryptoKeyTypes object = true)
    : KeyFamily.edwards.Has (.object object) := by
  cases object with
  | edPublic curve raw => exact Or.inl ⟨curve, raw, rfl⟩
  | edPrivate curve raw => exact Or.inr ⟨curve, raw, rfl⟩
  | _ => cases h

theorem RSAAlgorithm.checked_has {self : RSAAlgorithm} {object : KeyObject} {prepared : Key}
    (h : self.checked env object = .ok prepared)
    : KeyFamily.rsa.Has prepared := by
  obtain ⟨accepted, returned⟩ := checkCryptoKeyType_bind_ok h
  cases returned
  exact has_of_cryptoKeyTypes accepted

/-- Both loading paths of RSA end in the type check. -/
theorem RSAAlgorithm.loadKey_has {self : RSAAlgorithm} {keyBytes : Bytes} {prepared : Key}
    (h : self.loadKey env keyBytes = .ok prepared)
    : KeyFamily.rsa.Has prepared := by
  have loaded {loader : Outcome KeyObject} (h : loader >>= self.checked env = .ok prepared)
      : KeyFamily.rsa.Has prepared := by
    obtain ⟨object, _, checked⟩ := outcome_bind_eq_ok.mp h
    exact checked_has checked
  unfold loadKey at h
  rcases tryExcept_eq_ok.mp h with first | ⟨_, _, _, second⟩
  · split at first
    · exact loaded first
    · exact loaded first
  · exact loaded (tryExcept_raise_eq_ok.mp second)

/-- A key that is no text passes the type check too. -/
theorem RSAAlgorithm.prepareKey_has {self : RSAAlgorithm} {key prepared : Key}
    (h : self.prepareKey env key = .ok prepared)
    : KeyFamily.rsa.Has prepared := by
  cases key with
  | none => cases h
  | object object =>
      unfold prepareKey at h
      simp only at h
      split at h
      · rename_i accepted
        cases h
        exact has_of_cryptoKeyTypes accepted
      · cases h
  | str _ | bytes _ =>
      obtain ⟨keyBytes, _, returned⟩ := outcome_bind_eq_ok.mp h
      exact loadKey_has returned

/-- A curve that passes the validation is the expected one. -/
theorem ECAlgorithm.validateCurve_eq_ok {self : ECAlgorithm} {curve expected : Curve}
    (expects : self.expectedCurve = some expected) (h : self.validateCurve curve = .ok ())
    : curve = expected := by
  unfold validateCurve at h
  rw [expects] at h
  by_contra different
  simp [different] at h

/-- What follows a validated curve has that curve. -/
theorem ECAlgorithm.validated_has {self : ECAlgorithm} {expected curve : Curve}
    (expects : self.expectedCurve = some expected) {object : KeyObject} {prepared : Key}
    (ofCurve : keyCurve? object = some curve)
    (h : (self.validateCurve curve >>= fun _ => pure (.object object)) = .ok prepared)
    : (KeyFamily.ec expected).Has prepared := by
  obtain ⟨⟨⟩, valid, returned⟩ := outcome_bind_eq_ok.mp h
  cases returned
  exact ⟨object, rfl, validateCurve_eq_ok expects valid ▸ ofCurve⟩

theorem ECAlgorithm.checked_has {self : ECAlgorithm} {expected : Curve}
    (expects : self.expectedCurve = some expected) {object : KeyObject} {prepared : Key}
    (h : self.checked env object = .ok prepared)
    : (KeyFamily.ec expected).Has prepared := by
  obtain ⟨_, returned⟩ := checkCryptoKeyType_bind_ok h
  split at returned
  · rename_i curve ofCurve
    exact validated_has expects ofCurve returned
  · cases returned

/-- Both loading paths of an elliptic-curve algorithm end in the type and curve checks. -/
theorem ECAlgorithm.loadKey_has {self : ECAlgorithm} {expected : Curve}
    (expects : self.expectedCurve = some expected) {keyBytes : Bytes} {prepared : Key}
    (h : self.loadKey env keyBytes = .ok prepared)
    : (KeyFamily.ec expected).Has prepared := by
  have loaded {loader : Outcome KeyObject} (h : loader >>= self.checked env = .ok prepared)
      : (KeyFamily.ec expected).Has prepared := by
    obtain ⟨object, _, checked⟩ := outcome_bind_eq_ok.mp h
    exact checked_has expects checked
  unfold loadKey at h
  rcases tryExcept_eq_ok.mp h with first | ⟨_, _, _, second⟩
  · split at first
    · exact loaded first
    · exact loaded first
  · exact loaded second

/-- A key that is no text passes the curve check too. -/
theorem ECAlgorithm.prepareKey_has {self : ECAlgorithm} {expected : Curve}
    (expects : self.expectedCurve = some expected) {key prepared : Key}
    (h : self.prepareKey env key = .ok prepared)
    : (KeyFamily.ec expected).Has prepared := by
  cases key with
  | none => cases h
  | object object =>
      unfold prepareKey at h
      simp only at h
      split at h
      · rename_i curve ofCurve
        exact validated_has expects ofCurve h
      · cases h
  | str _ | bytes _ =>
      obtain ⟨keyBytes, _, returned⟩ := outcome_bind_eq_ok.mp h
      exact loadKey_has expects returned

/-- A key that is loaded from text passes the type check. -/
theorem OKPAlgorithm.loadKey_has {keyStr : PyStr} {keyBytes : Bytes} {prepared : Key}
    (h : (do
        let loadedKey ← loadKey env keyStr keyBytes
        checkCryptoKeyType env "OKPAlgorithm" cryptoKeyTypes (.object loadedKey)
        return Key.object loadedKey)
      = .ok prepared)
    : KeyFamily.edwards.Has prepared := by
  obtain ⟨object, _, h⟩ := outcome_bind_eq_ok.mp h
  obtain ⟨accepted, returned⟩ := checkCryptoKeyType_bind_ok h
  cases returned
  exact has_of_cryptoKeyTypes accepted

/-- Every path of the Edwards algorithm ends in the type check. -/
theorem OKPAlgorithm.prepareKey_has {key prepared : Key}
    (h : prepareKey env key = .ok prepared)
    : KeyFamily.edwards.Has prepared := by
  cases key with
  | none =>
      obtain ⟨⟨⟩, checked, _⟩ := outcome_bind_eq_ok.mp h
      obtain ⟨_, impossible, _⟩ := checkCryptoKeyType_ok checked
      cases impossible
  | object object =>
      obtain ⟨accepted, returned⟩ := checkCryptoKeyType_bind_ok h
      cases returned
      exact has_of_cryptoKeyTypes accepted
  | str _ | bytes _ =>
      obtain ⟨_, _, h⟩ := outcome_bind_eq_ok.mp h
      exact loadKey_has h

theorem HMACAlgorithm.prepareKey_has {key prepared : Key}
    (h : prepareKey env key = .ok prepared)
    : KeyFamily.secret.Has prepared := by
  obtain ⟨keyBytes, _, h⟩ := outcome_bind_eq_ok.mp h
  split at h
  · cases h
  · cases h
    exact ⟨keyBytes, rfl⟩

theorem NoneAlgorithm.prepareKey_has {key prepared : Key} (h : prepareKey key = .ok prepared)
    : KeyFamily.absent.Has prepared := by
  have settled (key : Key)
      (h : (if key ≠ .none then
          .error ⟨.invalidKeyError, [.text "When alg = \"none\", key value must be None."]⟩
        else .ok key : Outcome Key) = .ok prepared)
      : prepared = .none := by
    rcases ite_eq_iff.mp h with ⟨_, impossible⟩ | ⟨absent, returned⟩
    · cases impossible
    · cases returned
      exact not_not.mp absent
  exact settled _ h

/-- A key that a handler prepares is of the family the handler is made for. -/
theorem Algorithm.prepareKey_has {handler : Algorithm} {family : KeyFamily}
    (made : handler.family? = some family) {key prepared : Key}
    (h : handler.prepareKey env key = .ok prepared)
    : family.Has prepared := by
  cases handler with
  | none =>
      cases made
      exact NoneAlgorithm.prepareKey_has h
  | hmac self =>
      cases made
      exact HMACAlgorithm.prepareKey_has h
  | rsa self =>
      cases made
      exact RSAAlgorithm.prepareKey_has h
  | ec self =>
      obtain ⟨expected, expects, rfl⟩ := Option.map_eq_some_iff.mp made
      exact ECAlgorithm.prepareKey_has expects h
  | okp =>
      cases made
      exact OKPAlgorithm.prepareKey_has h
  | custom self => cases made

-----------------------------------------------------------------------------------------
-- Calls of the primitives
-----------------------------------------------------------------------------------------

/-- The event is a call of `sign` or `verify`. -/
def Event.IsCall (event : Event) : Prop :=
  ∃ handler msg prepared,
    event = .sign handler msg prepared ∨ ∃ sig, event = .verify handler msg prepared sig

/-- If the event calls a default algorithm, its key is of the algorithm's family. -/
def Event.KeyFits (env : Env) (event : Event) : Prop :=
  ∀ handler msg prepared,
    (event = .sign handler msg prepared ∨ ∃ sig, event = .verify handler msg prepared sig)
    → ∀ name,
      (getDefaultAlgorithms env).get? name = some handler
      → ∃ family, getEntry name keyFamilies = some family ∧ family.Has prepared

/-- A warning is no call, so it fits. -/
theorem Event.keyFits_of_warning {event : Event}
    (h : ∃ message, event = .insecureKeyLength message)
    : event.KeyFits env := by
  obtain ⟨message, rfl⟩ := h
  intro handler msg prepared called
  rcases called with impossible | ⟨_, impossible⟩
  · cases impossible
  · cases impossible

/-- A handler is called with a key it prepared, so the call fits. -/
theorem Event.keyFits_of_prepared {event : Event} {handler : Algorithm} {msg : Bytes}
    {key prepared : Key} (prepares : handler.prepareKey env key = .ok prepared)
    (called : event = .sign handler msg prepared ∨ ∃ sig, event = .verify handler msg prepared sig)
    : event.KeyFits env := by
  intro handler' msg' prepared' called' name default
  have same : handler' = handler ∧ prepared' = prepared := by
    rcases called with rfl | ⟨sig, rfl⟩
    · rcases called' with same | ⟨_, impossible⟩
      · cases same
        exact ⟨rfl, rfl⟩
      · cases impossible
    · rcases called' with impossible | ⟨_, same⟩
      · cases impossible
      · cases same
        exact ⟨rfl, rfl⟩
  obtain ⟨rfl, rfl⟩ := same
  obtain ⟨family, found, made⟩ := family?_of_default default
  exact ⟨family, found, Algorithm.prepareKey_has made prepares⟩

namespace PyJWS

variable {jws : PyJWS} {key : KeyArg}

/-- An encode calls `sign` with fitting keys only. -/
theorem encode_keyFits {payload : Bytes} {algorithm : AlgorithmArg}
    {headers : Option (Dict Json)} {isPayloadDetached sortHeaders : Bool} {event : Event}
    (h : event ∈ (jws.encode env payload key algorithm headers isPayloadDetached
      sortHeaders).log)
    : event.KeyFits env := by
  obtain ⟨_, _, _, _, handler, _, warned | ⟨prepared, prepares, _, called⟩⟩ :=
    mem_encode_log.mp h
  · exact Event.keyFits_of_warning (prepareSigningKey_logs jws handler key event warned)
  · exact Event.keyFits_of_prepared prepares (Or.inl called)

/-- An encode that returns has called `sign`. -/
theorem encode_calls {payload : Bytes} {algorithm : AlgorithmArg}
    {headers : Option (Dict Json)} {isPayloadDetached sortHeaders : Bool} {token : PyStr}
    (h : (jws.encode env payload key algorithm headers isPayloadDetached sortHeaders).result
      = .ok token)
    : ∃ event ∈ (jws.encode env payload key algorithm headers isPayloadDetached
        sortHeaders).log, event.IsCall := by
  obtain ⟨alg, detached, header, data, handler, prepared, signature, settles, prepares, length,
    _⟩ := encode_eq_ok.mp h
  exact ⟨.sign handler (signedBytes data detached payload) prepared,
    mem_encode_log.mpr ⟨_, _, _, _, _, settles, Or.inr ⟨prepared, prepares, length, rfl⟩⟩,
    _, _, _, Or.inl rfl⟩

variable {jwt : TextArg} {algorithms : Option (List PyStr)} {options : Option SigOptions}
  {detachedPayload : Option Bytes}

/-- A decode calls `verify` with fitting keys only. -/
theorem decodeComplete_keyFits {event : Event}
    (h : event ∈ (jws.decodeComplete env jwt key algorithms options detachedPayload).log)
    : event.KeyFits env := by
  obtain ⟨_, _, _, _, _, _, _, member⟩ := mem_decodeComplete_log.mp h
  obtain ⟨_, handler, _, _, warned | ⟨prepared, prepares, _, called⟩⟩ :=
    mem_verifySignature_log.mp member
  · exact Event.keyFits_of_warning (prepareSigningKey_logs jws handler key event warned)
  · exact Event.keyFits_of_prepared prepares (Or.inr ⟨_, called⟩)

/-- A verified decode that returns has called `verify`. -/
theorem decodeComplete_calls {decoded : Decoded}
    (verifying : (jws.options.merge options).verifySignature = true)
    (h : (jws.decodeComplete env jwt key algorithms options detachedPayload).result
      = .ok decoded)
    : ∃ event ∈ (jws.decodeComplete env jwt key algorithms options detachedPayload).log,
        event.IsCall := by
  obtain ⟨segments, loaded, signingInput, opens, _, _, verified⟩ := decodeComplete_eq_ok.mp h
  obtain ⟨named, alg, handler, prepared, verifies⟩ := verified verifying
  exact ⟨.verify handler signingInput prepared loaded.signature,
    mem_decodeComplete_log.mpr ⟨verifying, named, segments, loaded, _, signingInput, opens,
      mem_verifySignature_log.mpr ⟨alg, handler, verifies.allowed, verifies.chosen,
        Or.inr ⟨prepared, verifies.prepares, verifies.length, rfl⟩⟩⟩,
    _, _, _, Or.inr ⟨_, rfl⟩⟩

end PyJWS

/-- Without a call there is no result, so a run that makes none raises. -/
theorem raises_of_no_call {α : Type} {run : Run α}
    (calls : ∀ value, run.result = .ok value → ∃ event ∈ run.log, event.IsCall)
    (h : ∀ event ∈ run.log, ¬event.IsCall)
    : ∃ error, run.result = .error error := by
  cases returned : run.result with
  | ok value =>
      obtain ⟨event, member, called⟩ := calls value returned
      exact absurd called (h event member)
  | error error => exact ⟨error, rfl⟩

/-- Whatever the key and the loaders, `sign` and `verify` of a default algorithm see only keys
of its family; and a run in which neither is called raises.
-/
theorem calls_keyFit (env : Env) (jws : PyJWS) (key : KeyArg)
    : (∀ (payload : Bytes) (algorithm : AlgorithmArg) (headers : Option (Dict Json))
          (isPayloadDetached sortHeaders : Bool),
        (∀ event ∈ (jws.encode env payload key algorithm headers isPayloadDetached
              sortHeaders).log,
          event.KeyFits env)
        ∧ ((∀ event ∈ (jws.encode env payload key algorithm headers isPayloadDetached
                sortHeaders).log,
            ¬event.IsCall)
          → ∃ error,
              (jws.encode env payload key algorithm headers isPayloadDetached
                  sortHeaders).result
                = .error error))
      ∧ ∀ (jwt : TextArg) (algorithms : Option (List PyStr)) (options : Option SigOptions)
          (detachedPayload : Option Bytes),
          (∀ event ∈ (jws.decodeComplete env jwt key algorithms options
                detachedPayload).log,
            event.KeyFits env)
          ∧ ((jws.options.merge options).verifySignature = true
            → (∀ event ∈ (jws.decodeComplete env jwt key algorithms options
                  detachedPayload).log,
                ¬event.IsCall)
            → ∃ error,
                (jws.decodeComplete env jwt key algorithms options detachedPayload).result
                  = .error error) := by
  refine ⟨?_, ?_⟩
  · intro payload algorithm headers isPayloadDetached sortHeaders
    exact ⟨fun event member => PyJWS.encode_keyFits member,
      raises_of_no_call (fun token returned => PyJWS.encode_calls returned)⟩
  · intro jwt algorithms options detachedPayload
    exact ⟨fun event member => PyJWS.decodeComplete_keyFits member,
      fun verifying => raises_of_no_call (fun decoded returned =>
        PyJWS.decodeComplete_calls verifying returned)⟩

/-- A secret signs a token; without a key nothing is called, and both runs raise. -/
theorem calls_keyFit_secret
    : (∃ msg,
        Event.sign (.hmac ⟨.sha256⟩) msg (.bytes (ascii "kk"))
          ∈ ((PyJWS.init roundTripEnv none none).encode roundTripEnv (ascii "a.b")
            (.raw (.bytes (ascii "kk"))) (.name "HS256") (some roundTripHeaders) true
            false).log
        ∧ KeyFamily.secret.Has (.bytes (ascii "kk")))
      ∧ (∃ error,
        ((PyJWS.init roundTripEnv none none).encode roundTripEnv (ascii "a.b") (.raw .none)
            (.name "HS256") none true false).result
          = .error error)
      ∧ ∃ error,
        ((PyJWS.init digestEnv none none).decodeComplete digestEnv (.bytes signedToken)
            (.raw .none) (some ["HS256"]) none none).result
          = .error error := by
  have silent {log : List Event} (h : log.isEmpty = true) : ∀ event ∈ log, ¬event.IsCall := by
    intro event member
    rw [List.isEmpty_iff.mp h] at member
    cases member
  have registered : (PyJWS.init roundTripEnv none none).algorithms.get? "HS256"
      = some (.hmac ⟨.sha256⟩) :=
    rfl
  have plain : PlainHeaders ((some roundTripHeaders).getD Dict.empty) := roundTripHeaders_plain
  obtain ⟨msg, _, _, _, called, _⟩ :=
    PyJWS.decode_encode registered (by decide) keyPair_kk plain roundTripHeaders_inverts
      (ascii "a.b")
  obtain ⟨family, found, has⟩ :=
    ((calls_keyFit _ _ _).1 _ _ _ _ _).1 _ called _ msg _ (Or.inl rfl) "HS256" rfl
  cases found
  refine ⟨⟨msg, called, has⟩, ?_, ?_⟩
  · exact ((calls_keyFit _ _ (.raw .none)).1 _ _ _ _ _).2 (silent (by decide +kernel))
  · exact ((calls_keyFit _ _ (.raw .none)).2 _ _ _ _).2 rfl (silent (by decide +kernel))

end PyJwt
