import PyJwt.Correctness.JwsRoundTrip
import PyJwt.Correctness.KeyFamilies

/-! A prepared key is prepared as itself. So the text of a key and a `PyJWK` that holds the key it
stands for are interchangeable, in everything a call does.
-/

namespace PyJwt

open Foundations
open Python

variable {env : Env}

-----------------------------------------------------------------------------------------
-- Preparing twice
-----------------------------------------------------------------------------------------

/-- What passed the HMAC checks as bytes passes them again. -/
theorem HMACAlgorithm.prepareKey_prepared {key prepared : Key}
    (h : prepareKey env key = .ok prepared)
    : prepareKey env prepared = .ok prepared := by
  obtain ⟨keyBytes, _, returned⟩ := outcome_bind_eq_ok.mp h
  split at returned
  · cases returned
  · rename_i accepted
    obtain rfl := Except.ok.inj returned
    simp only [prepareKey, Key.asText, forceBytes, outcome_ok_bind, if_neg accepted]
    rfl

theorem RSAAlgorithm.prepareKey_prepared {self : RSAAlgorithm} {key prepared : Key}
    (h : self.prepareKey env key = .ok prepared)
    : self.prepareKey env prepared = .ok prepared := by
  rcases prepareKey_has h with ⟨numbers, rfl⟩ | ⟨numbers, rfl⟩
  · rfl
  · rfl

/-- A key of the curve is an object that is checked for nothing else. -/
theorem ECAlgorithm.prepareKey_prepared {self : ECAlgorithm} {expected : Curve}
    (expects : self.expectedCurve = some expected) {key prepared : Key}
    (h : self.prepareKey env key = .ok prepared)
    : self.prepareKey env prepared = .ok prepared := by
  obtain ⟨object, rfl, ofCurve⟩ := prepareKey_has expects h
  have valid : self.validateCurve expected = .ok () := by
    simp [validateCurve, expects]
  simp only [prepareKey, ofCurve, valid, outcome_ok_bind]
  rfl

/-- A loaded key passes the check that an object passes. -/
theorem OKPAlgorithm.prepareKey_prepared {key prepared : Key}
    (h : prepareKey env key = .ok prepared)
    : prepareKey env prepared = .ok prepared := by
  have returnsItself {object : KeyObject}
      (checked : checkCryptoKeyType env "OKPAlgorithm" cryptoKeyTypes (.object object) = .ok ())
      : prepareKey env (.object object) = .ok (.object object) := by
    simp only [prepareKey, checked, outcome_ok_bind]
    rfl
  cases key with
  | none | object _ =>
      obtain ⟨⟨⟩, _, returned⟩ := outcome_bind_eq_ok.mp h
      cases returned
      exact h
  | str _ | bytes _ =>
      obtain ⟨⟨keyStr, keyBytes⟩, _, loading⟩ := outcome_bind_eq_ok.mp h
      obtain ⟨loadedKey, _, checking⟩ := outcome_bind_eq_ok.mp loading
      obtain ⟨⟨⟩, checked, returned⟩ := outcome_bind_eq_ok.mp checking
      cases returned
      exact returnsItself checked

/-- Every algorithm of the library prepares a prepared key as itself. -/
theorem Algorithm.prepareKey_prepared {handler : Algorithm} {family : KeyFamily}
    (made : handler.family? = some family) {key prepared : Key}
    (h : handler.prepareKey env key = .ok prepared)
    : handler.prepareKey env prepared = .ok prepared := by
  cases handler with
  | none =>
      obtain rfl := NoneAlgorithm.prepareKey_has h
      rfl
  | hmac self => exact HMACAlgorithm.prepareKey_prepared h
  | rsa self => exact RSAAlgorithm.prepareKey_prepared h
  | ec self =>
      obtain ⟨expected, expects, _⟩ := Option.map_eq_some_iff.mp made
      exact ECAlgorithm.prepareKey_prepared expects h
  | okp => exact OKPAlgorithm.prepareKey_prepared h
  | custom self => cases made

-----------------------------------------------------------------------------------------
-- A text and a `PyJWK`
-----------------------------------------------------------------------------------------

/-- The `PyJWK` holds what the handler of the name prepares the key as. -/
structure HoldsPrepared (env : Env) (name : PyStr) (handler : Algorithm) (key : Key) (jwk : PyJWK)
    : Prop where
  algorithmName : jwk.algorithmName = name
  algorithm : jwk.algorithm = handler
  prepares : handler.prepareKey env key = .ok jwk.key
  again : handler.prepareKey env jwk.key = .ok jwk.key

namespace PyJWS

variable {jws : PyJWS} {name : PyStr} {handler : Algorithm} {key : Key} {jwk : PyJWK}

/-- The two are prepared alike, with the same warnings. -/
theorem prepareSigningKey_jwk (jws : PyJWS) (holds : HoldsPrepared env name handler key jwk)
    : jws.prepareSigningKey env handler (.jwk jwk)
      = jws.prepareSigningKey env handler (.raw key) := by
  simp only [prepareSigningKey, KeyArg.unwrap, holds.prepares, holds.again]

/-- Verifying with the one calls the same algorithm on the same arguments as with the other. -/
theorem verifySignature_jwk (registered : jws.algorithms.get? name = some handler)
    (holds : HoldsPrepared env name handler key jwk) (signingInput : Bytes) (header : Dict Json)
    (signature : Bytes) {algorithms : Option (List PyStr)}
    (allows : effectiveAlgorithms (.jwk jwk) algorithms = some [name])
    : jws.verifySignature env signingInput header signature (.jwk jwk) algorithms
      = jws.verifySignature env signingInput header signature (.raw key) (some [name]) := by
  have same : effectiveAlgorithms (.raw key) (some [name]) = some [name] := rfl
  unfold verifySignature
  rw [allows, same]
  cases allowed : allowedAlg header (some [name]) with
  | error error => rfl
  | ok alg =>
      obtain ⟨_, _, listed⟩ := allowedAlg_eq_ok.mp allowed
      obtain ⟨other, member, rfl⟩ := listed [name] rfl
      obtain rfl := List.mem_singleton.mp member
      have byKey : jws.verifyingAlgorithm env (.str other) (.jwk jwk) = .ok handler :=
        congrArg Except.ok holds.algorithm
      have byName : jws.verifyingAlgorithm env (.str other) (.raw key) = .ok handler :=
        tryExcept_raise_eq_ok.mpr (getAlgorithmByName_str_eq_ok.mpr registered)
      simp only [Traced.liftM_eq_ofExcept, Traced.ofExcept_ok_bind, byKey, byName,
        jws.prepareSigningKey_jwk holds]

/-- A decode with the one, whether the algorithm is listed or left to the key, does and returns
what a decode with the other does.
-/
theorem decodeComplete_jwk (registered : jws.algorithms.get? name = some handler)
    (holds : HoldsPrepared env name handler key jwk) (jwt : TextArg)
    {algorithms : Option (List PyStr)}
    (allows : effectiveAlgorithms (.jwk jwk) algorithms = some [name])
    (options : Option SigOptions) (detachedPayload : Option Bytes)
    : jws.decodeComplete env jwt (.jwk jwk) algorithms options detachedPayload
      = jws.decodeComplete env jwt (.raw key) (some [name]) options detachedPayload := by
  have brings : KeyArg.isJwk (.jwk jwk) = true := rfl
  have lists : listsAlgorithms (some [name]) = true := rfl
  simp only [decodeComplete, brings, lists, Bool.not_true, Bool.and_false, Bool.false_and,
    jws.verifySignature_jwk registered holds _ _ _ allows]

/-- An encode with the one, which leaves the algorithm to the key, does and returns what an encode
with the other under the name does, unless the caller's headers name an algorithm.
-/
theorem encode_jwk (registered : jws.algorithms.get? name = some handler)
    (holds : HoldsPrepared env name handler key jwk) (payload : Bytes)
    {headers : Option (Dict Json)}
    (unnamed : (headers.getD Dict.empty).get? "alg" = none) (isPayloadDetached sortHeaders : Bool)
    : jws.encode env payload (.jwk jwk) .unset headers isPayloadDetached sortHeaders
      = jws.encode env payload (.raw key) (.name name) headers isPayloadDetached
          sortHeaders := by
  have sameDefault : resolveAlgorithm .unset (.jwk jwk) headers isPayloadDetached
      = resolveAlgorithm (.name name) (.raw key) headers isPayloadDetached := by
    simp only [resolveAlgorithm, holds.algorithmName]
  obtain ⟨detached, resolved⟩ : ∃ detached,
      resolveAlgorithm (.name name) (.raw key) headers isPayloadDetached
        = (.str name, detached) := by
    unfold resolveAlgorithm
    cases found : givenHeaders headers with
    | none => exact ⟨_, rfl⟩
    | some given =>
        rw [givenHeaders_get?, found, Option.bind_some] at unnamed
        simp [getOrNull, unnamed, Json.truthy]
  have chosen : jws.getAlgorithmByName env (.str name) = .ok handler :=
    getAlgorithmByName_str_eq_ok.mpr registered
  simp only [encode, sameDefault, resolved, chosen, Traced.liftM_eq_ofExcept,
    Traced.ofExcept_ok_bind, jws.prepareSigningKey_jwk holds]

end PyJWS

variable {name : PyStr} {handler : Algorithm}

/-- A key that an algorithm of the library accepts as text, and a `PyJWK` of that algorithm with
the key that the text stands for, are interchangeable: encodes do the same and make the same
token, decodes of any token do and return the same.
-/
theorem preparedKey_interchangeable {family : KeyFamily} (made : handler.family? = some family)
    {key prepared : Key} (prepares : handler.prepareKey env key = .ok prepared)
    (jwkData : Dict Json) {jws : PyJWS} (registered : jws.algorithms.get? name = some handler)
    {headers : Option (Dict Json)} (unnamed : (headers.getD Dict.empty).get? "alg" = none)
    : (∀ (payload : Bytes) (isPayloadDetached sortHeaders : Bool),
        jws.encode env payload (.jwk ⟨jwkData, name, handler, prepared⟩) .unset headers
            isPayloadDetached sortHeaders
          = jws.encode env payload (.raw key) (.name name) headers isPayloadDetached
              sortHeaders)
      ∧ ∀ (jwt : TextArg) (algorithms : Option (List PyStr)) (options : Option SigOptions)
          (detachedPayload : Option Bytes),
          algorithms = none ∨ algorithms = some [name]
          → jws.decodeComplete env jwt (.jwk ⟨jwkData, name, handler, prepared⟩) algorithms
                options detachedPayload
              = jws.decodeComplete env jwt (.raw key) (some [name]) options detachedPayload := by
  have holds : HoldsPrepared env name handler key ⟨jwkData, name, handler, prepared⟩ := {
    algorithmName := rfl
    algorithm := rfl
    prepares := prepares
    again := Algorithm.prepareKey_prepared made prepares
  }
  constructor
  · intro payload isPayloadDetached sortHeaders
    exact PyJWS.encode_jwk registered holds payload unnamed isPayloadDetached sortHeaders
  · intro jwt algorithms options detachedPayload allows
    refine PyJWS.decodeComplete_jwk registered holds jwt ?_ options detachedPayload
    rcases allows with rfl | rfl
    · rfl
    · rfl

/-- The secret `kk` as a string, and a `PyJWK` of its bytes. -/
theorem preparedKey_interchangeable_secret
    : (PyJWS.init roundTripEnv none none).encode roundTripEnv (ascii "a.b")
          (.jwk ⟨Dict.empty, "HS256", .hmac ⟨.sha256⟩, .bytes (ascii "kk")⟩) .unset none false true
        = (PyJWS.init roundTripEnv none none).encode roundTripEnv (ascii "a.b")
            (.raw (.str "kk")) (.name "HS256") none false true
      ∧ ∀ jwt : TextArg,
          (PyJWS.init roundTripEnv none none).decodeComplete roundTripEnv jwt
              (.jwk ⟨Dict.empty, "HS256", .hmac ⟨.sha256⟩, .bytes (ascii "kk")⟩) none none none
            = (PyJWS.init roundTripEnv none none).decodeComplete roundTripEnv jwt
                (.raw (.str "kk")) (some ["HS256"]) none none := by
  have prepares : (Algorithm.hmac ⟨.sha256⟩).prepareKey roundTripEnv (.str "kk")
      = .ok (.bytes (ascii "kk")) := by
    have encodes : encodeStr "kk" = .ok (ascii "kk") := rfl
    have secret : (isPemFormat pems (ascii "kk") || isSshKey (ascii "kk")) = false := by
      decide
    show HMACAlgorithm.prepareKey roundTripEnv (.str "kk") = _
    simp only [HMACAlgorithm.prepareKey, Key.asText, forceBytes, encodes, outcome_ok_bind,
      roundTripEnv, Env.withoutCryptography, secret]
    rfl
  have both := @preparedKey_interchangeable roundTripEnv "HS256" (.hmac ⟨.sha256⟩) .secret rfl _ _
    prepares Dict.empty (PyJWS.init roundTripEnv none none) rfl none rfl
  exact ⟨both.1 _ _ _, fun jwt => both.2 jwt none none none (Or.inl rfl)⟩

end PyJwt
