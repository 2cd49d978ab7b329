import PyJwt.Correctness.ImportedKeys
import PyJwt.Correctness.JwkAlgorithm
import PyJwt.Correctness.JwkSetLoading

/-! Loading an exported key as a `PyJWK`. An export names no algorithm, so the key is used with
the one inferred from its type and curve, by tables of their own.
-/

namespace PyJwt

open Foundations
open Python

variable {env : Env}

/-- The family of the class that the handler is an instance of. -/
def Algorithm.jwkFamily? : Algorithm → Option JwkFamily
  | .hmac _ => some .oct
  | .rsa _ => some .rsa
  | .ec _ => some .ec
  | .okp => some .okp
  | .none | .custom _ => Option.none

/-- Every handler of the family imports alike. -/
theorem Algorithm.fromJwk_eq {handler : Algorithm} {family : JwkFamily}
    (isOf : handler.jwkFamily? = some family)
    : handler.fromJwk env = family.fromJwk env := by
  cases handler with
  | hmac _ | rsa _ | ec _ | okp =>
      cases isOf
      rfl
  | none | custom _ => cases isOf

/-- The value of `kty` in the exports of the family. -/
def JwkFamily.kty : JwkFamily → PyStr
  | oct => "oct"
  | rsa => "RSA"
  | ec => "EC"
  | okp => "OKP"

/-- The curve of an Edwards key. -/
def Key.edCurve? : Key → Option EdCurve
  | .object (.edPublic curve _) | .object (.edPrivate curve _) => some curve
  | _ => Option.none

-----------------------------------------------------------------------------------------
-- The members that the algorithm is inferred from
-----------------------------------------------------------------------------------------

/-- The object is an export of the key that states its type and curve, and no algorithm. -/
structure Describes (family : JwkFamily) (key : Key) (obj : Dict Json) : Prop where
  kty : obj.get? "kty" = some (.str family.kty)
  alg : obj.get? "alg" = none
  curve
    : ∀ curve,
        (KeyFamily.ec curve).Has key
        → ∃ crv, jwkCurveName curve = .ok crv ∧ obj.get? "crv" = some (.str crv)
  edCurve
    : ∀ curve,
        key.edCurve? = some curve → obj.get? "crv" = some (.str (OKPAlgorithm.crvName curve))

/-- A key has the curve of its numbers only. -/
theorem ECAlgorithm.curve_eq_of_has {curve : Curve} {object : KeyObject}
    (h : (KeyFamily.ec curve).Has (.object object))
    : keyCurve? object = some curve := by
  obtain ⟨_, same, ofCurve⟩ := h
  cases same
  exact ofCurve

/-- Every key of a family is exported with the members that describe it, by cases on the key. -/
theorem JwkFamily.toJwk_describes {family : JwkFamily} {source key : Key}
    (holds : family.Holds env source key)
    : ∃ obj : Dict Json,
        family.toJwk env source true = .ok obj.toJson ∧ Describes family key obj := by
  cases holds with
  | secret encodes =>
      exact ⟨_, HMACAlgorithm.toJwk_eq encodes true, rfl, rfl, nofun, nofun⟩
  | @rsaPublic numbers _ =>
      obtain ⟨n, e, _, _, exports⟩ := RSAAlgorithm.toJwk_public env numbers
      refine ⟨_, exports true, rfl, rfl, fun curve has => ?_, nofun⟩
      cases ECAlgorithm.curve_eq_of_has has
  | @rsaPrivate numbers _ =>
      obtain ⟨n, e, d, p, q, dp, dq, qi, _, _, _, _, _, _, _, _, exports⟩ :=
        RSAAlgorithm.toJwk_private env numbers
      have stored (name : PyStr) := RSAAlgorithm.privateObject_get? n e d p q dp dq qi name
      refine ⟨_, exports true, stored _, stored _, fun curve has => ?_, nofun⟩
      cases ECAlgorithm.curve_eq_of_has has
  | @ecPublic numbers named small _ =>
      obtain ⟨wide, crv, exported, _⟩ := ECAlgorithm.curve_exchanges named
      obtain ⟨x, y, _, _, exports⟩ :=
        ECAlgorithm.toJwk_public env wide exported (ECAlgorithm.pointFits_of_small small)
      refine ⟨_, exports true, rfl, rfl, fun curve has => ⟨crv, ?_, rfl⟩, nofun⟩
      cases ECAlgorithm.curve_eq_of_has has
      exact exported
  | @ecPrivate numbers named small smallValue _ =>
      obtain ⟨wide, crv, exported, _⟩ := ECAlgorithm.curve_exchanges named
      obtain ⟨x, y, d, _, _, _, exports⟩ :=
        ECAlgorithm.toJwk_private env wide exported (ECAlgorithm.pointFits_of_small small)
          (ECAlgorithm.fits_of_small smallValue)
      refine ⟨_, exports true, rfl, rfl, fun curve has => ⟨crv, ?_, rfl⟩, nofun⟩
      cases ECAlgorithm.curve_eq_of_has has
      exact exported
  | @edPublic curve raw _ =>
      refine ⟨_, OKPAlgorithm.toJwk_public env curve raw true, rfl, rfl, ?_, ?_⟩
      · intro curve has
        cases ECAlgorithm.curve_eq_of_has has
      · intro other same
        cases same
        rfl
  | @edPrivate curve raw _ =>
      refine ⟨_, OKPAlgorithm.toJwk_private env curve raw true, rfl, rfl, ?_, ?_⟩
      · intro curve has
        cases ECAlgorithm.curve_eq_of_has has
      · intro other same
        cases same
        rfl

-----------------------------------------------------------------------------------------
-- The inferred algorithm
-----------------------------------------------------------------------------------------

/-- The handler is the default under the name, and is made for the key. -/
def Suits (env : Env) (family : JwkFamily) (key : Key) (name : PyStr) (handler : Algorithm)
    : Prop :=
  (getDefaultAlgorithms env).get? name = some handler
  ∧ handler.jwkFamily? = some family
  ∧ ∃ made, handler.family? = some made ∧ made.Has key

/-- Every curve that is exported has a default algorithm that is inferred from its name and
expects keys on the curve.
-/
theorem ecCrvToAlgorithm_agrees (hasCrypto : env.hasCrypto = true) {curve : Curve} {crv : PyStr}
    (exported : jwkCurveName curve = .ok crv)
    : crv ≠ ""
      ∧ ∃ name self,
          getEntry crv ecCrvToAlgorithm = some name
          ∧ (getDefaultAlgorithms env).get? name = some (.ec self)
          ∧ self.expectedCurve = some curve := by
  unfold jwkCurveName at exported
  cases found : jwkEcCurves.find? (fun entry => entry.2.1 = curve) with
  | none => simp [found] at exported
  | some entry =>
      rw [found] at exported
      cases exported
      have onCurve : entry.2.1 = curve := by
        simpa using List.find?_some found
      subst onCurve
      have member := List.mem_of_find?_eq_some found
      unfold getDefaultAlgorithms
      rw [hasCrypto]
      simp only [jwkEcCurves, List.mem_cons, List.not_mem_nil, or_false] at member
      rcases member with rfl | rfl | rfl | rfl
      · exact ⟨by decide, "ES256", _, rfl, rfl, rfl⟩
      · exact ⟨by decide, "ES384", _, rfl, rfl, rfl⟩
      · exact ⟨by decide, "ES512", _, rfl, rfl, rfl⟩
      · exact ⟨by decide, "ES256K", _, rfl, rfl, rfl⟩

/-- The curve of an exported elliptic-curve key selects an algorithm that expects the curve. -/
theorem infers_ec {key : Key} {obj : Dict Json} (described : Describes .ec key obj)
    (hasCrypto : env.hasCrypto = true) {curve : Curve} (has : (KeyFamily.ec curve).Has key)
    : ∃ name handler,
        PyJWK.inferAlgorithmFromKty obj (.str "EC") = .ok name
        ∧ Suits env .ec key name handler := by
  obtain ⟨crv, exported, stated⟩ := described.curve curve has
  obtain ⟨nonempty, name, self, selected, registered, expects⟩ :=
    ecCrvToAlgorithm_agrees hasCrypto exported
  have isCrv : getOrNull obj "crv" = .str crv := by
    rw [getOrNull, stated]
    rfl
  have truthy : (Json.str crv).truthy = true := decide_eq_true nonempty
  refine ⟨name, .ec self, ?_, registered, rfl, .ec curve, ?_, has⟩
  · unfold PyJWK.inferAlgorithmFromKty
    simp only [isCrv, truthy, Bool.not_true, Bool.false_eq_true, if_false]
    exact PyJWK.lookupJson_eq_ok.mpr ⟨crv, rfl, selected⟩
  · show self.expectedCurve.map KeyFamily.ec = _
    rw [expects]
    rfl

/-- An exported Ed25519 key selects `EdDSA`. -/
theorem infers_ed25519 {key : Key} {obj : Dict Json} (described : Describes .okp key obj)
    (hasCrypto : env.hasCrypto = true) (isCurve : key.edCurve? = some .ed25519)
    (has : KeyFamily.edwards.Has key)
    : ∃ name handler,
        PyJWK.inferAlgorithmFromKty obj (.str "OKP") = .ok name
        ∧ Suits env .okp key name handler := by
  have isCrv : getOrNull obj "crv" = .str "Ed25519" := by
    rw [getOrNull, described.edCurve _ isCurve]
    rfl
  refine ⟨"EdDSA", .okp, ?_, ?_, rfl, .edwards, rfl, has⟩
  · unfold PyJWK.inferAlgorithmFromKty
    simp only [isCrv]
    rfl
  · unfold getDefaultAlgorithms
    rw [hasCrypto]
    rfl

theorem infers_rsa {key : Key} {obj : Dict Json} (hasCrypto : env.hasCrypto = true)
    (has : KeyFamily.rsa.Has key)
    : ∃ name handler,
        PyJWK.inferAlgorithmFromKty obj (.str "RSA") = .ok name
        ∧ Suits env .rsa key name handler := by
  refine ⟨"RS256", .rsa ⟨.sha256, .pkcs1v15⟩, rfl, ?_, rfl, .rsa, rfl, has⟩
  unfold getDefaultAlgorithms
  rw [hasCrypto]
  rfl

theorem infers_oct {key : Key} {obj : Dict Json} (has : KeyFamily.secret.Has key)
    : ∃ name handler,
        PyJWK.inferAlgorithmFromKty obj (.str "oct") = .ok name
        ∧ Suits env .oct key name handler := by
  refine ⟨"HS256", .hmac ⟨.sha256⟩, rfl, ?_, rfl, .secret, rfl, has⟩
  unfold getDefaultAlgorithms
  cases env.hasCrypto <;> rfl

/-- The type and curve of an exported key select a default algorithm made for the key, unless
the curve is Ed448.
-/
theorem infers_of_describes {family : JwkFamily} {source key : Key} {obj : Dict Json}
    (holds : family.Holds env source key) (described : Describes family key obj)
    (present : family ≠ .oct → env.hasCrypto = true)
    (supported : key.edCurve? ≠ some .ed448)
    : ∃ name handler,
        PyJWK.inferAlgorithmFromKty obj (.str family.kty) = .ok name
        ∧ Suits env family key name handler := by
  cases holds with
  | @secret _ data _ => exact infers_oct ⟨data, rfl⟩
  | @rsaPublic numbers _ => exact infers_rsa (present (by simp)) (Or.inl ⟨numbers, rfl⟩)
  | @rsaPrivate numbers _ => exact infers_rsa (present (by simp)) (Or.inr ⟨numbers, rfl⟩)
  | ecPublic _ _ _ => exact infers_ec described (present (by simp)) ⟨_, rfl, rfl⟩
  | ecPrivate _ _ _ _ => exact infers_ec described (present (by simp)) ⟨_, rfl, rfl⟩
  | @edPublic curve raw _ =>
      cases curve with
      | ed25519 =>
          exact infers_ed25519 described (present (by simp)) rfl (Or.inl ⟨_, raw, rfl⟩)
      | ed448 => exact absurd rfl supported
  | @edPrivate curve raw _ =>
      cases curve with
      | ed25519 =>
          exact infers_ed25519 described (present (by simp)) rfl (Or.inr ⟨_, raw, rfl⟩)
      | ed448 => exact absurd rfl supported

/-- No algorithm is inferred for an Ed448 key. -/
theorem not_infers_ed448 {key : Key} {obj : Dict Json} (described : Describes .okp key obj)
    (isCurve : key.edCurve? = some .ed448) (name : PyStr)
    : PyJWK.inferAlgorithmFromKty obj (.str "OKP") ≠ .ok name := by
  have isCrv : getOrNull obj "crv" = .str "Ed448" := by
    rw [getOrNull, described.edCurve _ isCurve]
    rfl
  intro inferred
  unfold PyJWK.inferAlgorithmFromKty at inferred
  simp only [isCrv] at inferred
  cases inferred

-----------------------------------------------------------------------------------------
-- Loading
-----------------------------------------------------------------------------------------

/-- A registered name passes the check for the package. -/
theorem PyJWK.requireCryptography_of_default {name : PyStr} {handler : Algorithm}
    (registered : (getDefaultAlgorithms env).get? name = some handler)
    : requireCryptography env (.str name) = .ok () := by
  unfold requireCryptography
  cases present : env.hasCrypto with
  | true => rfl
  | false =>
      have free : name ∉ requiresCryptography := by
        intro needed
        rw [getDefaultAlgorithms_get?_eq_none present needed] at registered
        cases registered
      simp only [requireHashable, Json.asStr?, Option.any_some, free, decide_false,
        outcome_ok_bind, Bool.false_eq_true, if_false]
      rfl

/-- Without an `alg` the name is the one inferred from the type. -/
theorem PyJWK.nameAlgorithm_of_describes {family : JwkFamily} {key : Key} {obj : Dict Json}
    (described : Describes family key obj)
    : PyJWK.nameAlgorithm obj none (getOrNull obj "kty")
      = Json.str <$> PyJWK.inferAlgorithmFromKty obj (.str family.kty) := by
  have isKty : getOrNull obj "kty" = .str family.kty := by
    rw [getOrNull, described.kty]
    rfl
  have noAlg : getOrNull obj "alg" = .null := by
    rw [getOrNull, described.alg]
    rfl
  rw [nameAlgorithm_eq, noAlg, isKty]
  rfl

/-- A key that the algorithms of its family accept is exported as a JWK that loads as the same
key, with an algorithm made for it that accepts it, exactly when it is no Ed448 key.
-/
theorem exported_loads_iff {family : JwkFamily} {handler : Algorithm} {given source key : Key}
    (isOf : handler.jwkFamily? = some family)
    (accepted : handler.prepareKey env given = .ok key) (holds : family.Holds env source key)
    (present : family ≠ .oct → env.hasCrypto = true)
    : (∃ jwk loaded,
        family.toJwk env source true = .ok jwk
        ∧ PyJWK.init env jwk none = .ok loaded
        ∧ loaded.algorithm.jwkFamily? = some family
        ∧ loaded.key = key
        ∧ loaded.algorithm.prepareKey env key = .ok key
        ∧ ∃ made, loaded.algorithm.family? = some made ∧ made.Has key)
      ↔ key.edCurve? ≠ some .ed448 := by
  obtain ⟨obj, exported, described⟩ := JwkFamily.toJwk_describes holds
  have isKty : getOrNull obj "kty" = .str family.kty := by
    rw [getOrNull, described.kty]
    rfl
  constructor
  · intro h isCurve
    obtain ⟨jwk, loaded, isJwk, made, _⟩ := h
    cases exported.symm.trans isJwk
    obtain ⟨data, name, found, _, isDict, _, named, _⟩ := PyJWK.init_eq_ok.mp made
    rw [requireDict_eq_ok, Dict.asDict?_toJson] at isDict
    cases isDict
    rw [PyJWK.nameAlgorithm_of_describes described] at named
    obtain ⟨text, inferred, _⟩ := outcome_bind_eq_ok.mp named
    cases holds with
    | edPublic _ | edPrivate _ => exact not_infers_ed448 described isCurve text inferred
    | secret _ | rsaPublic _ | rsaPrivate _ | ecPublic _ _ _ | ecPrivate _ _ _ _ => cases isCurve
  · intro supported
    obtain ⟨name, found, inferred, registered, ofFamily, madeFor⟩ :=
      infers_of_describes holds described present supported
    have imported : found.fromJwk env obj.toJson = .ok key := by
      obtain ⟨jwk, isJwk, imports⟩ := fromJwk_toJwk holds true
      cases exported.symm.trans isJwk
      rw [Algorithm.fromJwk_eq ofFamily]
      exact imports
    refine ⟨obj.toJson, ⟨obj, name, found, key⟩, exported, ?_, ofFamily, rfl, ?_, madeFor⟩
    · refine PyJWK.init_eq_ok.mpr ⟨obj, name, found, key, ?_, ?_, ?_,
        PyJWK.requireCryptography_of_default registered, registered, imported, rfl⟩
      · exact requireDict_eq_ok.mpr (Dict.asDict?_toJson obj)
      · rw [isKty]
        cases family <;> rfl
      · rw [PyJWK.nameAlgorithm_of_describes described, inferred]
        rfl
    · refine (Algorithm.prepareKey_imported_iff registered imported).mpr ⟨madeFor, ?_⟩
      intro secret isSecret
      subst isSecret
      cases holds
      cases handler with
      | hmac self =>
          obtain ⟨text, _, isSecret, same⟩ := HMACAlgorithm.prepareKey_eq_ok.mp accepted
          cases same
          exact isSecret
      | rsa _ | ec _ | okp | none | custom _ => cases isOf

-----------------------------------------------------------------------------------------
-- A key on P-256 and one on Ed448
-----------------------------------------------------------------------------------------

/-- The base point of P-256 loads with `ES256`. -/
theorem exported_loads_iff_basePoint
    : ∃ jwk loaded,
        ECAlgorithm.toJwk constructingEnv (.object (.ecPrivate basePointKey)) true = .ok jwk
        ∧ PyJWK.init constructingEnv jwk none = .ok loaded
        ∧ loaded.key = .object (.ecPrivate basePointKey)
        ∧ loaded.algorithm.prepareKey constructingEnv (.object (.ecPrivate basePointKey))
          = .ok (.object (.ecPrivate basePointKey)) := by
  have holds : JwkFamily.ec.Holds constructingEnv (.object (.ecPrivate basePointKey))
      (.object (.ecPrivate basePointKey)) :=
    .ecPrivate (by decide) (by decide) (by decide) rfl
  have accepted : (Algorithm.ec ⟨.sha256, some .secp256r1⟩).prepareKey constructingEnv
      (.object (.ecPrivate basePointKey)) = .ok (.object (.ecPrivate basePointKey)) := rfl
  obtain ⟨jwk, loaded, exported, made, _, same, prepares, _⟩ :=
    (exported_loads_iff rfl accepted holds (fun _ => rfl)).mpr nofun
  exact ⟨jwk, loaded, exported, made, same, prepares⟩

/-- A process in which Edwards public keys are constructed from bytes of their length. -/
def edwardsEnv : Env :=
  {
    constructingEnv with
    crypto :=
      { constructingEnv.crypto with
        edPublicFromBytes := fun curve raw =>
          if raw.length = (match curve with | .ed25519 => 32 | .ed448 => 57) then .ok raw
          else .error ⟨.valueError, [.text "An Ed448 public key is 57 bytes long"]⟩ }
  }

/-- An Ed448 public key. -/
def ed448Key : Key := .object (.edPublic .ed448 (List.replicate 57 0))

/-- It is accepted, exported, and imported from its export, which does not load as a `PyJWK`. -/
theorem exported_loads_ed448
    : OKPAlgorithm.prepareKey edwardsEnv ed448Key = .ok ed448Key
      ∧ ∃ jwk error,
          OKPAlgorithm.toJwk edwardsEnv ed448Key true = .ok jwk
          ∧ OKPAlgorithm.fromJwk edwardsEnv jwk = .ok ed448Key
          ∧ PyJWK.init edwardsEnv jwk none = .error error
          ∧ error.cls = .invalidKeyError := by
  refine ⟨rfl, ?_⟩
  have holds : JwkFamily.okp.Holds edwardsEnv ed448Key ed448Key := .edPublic rfl
  obtain ⟨jwk, exported, imported⟩ := fromJwk_toJwk holds true
  obtain ⟨error, failed, isInvalid⟩ := of_raisesWith
    (by decide : raisesWith (fun error => error.cls = .invalidKeyError)
      (OKPAlgorithm.toJwk edwardsEnv ed448Key true >>= fun jwk =>
        PyJWK.init edwardsEnv jwk none) = true)
  have isExport : OKPAlgorithm.toJwk edwardsEnv ed448Key true = .ok jwk := exported
  rw [isExport, outcome_ok_bind] at failed
  exact ⟨jwk, error, exported, imported, failed, of_decide_eq_true isInvalid⟩

end PyJwt
