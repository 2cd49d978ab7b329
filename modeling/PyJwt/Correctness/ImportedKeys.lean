import PyJwt.Correctness.KeyFamilies
import PyJwt.Correctness.KeyTexts

/-! The keys that JWKs are imported as. An importer returns a key of its own family, and an
algorithm prepares a key object as it is or not at all.
-/

namespace PyJwt

open Foundations
open Python

variable {env : Env} {jwk : Json} {key : Key}

-----------------------------------------------------------------------------------------
-- Families of imported keys
-----------------------------------------------------------------------------------------

theorem HMACAlgorithm.fromJwk_has (h : fromJwk env jwk = .ok key) : KeyFamily.secret.Has key := by
  obtain ⟨_, _, h⟩ := outcome_bind_eq_ok.mp h
  obtain ⟨obj, _, h⟩ := outcome_bind_eq_ok.mp h
  split at h
  · cases h
  · obtain ⟨k, _, h⟩ := outcome_bind_eq_ok.mp h
    obtain ⟨secret, _, returned⟩ := outcome_bind_eq_ok.mp h
    exact ⟨secret, (Except.ok.inj returned).symm⟩

theorem RSAAlgorithm.fromJwk_has (h : fromJwk env jwk = .ok key) : KeyFamily.rsa.Has key := by
  obtain ⟨_, _, h⟩ := outcome_bind_eq_ok.mp h
  obtain ⟨obj, _, h⟩ := outcome_bind_eq_ok.mp h
  split at h
  · cases h
  · split at h
    · obtain ⟨e, _, h⟩ := outcome_bind_eq_ok.mp h
      obtain ⟨n, _, h⟩ := outcome_bind_eq_ok.mp h
      obtain ⟨numbers, _, h⟩ := outcome_bind_eq_ok.mp h
      obtain ⟨built, _, returned⟩ := outcome_bind_eq_ok.mp h
      exact Or.inr ⟨built, (Except.ok.inj returned).symm⟩
    · split at h
      · obtain ⟨e, _, h⟩ := outcome_bind_eq_ok.mp h
        obtain ⟨n, _, h⟩ := outcome_bind_eq_ok.mp h
        obtain ⟨built, _, returned⟩ := outcome_bind_eq_ok.mp h
        exact Or.inl ⟨built, (Except.ok.inj returned).symm⟩
      · cases h

/-- The curve of an imported key is the one the point was built on, which no algorithm chose. -/
theorem ECAlgorithm.fromJwk_has (h : fromJwk env jwk = .ok key)
    : ∃ curve, (KeyFamily.ec curve).Has key := by
  obtain ⟨_, _, h⟩ := outcome_bind_eq_ok.mp h
  obtain ⟨obj, _, h⟩ := outcome_bind_eq_ok.mp h
  split at h
  · cases h
  · split at h
    · cases h
    · obtain ⟨x, _, h⟩ := outcome_bind_eq_ok.mp h
      obtain ⟨y, _, h⟩ := outcome_bind_eq_ok.mp h
      obtain ⟨curve, _, h⟩ := outcome_bind_eq_ok.mp h
      split at h
      · obtain ⟨built, _, returned⟩ := outcome_bind_eq_ok.mp h
        exact ⟨built.curve, _, (Except.ok.inj returned).symm, rfl⟩
      · obtain ⟨d, _, h⟩ := outcome_bind_eq_ok.mp h
        split at h
        · cases h
        · obtain ⟨built, _, returned⟩ := outcome_bind_eq_ok.mp h
          exact ⟨built.publicNumbers.curve, _, (Except.ok.inj returned).symm, rfl⟩

theorem OKPAlgorithm.fromJwk_has (h : fromJwk env jwk = .ok key) : KeyFamily.edwards.Has key := by
  obtain ⟨_, _, h⟩ := outcome_bind_eq_ok.mp h
  obtain ⟨obj, _, h⟩ := outcome_bind_eq_ok.mp h
  split at h
  · cases h
  · split at h
    · cases h
    · rename_i curve _
      split at h
      · cases h
      · obtain ⟨x, _, h⟩ := outcome_bind_eq_ok.mp h
        have built := tryExcept_raise_eq_ok.mp h
        split at built
        · obtain ⟨raw, _, returned⟩ := outcome_bind_eq_ok.mp built
          exact Or.inl ⟨curve, raw, (Except.ok.inj returned).symm⟩
        · obtain ⟨d, _, built⟩ := outcome_bind_eq_ok.mp built
          obtain ⟨raw, _, returned⟩ := outcome_bind_eq_ok.mp built
          exact Or.inr ⟨curve, raw, (Except.ok.inj returned).symm⟩

/-- A library algorithm imports bytes or a key object. -/
theorem Algorithm.fromJwk_isValue {handler : Algorithm} {family : KeyFamily}
    (made : handler.family? = some family) (h : handler.fromJwk env jwk = .ok key)
    : (∃ secret, key = .bytes secret) ∨ ∃ object, key = .object object := by
  cases handler with
  | none => cases h
  | hmac self => exact Or.inl (HMACAlgorithm.fromJwk_has h)
  | rsa self =>
      rcases RSAAlgorithm.fromJwk_has h with ⟨_, same⟩ | ⟨_, same⟩
      · exact Or.inr ⟨_, same⟩
      · exact Or.inr ⟨_, same⟩
  | ec self =>
      obtain ⟨_, object, same, _⟩ := ECAlgorithm.fromJwk_has h
      exact Or.inr ⟨object, same⟩
  | okp =>
      rcases OKPAlgorithm.fromJwk_has h with ⟨_, _, same⟩ | ⟨_, _, same⟩
      · exact Or.inr ⟨_, same⟩
      · exact Or.inr ⟨_, same⟩
  | custom self => cases made

-----------------------------------------------------------------------------------------
-- Preparing an imported key
-----------------------------------------------------------------------------------------

/-- A key object is of one family only. -/
theorem KeyFamily.Has.unique {family other : KeyFamily} {object : KeyObject}
    (h : family.Has (.object object)) (h' : other.Has (.object object))
    : family = other := by
  have excluded {family : KeyFamily} {object : KeyObject} (h : family.Has (.object object))
      : match object with
        | .rsaPublic _ | .rsaPrivate _ => family = .rsa
        | .ecPublic numbers => family = .ec numbers.curve
        | .ecPrivate numbers => family = .ec numbers.publicNumbers.curve
        | .edPublic _ _ | .edPrivate _ _ => family = .edwards
        | .other _ => False := by
    cases family with
    | absent => cases h
    | secret =>
        obtain ⟨_, impossible⟩ := h
        cases impossible
    | rsa =>
        rcases h with ⟨numbers, same⟩ | ⟨numbers, same⟩
        · cases same
          rfl
        · cases same
          rfl
    | ec curve =>
        obtain ⟨object, same, ofCurve⟩ := h
        cases same
        cases object with
        | ecPublic numbers =>
            cases ofCurve
            rfl
        | ecPrivate numbers =>
            cases ofCurve
            rfl
        | _ => cases ofCurve
    | edwards =>
        rcases h with ⟨curve, raw, same⟩ | ⟨curve, raw, same⟩
        · cases same
          rfl
        · cases same
          rfl
  have first := excluded h
  have second := excluded h'
  cases object with
  | other className => exact absurd first id
  | _ => exact first.trans second.symm

/-- A library algorithm prepares a key object as it is, or refuses it. -/
theorem Algorithm.prepareKey_object {handler : Algorithm} {family : KeyFamily}
    (made : handler.family? = some family) {object : KeyObject} {prepared : Key}
    (h : handler.prepareKey env (.object object) = .ok prepared)
    : prepared = .object object := by
  cases handler with
  | none => cases h
  | hmac self => cases h
  | rsa self =>
      have settled := (ite_eq_iff.mp h).resolve_right (fun refused => nomatch refused.2)
      exact (Except.ok.inj settled.2).symm
  | ec self =>
      change ECAlgorithm.prepareKey env self (.object object) = _ at h
      unfold ECAlgorithm.prepareKey at h
      simp only at h
      split at h
      · obtain ⟨_, _, returned⟩ := outcome_bind_eq_ok.mp h
        exact (Except.ok.inj returned).symm
      · cases h
  | okp =>
      obtain ⟨_, _, returned⟩ := outcome_bind_eq_ok.mp h
      exact (Except.ok.inj returned).symm
  | custom self => cases made

/-- An elliptic-curve algorithm prepares exactly the keys of its own curve. -/
theorem ECAlgorithm.prepareKey_object_iff {self : ECAlgorithm} {expected curve : Curve}
    (expects : self.expectedCurve = some expected) {object : KeyObject}
    (ofCurve : keyCurve? object = some curve)
    : self.prepareKey env (.object object) = .ok (.object object) ↔ curve = expected := by
  unfold prepareKey validateCurve
  simp only [ofCurve, expects]
  by_cases same : curve = expected
  · simp only [same, ne_eq, not_true, if_false, iff_true]
    rfl
  · simp [same]

/-- A default algorithm prepares the key it imported exactly when the key is of its family,
which a curve may not be, and does not look like an asymmetric one, which a secret may.
-/
theorem Algorithm.prepareKey_imported_iff {name : PyStr} {handler : Algorithm}
    (registered : (getDefaultAlgorithms env).get? name = some handler)
    (imported : handler.fromJwk env jwk = .ok key)
    : handler.prepareKey env key = .ok key
      ↔ (∃ family, handler.family? = some family ∧ family.Has key)
        ∧ ∀ secret, key = .bytes secret → ¬LooksAsymmetric secret := by
  obtain ⟨family, _, made⟩ := family?_of_default registered
  have noSecret {object : KeyObject}
      : ∀ secret, Key.object object = .bytes secret → ¬LooksAsymmetric secret := by
    intro secret same
    cases same
  cases handler with
  | none => cases imported
  | hmac self =>
      obtain ⟨secret, rfl⟩ := HMACAlgorithm.fromJwk_has imported
      have ofFamily : ∃ family, (Algorithm.hmac self).family? = some family
          ∧ family.Has (.bytes secret) :=
        ⟨.secret, rfl, secret, rfl⟩
      simp only [ofFamily, true_and, Key.bytes.injEq, forall_eq']
      refine HMACAlgorithm.prepareKey_eq_ok.trans ?_
      constructor
      · intro h
        obtain ⟨_, same, isSecret, _⟩ := h
        cases same
        exact isSecret
      · intro isSecret
        exact ⟨secret, rfl, isSecret, rfl⟩
  | rsa self =>
      have has := RSAAlgorithm.fromJwk_has imported
      rcases has with ⟨numbers, rfl⟩ | ⟨numbers, rfl⟩
      · exact iff_of_true rfl ⟨⟨.rsa, rfl, Or.inl ⟨numbers, rfl⟩⟩, noSecret⟩
      · exact iff_of_true rfl ⟨⟨.rsa, rfl, Or.inr ⟨numbers, rfl⟩⟩, noSecret⟩
  | ec self =>
      obtain ⟨expected, expects, rfl⟩ := Option.map_eq_some_iff.mp made
      obtain ⟨curve, object, rfl, ofCurve⟩ := ECAlgorithm.fromJwk_has imported
      refine (@ECAlgorithm.prepareKey_object_iff env _ _ _ expects _ ofCurve).trans ?_
      constructor
      · intro same
        exact ⟨⟨_, made, object, rfl, same ▸ ofCurve⟩, noSecret⟩
      · intro h
        obtain ⟨⟨family, isMade, has⟩, _⟩ := h
        cases isMade.symm.trans made
        obtain ⟨_, same, ofExpected⟩ := has
        cases same
        exact Option.some.inj (ofCurve.symm.trans ofExpected)
  | okp =>
      have present := hasCrypto_of_default registered ⟨by decide, by decide⟩
      have accepts {object : KeyObject} (h : OKPAlgorithm.cryptoKeyTypes object = true)
          : Algorithm.okp.prepareKey env (.object object) = .ok (.object object) := by
        show OKPAlgorithm.prepareKey env (.object object) = _
        simp only [OKPAlgorithm.prepareKey, checkCryptoKeyType, present, h, Bool.not_true,
          Bool.false_eq_true, if_false, if_true, outcome_ok_bind]
        rfl
      rcases OKPAlgorithm.fromJwk_has imported with ⟨curve, raw, rfl⟩ | ⟨curve, raw, rfl⟩
      · exact iff_of_true (accepts rfl) ⟨⟨.edwards, rfl, Or.inl ⟨curve, raw, rfl⟩⟩, noSecret⟩
      · exact iff_of_true (accepts rfl) ⟨⟨.edwards, rfl, Or.inr ⟨curve, raw, rfl⟩⟩, noSecret⟩
  | custom self => cases made

end PyJwt
