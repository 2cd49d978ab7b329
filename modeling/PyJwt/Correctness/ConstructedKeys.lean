import PyJwt.Correctness.ImportedMembers
import PyJwt.Correctness.JwkAlgorithm
import PyJwt.Correctness.JwksCache

/-! Whether the algorithm of a constructed `PyJWK` accepts its key. The algorithm may be named
by the caller or by the JWK, and importing a key compares it with neither.
-/

namespace PyJwt

open Foundations
open Python

variable {env : Env}

/-- The members are those of a key that an algorithm of the family prepares: on its curve, or a
secret that does not look like an asymmetric key.
-/
def KeyFamily.Fits (obj : Dict Json) : KeyFamily → Prop
  | ec curve =>
      ∃ crv width, obj.get? "crv" = some (.str crv) ∧ getEntry crv jwkEcCurves = some (curve, width)
  | secret => ∀ data, Decodes obj "k" data → ¬LooksAsymmetric data
  | absent | rsa | edwards => True

/-- The members fit the algorithm that the caller, the JWK or its type names. -/
def PyJWK.NamesFitting (jwkData : Json) (algorithm : Option PyStr) : Prop :=
  ∀ obj name family,
    jwkData.asDict? = some obj
    → PyJWK.nameAlgorithm obj algorithm (getOrNull obj "kty") = .ok (.str name)
    → getEntry name keyFamilies = some family
    → family.Fits obj

/-- The algorithm is the default of its name, the key is one of its family, on its curve, and is
prepared as it is.
-/
structure PyJWK.Usable (env : Env) (jwk : PyJWK) : Prop where
  registered : (getDefaultAlgorithms env).get? jwk.algorithmName = some jwk.algorithm
  family : ∃ family, jwk.algorithm.family? = some family ∧ family.Has jwk.key
  prepares : jwk.algorithm.prepareKey env jwk.key = .ok jwk.key

/-- An imported elliptic-curve key is on the curve that its `crv` names, and on no other. -/
theorem ECAlgorithm.fits_iff_has {obj : Dict Json} {key : Key}
    (keeps : KeepsNumbers env.crypto) (imports : Imports env obj key) (expected : Curve)
    : (KeyFamily.ec expected).Fits obj ↔ (KeyFamily.ec expected).Has key := by
  have named {crv : PyStr} {curve : Curve} {width : Nat} {object : KeyObject}
      (isCrv : obj.get? "crv" = some (.str crv))
      (onCurve : getEntry crv jwkEcCurves = some (curve, width))
      (ofCurve : keyCurve? object = some curve)
      : (KeyFamily.ec expected).Fits obj ↔ (KeyFamily.ec expected).Has (.object object) := by
    constructor
    · intro h
      obtain ⟨other, _, isOther, onExpected⟩ := h
      cases isCrv.symm.trans isOther
      cases onCurve.symm.trans onExpected
      exact ⟨object, rfl, ofCurve⟩
    · intro h
      obtain ⟨_, same, ofExpected⟩ := h
      cases same
      cases ofCurve.symm.trans ofExpected
      exact ⟨crv, width, isCrv, onCurve⟩
  cases imports with
  | ofPublic kty isCrv onCurve sameWidth isX isY builds =>
      cases keeps.ecPublicKey builds
      exact named isCrv onCurve rfl
  | ofPrivate kty isCrv onCurve sameWidth isX isY isD dWidth builds =>
      cases keeps.ecPrivateKey builds
      exact named isCrv onCurve rfl

/-- What a default algorithm imports, it prepares, where the members fit its family. -/
theorem Algorithm.fits_iff {handler : Algorithm} {family : KeyFamily} {key : Key}
    {entries : List (PyStr × Json)} (keeps : KeepsNumbers env.crypto)
    (made : handler.family? = some family)
    (imported : handler.fromJwk env (.dict entries) = .ok key)
    : family.Fits (Dict.ofEntries entries)
      ↔ family.Has key ∧ ∀ secret, key = .bytes secret → ¬LooksAsymmetric secret := by
  cases handler with
  | none => cases imported
  | hmac self =>
      cases made
      cases HMACAlgorithm.imports_of_fromJwk imported with
      | @secret data kty isK =>
          constructor
          · intro fits
            refine ⟨⟨data, rfl⟩, fun secret same => ?_⟩
            cases same
            exact fits data isK
          · intro h other isOther
            cases isK.symm.trans isOther
            exact h.2 data rfl
  | rsa self =>
      cases made
      refine iff_of_true trivial ⟨RSAAlgorithm.fromJwk_has imported, ?_⟩
      cases RSAAlgorithm.imports_of_fromJwk imported <;> exact nofun
  | ec self =>
      obtain ⟨expected, expects, rfl⟩ := Option.map_eq_some_iff.mp made
      have imports := ECAlgorithm.imports_of_fromJwk imported
      refine (ECAlgorithm.fits_iff_has keeps imports expected).trans (and_iff_left ?_).symm
      cases imports <;> exact nofun
  | okp =>
      cases made
      refine iff_of_true trivial ⟨OKPAlgorithm.fromJwk_has imported, ?_⟩
      cases OKPAlgorithm.imports_of_fromJwk imported <;> exact nofun
  | custom self => cases made

/-- A constructed `PyJWK` holds a key that its algorithm prepares as it is exactly when the
members fit the algorithm that was named: an elliptic-curve key is on its curve, and a secret
does not look like an asymmetric key.
-/
theorem constructed_usable_iff (keeps : KeepsNumbers env.crypto) {jwkData : Json}
    {algorithm : Option PyStr} {jwk : PyJWK} (made : PyJWK.init env jwkData algorithm = .ok jwk)
    : jwk.Usable env ↔ PyJWK.NamesFitting jwkData algorithm := by
  obtain ⟨obj, name, handler, key, isDict, typed, named, _, registered, imported, rfl⟩ :=
    PyJWK.init_eq_ok.mp made
  have isObject := requireDict_eq_ok.mp isDict
  cases jwkData with
  | null | bool _ | int _ | float _ | str _ | list _ => cases isObject
  | dict entries =>
      cases isObject
      obtain ⟨family, tabled, isMade⟩ := family?_of_default registered
      have onlyFamily : (∃ other, handler.family? = some other ∧ other.Has key)
          ↔ family.Has key := by
        rw [isMade]
        simp
      have prepares := Algorithm.prepareKey_imported_iff registered imported
      rw [onlyFamily] at prepares
      have fits := Algorithm.fits_iff keeps isMade imported
      constructor
      · intro usable other text otherFamily same alsoNamed entry
        cases same
        cases named.symm.trans alsoNamed
        cases tabled.symm.trans entry
        exact fits.mpr (prepares.mp usable.prepares)
      · intro fitting
        have prepared := fits.mp (fitting _ _ _ rfl named tabled)
        exact ⟨registered, onlyFamily.mpr prepared.1, prepares.mpr prepared⟩

-----------------------------------------------------------------------------------------
-- A secret, a key on another curve and a secret that looks like a key
-----------------------------------------------------------------------------------------

/-- A process that constructs nothing keeps all numbers. -/
theorem keepsNumbers_bareEnv : KeepsNumbers bareEnv.crypto where
  rsaPublicKey := nofun
  rsaPrivateKey := nofun
  ecPublicKey := nofun
  ecPrivateKey := nofun
  edPublicFromBytes := nofun
  edPrivateFromBytes := nofun

/-- The two bytes `kk` are used with `HS256` as they are. -/
theorem constructed_usable_iff_secret
    : ∃ jwk, PyJWK.init bareEnv secretJwk (some "HS256") = .ok jwk ∧ jwk.Usable bareEnv := by
  obtain ⟨jwk, made, _⟩ := of_returnsWith
    (by decide : returnsWith (fun _ => true)
      (PyJWK.init bareEnv secretJwk (some "HS256")) = true)
  refine ⟨jwk, made, (constructed_usable_iff keepsNumbers_bareEnv made).mpr ?_⟩
  intro obj name family isDict named tabled
  cases isDict
  cases named
  cases tabled
  intro data isK
  have isData : Decodes (Dict.ofEntries [(("kty" : PyStr), Json.str "oct"), ("k", .str "a2s")])
      "k" (ascii "kk") := rfl
  cases isData.symm.trans isK
  rw [← @refuses_iff bareEnv]
  decide

/-- A P-256 key constructed for `ES384`, and a secret that opens like an SSH key, are refused by
the algorithms they were constructed with.
-/
theorem constructed_unusable
    : (∃ jwkData jwk error,
        ECAlgorithm.toJwk constructingEnv (.object (.ecPrivate basePointKey)) true = .ok jwkData
        ∧ PyJWK.init constructingEnv jwkData (some "ES384") = .ok jwk
        ∧ jwk.algorithm.prepareKey constructingEnv jwk.key = .error error
        ∧ error.cls = .invalidKeyError)
      ∧ ∃ jwk error,
          PyJWK.init bareEnv (HMACAlgorithm.secretObject (ascii "ssh-rsa ")).toJson none = .ok jwk
          ∧ jwk.algorithm.prepareKey bareEnv jwk.key = .error error
          ∧ error.cls = .invalidKeyError := by
  constructor
  · obtain ⟨jwk, made, refused⟩ := of_returnsWith
      (by decide : returnsWith
        (fun jwk => raisesWith (fun error => error.cls = .invalidKeyError)
          (jwk.algorithm.prepareKey constructingEnv jwk.key))
        (ECAlgorithm.toJwk constructingEnv (.object (.ecPrivate basePointKey)) true
          >>= fun jwkData => PyJWK.init constructingEnv jwkData (some "ES384")) = true)
    obtain ⟨jwkData, exported, constructed⟩ := outcome_bind_eq_ok.mp made
    obtain ⟨error, raised, isInvalid⟩ := of_raisesWith refused
    exact ⟨jwkData, jwk, error, exported, constructed, raised, of_decide_eq_true isInvalid⟩
  · obtain ⟨jwk, made, refused⟩ := of_returnsWith
      (by decide : returnsWith
        (fun jwk => raisesWith (fun error => error.cls = .invalidKeyError)
          (jwk.algorithm.prepareKey bareEnv jwk.key))
        (PyJWK.init bareEnv (HMACAlgorithm.secretObject (ascii "ssh-rsa ")).toJson none) = true)
    obtain ⟨error, raised, isInvalid⟩ := of_raisesWith refused
    exact ⟨jwk, error, made, raised, of_decide_eq_true isInvalid⟩

end PyJwt
