import PyJwt.Correctness.ImportedKeys
import PyJwt.Correctness.JwkSetLoading

/-! What an imported key is made of. For each family the members that an importer reads from a
dictionary, and the key that is constructed from them.
-/

namespace PyJwt

open Foundations
open Python

variable {env : Env} {key : Key}

-----------------------------------------------------------------------------------------
-- Relations between members and keys
-----------------------------------------------------------------------------------------

/-- The member has base64url text of the bytes. -/
def Decodes (obj : Dict Json) (name : PyStr) (data : Bytes) : Prop :=
  base64urlDecode (jsonAsText (getOrNull obj name)) = .ok data

/-- A secret is the bytes of `k`. -/
inductive HMACAlgorithm.Imports (obj : Dict Json) : Key → Prop
  | secret {data : Bytes} (kty : obj.get? "kty" = some (.str "oct")) (isK : Decodes obj "k" data)
    : Imports obj (.bytes data)

/-- An RSA key is constructed from `n` and `e`, and a private one from what comes with `d`. -/
inductive RSAAlgorithm.Imports (env : Env) (obj : Dict Json) : Key → Prop
  | ofPublic {numbers built : RSAPublicNumbers} (kty : obj.get? "kty" = some (.str "RSA"))
      (isE : uintMember obj "e" = .ok numbers.e) (isN : uintMember obj "n" = .ok numbers.n)
      (builds : env.crypto.rsaPublicKey numbers = .ok built)
    : Imports env obj (.object (.rsaPublic built))
  | ofPrivate {numbers built : RSAPrivateNumbers} (kty : obj.get? "kty" = some (.str "RSA"))
      (isE : uintMember obj "e" = .ok numbers.publicNumbers.e)
      (isN : uintMember obj "n" = .ok numbers.publicNumbers.n)
      (isD : uintMember obj "d" = .ok numbers.d)
      (builds : env.crypto.rsaPrivateKey numbers = .ok built)
    : Imports env obj (.object (.rsaPrivate built))

/-- A key on the curve of `crv` is constructed from `x` and `y` of the curve's width, and a
private one also from a `d` as wide.
-/
inductive ECAlgorithm.Imports (env : Env) (obj : Dict Json) : Key → Prop
  | ofPublic {crv : PyStr} {curve : Curve} {x y : Bytes} {built : EllipticCurvePublicNumbers}
      (kty : obj.get? "kty" = some (.str "EC")) (isCrv : obj.get? "crv" = some (.str crv))
      (onCurve : getEntry crv jwkEcCurves = some (curve, x.length))
      (sameWidth : y.length = x.length) (isX : Decodes obj "x" x) (isY : Decodes obj "y" y)
      (builds : env.crypto.ecPublicKey (pointNumbers x y curve) = .ok built)
    : Imports env obj (.object (.ecPublic built))
  | ofPrivate {crv : PyStr} {curve : Curve} {x y d : Bytes}
      {built : EllipticCurvePrivateNumbers} (kty : obj.get? "kty" = some (.str "EC"))
      (isCrv : obj.get? "crv" = some (.str crv))
      (onCurve : getEntry crv jwkEcCurves = some (curve, x.length))
      (sameWidth : y.length = x.length) (isX : Decodes obj "x" x) (isY : Decodes obj "y" y)
      (isD : Decodes obj "d" d) (dWidth : d.length = x.length)
      (builds
        : env.crypto.ecPrivateKey ⟨BigEndian.ofBytes d, pointNumbers x y curve⟩ = .ok built)
    : Imports env obj (.object (.ecPrivate built))

/-- A public Edwards key is constructed from `x`. For a private one `x` is decoded as well, and
nothing is made of it.
-/
inductive OKPAlgorithm.Imports (env : Env) (obj : Dict Json) : Key → Prop
  | ofPublic {curve : EdCurve} {x raw : Bytes} (kty : obj.get? "kty" = some (.str "OKP"))
      (isCrv : obj.get? "crv" = some (.str (crvName curve))) (isX : Decodes obj "x" x)
      (noD : obj.get? "d" = none) (builds : env.crypto.edPublicFromBytes curve x = .ok raw)
    : Imports env obj (.object (.edPublic curve raw))
  | ofPrivate {curve : EdCurve} {x d raw : Bytes} (kty : obj.get? "kty" = some (.str "OKP"))
      (isCrv : obj.get? "crv" = some (.str (crvName curve))) (isX : Decodes obj "x" x)
      (isD : Decodes obj "d" d) (builds : env.crypto.edPrivateFromBytes curve d = .ok raw)
    : Imports env obj (.object (.edPrivate curve raw))

-----------------------------------------------------------------------------------------
-- The importers
-----------------------------------------------------------------------------------------

/-- An importer goes on where the type is its own. -/
theorem kty_of_ok {α : Type} {obj : Dict Json} {kty : PyStr} {error : PyError}
    {next : Outcome α} {value : α}
    (h : (if (getOrNull obj "kty").asStr? ≠ some kty then .error error else next) = .ok value)
    : obj.get? "kty" = some (.str kty) ∧ next = .ok value := by
  rcases ite_eq_iff.mp h with ⟨_, impossible⟩ | ⟨same, returned⟩
  · cases impossible
  · exact ⟨getOrNull_asStr?_eq_some.mp (not_not.mp same), returned⟩

/-- A member that is missing is not contained. -/
theorem get?_eq_none_of_not_contains {obj : Dict Json} {name : PyStr}
    (h : obj.contains name = false)
    : obj.get? name = none :=
  Option.isSome_eq_false_iff.mp h |> Option.isNone_iff_eq_none.mp

theorem HMACAlgorithm.imports_of_fromJwk {entries : List (PyStr × Json)}
    (h : fromJwk env (.dict entries) = .ok key)
    : Imports (Dict.ofEntries entries) key := by
  unfold fromJwk at h
  rw [parseJwkJson_dict_bind] at h
  obtain ⟨kty, h⟩ := kty_of_ok h
  obtain ⟨k, found, h⟩ := outcome_bind_eq_ok.mp h
  obtain ⟨data, decodes, returned⟩ := outcome_bind_eq_ok.mp h
  cases returned
  refine .secret kty ?_
  rw [Decodes, getOrNull, getItem_eq_ok.mp found]
  exact decodes

/-- The private numbers are those of `d` and the public ones, however the primes are found. -/
theorem RSAAlgorithm.privateNumbers_eq {obj : Dict Json} {publicNumbers : RSAPublicNumbers}
    {numbers : RSAPrivateNumbers}
    (h : rsaPrivateNumbersFromJwk env obj publicNumbers = .ok numbers)
    : numbers.publicNumbers = publicNumbers ∧ uintMember obj "d" = .ok numbers.d := by
  unfold rsaPrivateNumbersFromJwk at h
  rcases ite_eq_iff.mp h with ⟨_, impossible⟩ | ⟨_, h⟩
  · cases impossible
  · rcases ite_eq_iff.mp h with ⟨_, impossible⟩ | ⟨_, h⟩
    · cases impossible
    · rcases ite_eq_iff.mp h with ⟨_, h⟩ | ⟨_, h⟩
      · obtain ⟨d, isD, h⟩ := outcome_bind_eq_ok.mp h
        obtain ⟨p, _, h⟩ := outcome_bind_eq_ok.mp h
        obtain ⟨q, _, h⟩ := outcome_bind_eq_ok.mp h
        obtain ⟨dmp1, _, h⟩ := outcome_bind_eq_ok.mp h
        obtain ⟨dmq1, _, h⟩ := outcome_bind_eq_ok.mp h
        obtain ⟨iqmp, _, returned⟩ := outcome_bind_eq_ok.mp h
        cases returned
        exact ⟨rfl, isD⟩
      · obtain ⟨d, isD, h⟩ := outcome_bind_eq_ok.mp h
        obtain ⟨factors, _, h⟩ := outcome_bind_eq_ok.mp h
        obtain ⟨dmp1, _, h⟩ := outcome_bind_eq_ok.mp h
        obtain ⟨dmq1, _, h⟩ := outcome_bind_eq_ok.mp h
        obtain ⟨iqmp, _, returned⟩ := outcome_bind_eq_ok.mp h
        cases returned
        exact ⟨rfl, isD⟩

theorem RSAAlgorithm.imports_of_fromJwk {entries : List (PyStr × Json)}
    (h : fromJwk env (.dict entries) = .ok key)
    : Imports env (Dict.ofEntries entries) key := by
  unfold fromJwk at h
  rw [parseJwkJson_dict_bind] at h
  obtain ⟨kty, h⟩ := kty_of_ok h
  split at h
  · obtain ⟨e, isE, h⟩ := outcome_bind_eq_ok.mp h
    obtain ⟨n, isN, h⟩ := outcome_bind_eq_ok.mp h
    obtain ⟨numbers, read, h⟩ := outcome_bind_eq_ok.mp h
    obtain ⟨built, builds, returned⟩ := outcome_bind_eq_ok.mp h
    obtain ⟨isPublic, isD⟩ := privateNumbers_eq read
    cases returned
    exact .ofPrivate kty (isPublic ▸ isE) (isPublic ▸ isN) isD builds
  · split at h
    · obtain ⟨e, isE, h⟩ := outcome_bind_eq_ok.mp h
      obtain ⟨n, isN, h⟩ := outcome_bind_eq_ok.mp h
      obtain ⟨built, builds, returned⟩ := outcome_bind_eq_ok.mp h
      cases returned
      exact .ofPublic kty isE isN builds
    · cases h

/-- A curve is resolved from a `crv` that names it, for coordinates of its width. -/
theorem ECAlgorithm.resolveEcCurve_eq_ok {obj : Dict Json} {xLen yLen : Nat} {curve : Curve}
    (h : resolveEcCurveFromJwk (getOrNull obj "crv") xLen yLen = .ok curve)
    : ∃ crv,
        obj.get? "crv" = some (.str crv)
        ∧ getEntry crv jwkEcCurves = some (curve, xLen)
        ∧ yLen = xLen := by
  obtain ⟨_, _, h⟩ := outcome_bind_eq_ok.mp h
  split at h
  · cases h
  · rename_i found expectedLen selected
    obtain ⟨crv, isText, entry⟩ := Option.bind_eq_some_iff.mp selected
    rcases ite_eq_iff.mp h with ⟨_, impossible⟩ | ⟨fits, returned⟩
    · cases impossible
    · cases returned
      obtain ⟨xFits, yFits⟩ := not_or.mp fits
      rw [not_not] at xFits yFits
      exact ⟨crv, getOrNull_asStr?_eq_some.mp isText, xFits ▸ entry, yFits.trans xFits.symm⟩

theorem ECAlgorithm.imports_of_fromJwk {entries : List (PyStr × Json)}
    (h : fromJwk env (.dict entries) = .ok key)
    : Imports env (Dict.ofEntries entries) key := by
  unfold fromJwk at h
  rw [parseJwkJson_dict_bind] at h
  obtain ⟨kty, h⟩ := kty_of_ok h
  split at h
  · cases h
  · obtain ⟨x, isX, h⟩ := outcome_bind_eq_ok.mp h
    obtain ⟨y, isY, h⟩ := outcome_bind_eq_ok.mp h
    obtain ⟨curve, resolved, h⟩ := outcome_bind_eq_ok.mp h
    obtain ⟨crv, isCrv, onCurve, sameWidth⟩ := resolveEcCurve_eq_ok resolved
    split at h
    · obtain ⟨built, builds, returned⟩ := outcome_bind_eq_ok.mp h
      cases returned
      exact .ofPublic kty isCrv onCurve sameWidth isX isY builds
    · obtain ⟨d, isD, h⟩ := outcome_bind_eq_ok.mp h
      split at h
      · cases h
      · rename_i fits
        obtain ⟨built, builds, returned⟩ := outcome_bind_eq_ok.mp h
        cases returned
        exact .ofPrivate kty isCrv onCurve sameWidth isX isY isD (not_not.mp fits) builds

/-- Only its own name selects an Edwards curve. -/
theorem OKPAlgorithm.crvCurve?_eq_some {obj : Dict Json} {curve : EdCurve}
    (h : crvCurve? (getOrNull obj "crv") = some curve)
    : obj.get? "crv" = some (.str (crvName curve)) := by
  unfold crvCurve? at h
  rw [← getOrNull_asStr?_eq_some]
  split at h
  · rename_i isCurve
    cases h
    exact isCurve
  · split at h
    · rename_i isCurve
      cases h
      exact isCurve
    · cases h

theorem OKPAlgorithm.imports_of_fromJwk {entries : List (PyStr × Json)}
    (h : fromJwk env (.dict entries) = .ok key)
    : Imports env (Dict.ofEntries entries) key := by
  unfold fromJwk at h
  rw [parseJwkJson_dict_bind] at h
  obtain ⟨kty, h⟩ := kty_of_ok h
  split at h
  · cases h
  · rename_i curve selected
    have isCrv := crvCurve?_eq_some selected
    split at h
    · cases h
    · obtain ⟨x, isX, h⟩ := outcome_bind_eq_ok.mp h
      have built := tryExcept_raise_eq_ok.mp h
      split at built
      · rename_i absent
        obtain ⟨raw, builds, returned⟩ := outcome_bind_eq_ok.mp built
        cases returned
        exact .ofPublic kty isCrv isX (get?_eq_none_of_not_contains (by simpa using absent)) builds
      · obtain ⟨d, isD, built⟩ := outcome_bind_eq_ok.mp built
        obtain ⟨raw, builds, returned⟩ := outcome_bind_eq_ok.mp built
        cases returned
        exact .ofPrivate kty isCrv isX isD builds

-----------------------------------------------------------------------------------------
-- Constructing keys
-----------------------------------------------------------------------------------------

/-- A key that `cryptography` constructs has the numbers or bytes it was constructed from;
parts that do not belong together are refused.
-/
structure KeepsNumbers (crypto : Crypto) : Prop where
  rsaPublicKey : ∀ {numbers built}, crypto.rsaPublicKey numbers = .ok built → built = numbers
  rsaPrivateKey
    : ∀ {numbers built}, crypto.rsaPrivateKey numbers = .ok built → built = numbers
  ecPublicKey : ∀ {numbers built}, crypto.ecPublicKey numbers = .ok built → built = numbers
  ecPrivateKey : ∀ {numbers built}, crypto.ecPrivateKey numbers = .ok built → built = numbers
  edPublicFromBytes
    : ∀ {curve raw built}, crypto.edPublicFromBytes curve raw = .ok built → built = raw
  edPrivateFromBytes
    : ∀ {curve raw built}, crypto.edPrivateFromBytes curve raw = .ok built → built = raw

end PyJwt
