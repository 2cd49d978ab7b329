import PyJwt.Correctness.JwkRoundTrip
import PyJwt.Correctness.KeyFamilies

/-! Which keys a JWK Set loads. The loop of the constructor skips an entry only for an error
of the library's own, so one entry that fails otherwise hides the others.
-/

namespace PyJwt

open Foundations
open Python

variable {env : Env}

-----------------------------------------------------------------------------------------
-- Errors that the loop skips
-----------------------------------------------------------------------------------------

/-- The loop goes on after the error. -/
def Skippable (error : PyError) : Prop :=
  error.isA .pyJWTError = true ∧ error.isA .missingCryptographyError = false

instance (error : PyError) : Decidable (Skippable error) :=
  inferInstanceAs (Decidable (_ ∧ _))

theorem skippable_invalidKeyError (message : List MessagePart)
    : Skippable ⟨.invalidKeyError, message⟩ :=
  ⟨rfl, rfl⟩

/-- The outcome fails with nothing but errors that the loop skips. -/
abbrev Skips {α : Type} (outcome : Outcome α) : Prop :=
  FailsWith Skippable outcome

/-- An error of the classes that reading the members of a JWK may raise. -/
def MemberFailure (error : PyError) : Prop :=
  error.cls
    ∈ [
        ExcClass.attributeError, .typeError, .keyError, .unicodeEncodeError, .binasciiError,
        .notImplementedError
      ]

/-- None of these classes is the library's own. -/
theorem MemberFailure.foreign {error : PyError} (h : MemberFailure error)
    : ¬error.isPyJWTError := by
  have foreign : ∀ cls ∈ [
      ExcClass.attributeError, .typeError, .keyError, .unicodeEncodeError, .binasciiError,
      .notImplementedError
    ], cls.isSubclass .pyJWTError = false := by
    decide
  intro isOwn
  have own : error.cls.isSubclass .pyJWTError = true := isOwn
  rw [foreign error.cls h] at own
  cases own

theorem MemberFailure.not_skippable {error : PyError} (h : MemberFailure error)
    : ¬Skippable error :=
  fun skippable => h.foreign skippable.1

/-- What raises none but these errors is skippable only by returning. -/
theorem skips_iff_returns {α : Type} {outcome : Outcome α} (h : FailsWith MemberFailure outcome)
    : Skips outcome ↔ ∃ value, outcome = .ok value :=
  failsWith_iff_returns (fun error failed => (h error failed).not_skippable)

/-- A last stage that returns changes nothing. -/
theorem skips_map {α β : Type} {first : Outcome α} {f : α → β}
    : Skips (first >>= fun value => (pure (f value) : Outcome β)) ↔ Skips first :=
  failsWith_bind.trans (and_iff_left (fun _ _ => failsWith_ok _))

-----------------------------------------------------------------------------------------
-- Reading members
-----------------------------------------------------------------------------------------

/-- The value can be a key of a table. -/
def Hashable : Json → Prop
  | .list _ | .dict _ => False
  | .null | .bool _ | .int _ | .float _ | .str _ => True

theorem skips_requireHashable {value : Json} : Skips (requireHashable value) ↔ Hashable value := by
  cases value with
  | list _ | dict _ =>
      refine iff_of_false (fun h => ?_) id
      exact MemberFailure.not_skippable (by simp [MemberFailure]) (failsWith_error.mp h)
  | null | bool _ | int _ | float _ | str _ => exact iff_of_true (failsWith_ok _) trivial

theorem skips_lookupJson {β : Type} {table : List (PyStr × β)} {value : Json}
    {missing : PyError} (own : Skippable missing)
    : Skips (PyJWK.lookupJson table value missing) ↔ Hashable value := by
  unfold PyJWK.lookupJson
  refine (failsWith_bind.trans (and_iff_left (fun _ _ => ?_))).trans skips_requireHashable
  split
  · exact failsWith_ok _
  · exact failsWith_error.mpr own

theorem failsWith_requireDict (value : Json) : FailsWith MemberFailure (requireDict value) := by
  unfold requireDict
  split
  · exact failsWith_ok _
  · exact failsWith_error.mpr (by simp [MemberFailure])

theorem requireDict_eq_ok {value : Json} {obj : Dict Json}
    : requireDict value = .ok obj ↔ value.asDict? = some obj := by
  unfold requireDict
  cases value.asDict? with
  | none => simp
  | some found => simp

theorem failsWith_getItem (obj : Dict Json) (name : PyStr)
    : FailsWith MemberFailure (getItem obj name) := by
  unfold getItem
  split
  · exact failsWith_ok _
  · exact failsWith_error.mpr (by simp [MemberFailure])

theorem getItem_eq_ok {obj : Dict Json} {name : PyStr} {value : Json}
    : getItem obj name = .ok value ↔ obj.get? name = some value := by
  unfold getItem
  cases obj.get? name with
  | none => simp
  | some found => simp

theorem failsWith_forceBytes (text : TextArg) : FailsWith MemberFailure (forceBytes text) := by
  cases text with
  | bytes value => exact failsWith_ok _
  | other => exact failsWith_error.mpr (by simp [MemberFailure])
  | str value =>
      simp only [forceBytes, encodeStr]
      split
      · exact failsWith_ok _
      · exact failsWith_error.mpr (by simp [MemberFailure])

theorem failsWith_urlsafeB64decode (input : Bytes)
    : FailsWith MemberFailure (urlsafeB64decode input) := by
  unfold urlsafeB64decode
  split
  · exact failsWith_ok _
  · exact failsWith_error.mpr (by simp [MemberFailure])
  · exact failsWith_error.mpr (by simp [MemberFailure])

theorem failsWith_base64urlDecode (text : TextArg)
    : FailsWith MemberFailure (base64urlDecode text) :=
  failsWith_bind.mpr ⟨failsWith_forceBytes text, fun _ _ => failsWith_urlsafeB64decode _⟩

theorem failsWith_uintMember (obj : Dict Json) (name : PyStr)
    : FailsWith MemberFailure (uintMember obj name) := by
  refine failsWith_bind.mpr ⟨failsWith_getItem obj name, fun value _ => ?_⟩
  refine failsWith_bind.mpr ⟨failsWith_forceBytes _, fun _ _ => ?_⟩
  exact failsWith_bind.mpr ⟨failsWith_base64urlDecode _, fun _ _ => failsWith_ok _⟩

/-- A number is read before anything else happens to the key. -/
theorem skips_uintMember_bind {obj : Dict Json} {name : PyStr} {α : Type}
    {next : Nat → Outcome α} {condition : Nat → Prop}
    (h : ∀ value, Skips (next value) ↔ condition value)
    : Skips (uintMember obj name >>= next)
      ↔ ∃ value, uintMember obj name = .ok value ∧ condition value :=
  failsWith_bind_of_returns (skips_iff_returns (failsWith_uintMember obj name)) h

theorem getOrNull_asStr?_eq_some {obj : Dict Json} {name text : PyStr}
    : (getOrNull obj name).asStr? = some text ↔ obj.get? name = some (.str text) := by
  unfold getOrNull
  cases obj.get? name with
  | none => simp [Json.asStr?]
  | some value => simp [Json.asStr?_eq_some]

/-- An importer that was given a dictionary reads that dictionary. -/
theorem parseJwkJson_dict_bind {β : Type} (entries : List (PyStr × Json))
    (next : Dict Json → Outcome β)
    : (parseJwkJson env (.dict entries) >>= fun value => requireDict value >>= next)
      = next (Dict.ofEntries entries) :=
  rfl

-----------------------------------------------------------------------------------------
-- Importing a key of each family
-----------------------------------------------------------------------------------------

/-- A check of the key's type that only raises an own error. -/
theorem skips_kty {obj : Dict Json} {kty : PyStr} {error : PyError} (own : Skippable error)
    {α : Type} {next : Outcome α} {condition : Prop} (h : Skips next ↔ condition)
    : Skips (if (getOrNull obj "kty").asStr? ≠ some kty then .error error else next)
      ↔ (obj.get? "kty" = some (.str kty) → condition) := by
  rw [← getOrNull_asStr?_eq_some]
  by_cases same : (getOrNull obj "kty").asStr? = some kty
  · simp only [same, ne_eq, not_true, if_false, true_imp_iff]
    exact h
  · simp only [ne_eq, same, not_false_eq_true, if_true, false_imp_iff, iff_true]
    exact failsWith_error.mpr own

/-- A secret, where its type is the right one, has base64url text. -/
def HMACAlgorithm.Importable (obj : Dict Json) : Prop :=
  obj.get? "kty" = some (.str "oct")
  → ∃ k,
      obj.get? "k" = some k ∧ ∃ data, base64urlDecode (jsonAsText k) = .ok data

theorem HMACAlgorithm.skips_fromJwk (entries : List (PyStr × Json))
    : Skips (fromJwk env (.dict entries)) ↔ Importable (Dict.ofEntries entries) := by
  unfold fromJwk Importable
  rw [parseJwkJson_dict_bind]
  refine skips_kty (skippable_invalidKeyError _) ?_
  have decodes (k : Json)
      : Skips (do return Key.bytes (← base64urlDecode (jsonAsText k)))
        ↔ ∃ data, base64urlDecode (jsonAsText k) = .ok data :=
    skips_map.trans (skips_iff_returns (failsWith_base64urlDecode _))
  have found := failsWith_bind_of_returns
    (skips_iff_returns (failsWith_getItem (Dict.ofEntries entries) "k")) decodes
  simpa only [getItem_eq_ok] using found

namespace RSAAlgorithm

/-- The members that come with `d`, or not at all. -/
def crtMembers : List PyStr := ["p", "q", "dp", "dq", "qi"]

/-- The private numbers for which only `d` was given. -/
def recoverNumbers (env : Env) (publicNumbers : RSAPublicNumbers) (d : Nat)
    : Outcome RSAPrivateNumbers := do
  let (p, q) ← env.crypto.rsaRecoverPrimeFactors publicNumbers.n d publicNumbers.e
  let dmp1 ← env.crypto.rsaCrtDmp1 d p
  let dmq1 ← env.crypto.rsaCrtDmq1 d q
  let iqmp ← env.crypto.rsaCrtIqmp p q
  return { p, q, d, dmp1, dmq1, iqmp, publicNumbers }

/-- The members of a private key are base64url text, and the key can be constructed; an own
error is raised for three primes, and for some but not all members besides `d`.
-/
def PrivateImportable (env : Env) (obj : Dict Json) (publicNumbers : RSAPublicNumbers) : Prop :=
  obj.contains "oth" = false
  → (crtMembers.all obj.contains = true
      → ∃ d p q dmp1 dmq1 iqmp,
          uintMember obj "d" = .ok d
          ∧ uintMember obj "p" = .ok p
          ∧ uintMember obj "q" = .ok q
          ∧ uintMember obj "dp" = .ok dmp1
          ∧ uintMember obj "dq" = .ok dmq1
          ∧ uintMember obj "qi" = .ok iqmp
          ∧ Skips (env.crypto.rsaPrivateKey { p, q, d, dmp1, dmq1, iqmp, publicNumbers }))
    ∧ (crtMembers.any obj.contains = false
      → ∃ d,
          uintMember obj "d" = .ok d
          ∧ Skips (recoverNumbers env publicNumbers d >>= env.crypto.rsaPrivateKey))

/-- An RSA key with modulus and exponent has base64url text in both and can be constructed. -/
def Importable (env : Env) (obj : Dict Json) : Prop :=
  obj.get? "kty" = some (.str "RSA")
  → obj.contains "e" = true
  → obj.contains "n" = true
  → ∃ e n,
      uintMember obj "e" = .ok e
      ∧ uintMember obj "n" = .ok n
      ∧ (obj.contains "d" = false → Skips (env.crypto.rsaPublicKey { e, n }))
      ∧ (obj.contains "d" = true → PrivateImportable env obj { e, n })

theorem skips_private {obj : Dict Json} {publicNumbers : RSAPublicNumbers}
    : Skips (rsaPrivateNumbersFromJwk env obj publicNumbers >>= env.crypto.rsaPrivateKey)
      ↔ PrivateImportable env obj publicNumbers := by
  have anyFound : ([("p" : PyStr), "q", "dp", "dq", "qi"].map obj.contains).any id
      = crtMembers.any obj.contains := by
    rw [List.any_map]
    rfl
  have allFound : ([("p" : PyStr), "q", "dp", "dq", "qi"].map obj.contains).all id
      = crtMembers.all obj.contains := by
    rw [List.all_map]
    rfl
  unfold rsaPrivateNumbersFromJwk PrivateImportable
  simp only [anyFound, allFound]
  cases oth : obj.contains "oth" with
  | true =>
      simp only [if_true, reduceCtorEq, false_imp_iff, iff_true]
      exact failsWith_error.mpr (skippable_invalidKeyError _)
  | false =>
      simp only [Bool.false_eq_true, if_false, true_imp_iff]
      cases some : crtMembers.any obj.contains with
      | false =>
          have notAll : crtMembers.all obj.contains = false := by
            simp only [crtMembers, List.any_cons, Bool.or_eq_false_iff] at some
            simp [crtMembers, some.1]
          simp only [notAll, Bool.false_and, Bool.false_eq_true, if_false, false_imp_iff,
            true_and, true_imp_iff, bind_assoc]
          exact skips_uintMember_bind (fun d => by simp only [recoverNumbers, bind_assoc])
      | true =>
          cases all : crtMembers.all obj.contains with
          | false =>
              simp only [Bool.not_false, Bool.and_self, if_true, reduceCtorEq,
                Bool.false_eq_true, false_imp_iff, and_self, iff_true]
              exact failsWith_error.mpr (skippable_invalidKeyError _)
          | true =>
              simp only [Bool.not_true, Bool.and_false, Bool.false_eq_true, if_false, if_true,
                true_imp_iff, reduceCtorEq, false_imp_iff, and_true, bind_assoc, pure_bind]
              refine (skips_uintMember_bind (fun d => skips_uintMember_bind (fun p =>
                skips_uintMember_bind (fun q => skips_uintMember_bind (fun dmp1 =>
                  skips_uintMember_bind (fun dmq1 => skips_uintMember_bind (fun iqmp =>
                    Iff.rfl))))))).trans ?_
              constructor
              · intro h
                obtain ⟨d, isD, p, isP, q, isQ, dmp1, isDp, dmq1, isDq, iqmp, isQi, made⟩ := h
                exact ⟨d, p, q, dmp1, dmq1, iqmp, isD, isP, isQ, isDp, isDq, isQi, made⟩
              · intro h
                obtain ⟨d, p, q, dmp1, dmq1, iqmp, isD, isP, isQ, isDp, isDq, isQi, made⟩ := h
                exact ⟨d, isD, p, isP, q, isQ, dmp1, isDp, dmq1, isDq, iqmp, isQi, made⟩

theorem skips_fromJwk (entries : List (PyStr × Json))
    : Skips (fromJwk env (.dict entries)) ↔ Importable env (Dict.ofEntries entries) := by
  unfold fromJwk Importable
  rw [parseJwkJson_dict_bind]
  refine skips_kty (skippable_invalidKeyError _) ?_
  have publicKey (e n : Nat)
      : Skips (do return Key.object (.rsaPublic (← env.crypto.rsaPublicKey { e, n })))
        ↔ Skips (env.crypto.rsaPublicKey { e, n }) :=
    skips_map
  have privateKey (e n : Nat)
      : Skips (do
            let numbers ← rsaPrivateNumbersFromJwk env (Dict.ofEntries entries) { e, n }
            return Key.object (.rsaPrivate (← env.crypto.rsaPrivateKey numbers)))
        ↔ PrivateImportable env (Dict.ofEntries entries) { e, n } := by
    rw [← skips_private, ← bind_assoc]
    exact skips_map
  cases hasE : (Dict.ofEntries entries).contains "e" with
  | false =>
      simp only [Bool.and_false, Bool.false_and, Bool.false_eq_true, if_false, false_imp_iff,
        iff_true]
      exact failsWith_error.mpr (skippable_invalidKeyError _)
  | true =>
      cases hasN : (Dict.ofEntries entries).contains "n" with
      | false =>
          simp only [Bool.and_false, Bool.false_and, Bool.false_eq_true, if_false,
            false_imp_iff, imp_true_iff, iff_true]
          exact failsWith_error.mpr (skippable_invalidKeyError _)
      | true =>
          cases (Dict.ofEntries entries).contains "d" with
          | true =>
              simp only [Bool.and_self, if_true, true_imp_iff, reduceCtorEq, false_imp_iff,
                true_and]
              exact (skips_uintMember_bind (fun e => skips_uintMember_bind (privateKey e))).trans
                (by simp only [exists_and_left])
          | false =>
              simp only [Bool.false_and, Bool.and_self, Bool.false_eq_true, if_false, if_true,
                true_imp_iff, false_imp_iff, and_true]
              exact (skips_uintMember_bind (fun e => skips_uintMember_bind (publicKey e))).trans
                (by simp only [exists_and_left])

end RSAAlgorithm

namespace ECAlgorithm

/-- The numbers of the coordinates `x` and `y` on the curve. -/
def pointNumbers (x y : Bytes) (curve : Curve) : EllipticCurvePublicNumbers where
  x := BigEndian.ofBytes x
  y := BigEndian.ofBytes y
  curve := curve

/-- An elliptic-curve key with both coordinates has base64url text in them and a `crv` that can
be looked up; on a curve that fits, the private value is base64url text and the key can be
constructed.
-/
def Importable (env : Env) (obj : Dict Json) : Prop :=
  obj.get? "kty" = some (.str "EC")
  → obj.contains "x" = true
  → obj.contains "y" = true
  → ∃ x,
      base64urlDecode (jsonAsText (getOrNull obj "x")) = .ok x
      ∧ ∃ y,
          base64urlDecode (jsonAsText (getOrNull obj "y")) = .ok y
          ∧ Hashable (getOrNull obj "crv")
          ∧ ∀ curve,
              resolveEcCurveFromJwk (getOrNull obj "crv") x.length y.length = .ok curve
              → (obj.contains "d" = false
                  → Skips (env.crypto.ecPublicKey (pointNumbers x y curve)))
                ∧ (obj.contains "d" = true
                  → ∃ d,
                      base64urlDecode (jsonAsText (getOrNull obj "d")) = .ok d
                      ∧ (d.length = x.length
                        → Skips (env.crypto.ecPrivateKey
                          ⟨BigEndian.ofBytes d, pointNumbers x y curve⟩)))

theorem skips_resolveEcCurve {crv : Json} {xLen yLen : Nat}
    : Skips (resolveEcCurveFromJwk crv xLen yLen) ↔ Hashable crv := by
  refine (failsWith_bind.trans (and_iff_left (fun _ _ => ?_))).trans skips_requireHashable
  split
  · exact failsWith_error.mpr (skippable_invalidKeyError _)
  · exact failsWith_ite.mpr ⟨fun _ => failsWith_error.mpr (skippable_invalidKeyError _),
      fun _ => failsWith_ok _⟩

theorem skips_fromJwk (entries : List (PyStr × Json))
    : Skips (fromJwk env (.dict entries)) ↔ Importable env (Dict.ofEntries entries) := by
  have bytes (value : Json) {α : Type} {next : Bytes → Outcome α} {condition : Bytes → Prop}
      (h : ∀ data, Skips (next data) ↔ condition data)
      : Skips (base64urlDecode (jsonAsText value) >>= next)
        ↔ ∃ data, base64urlDecode (jsonAsText value) = .ok data ∧ condition data :=
    failsWith_bind_of_returns (skips_iff_returns (failsWith_base64urlDecode _)) h
  unfold fromJwk Importable
  rw [parseJwkJson_dict_bind]
  refine skips_kty (skippable_invalidKeyError _) ?_
  cases hasX : (Dict.ofEntries entries).contains "x" with
  | false =>
      simp only [Bool.not_false, Bool.true_or, if_true, Bool.false_eq_true, false_imp_iff,
        iff_true]
      exact failsWith_error.mpr (skippable_invalidKeyError _)
  | true =>
      cases hasY : (Dict.ofEntries entries).contains "y" with
      | false =>
          simp only [Bool.not_false, Bool.or_true, if_true, Bool.false_eq_true, false_imp_iff,
            imp_true_iff, iff_true]
          exact failsWith_error.mpr (skippable_invalidKeyError _)
      | true =>
          simp only [Bool.not_true, Bool.or_self, Bool.false_eq_true, if_false, true_imp_iff]
          refine bytes _ (fun x => bytes _ (fun y => ?_))
          refine failsWith_bind.trans (and_congr skips_resolveEcCurve ?_)
          refine forall_congr' (fun curve => imp_congr_right (fun _ => ?_))
          cases (Dict.ofEntries entries).contains "d" with
          | false =>
              simp only [Bool.not_false, if_true, true_imp_iff, Bool.false_eq_true,
                false_imp_iff, and_true]
              exact skips_map
          | true =>
              simp only [Bool.not_true, Bool.false_eq_true, if_false, reduceCtorEq,
                false_imp_iff, true_and, true_imp_iff]
              refine bytes _ (fun d => ?_)
              by_cases fits : d.length = x.length
              · simp only [fits, ne_eq, not_true, if_false, true_imp_iff]
                exact skips_map
              · simp only [ne_eq, fits, not_false_eq_true, if_true, false_imp_iff, iff_true]
                exact failsWith_error.mpr (skippable_invalidKeyError _)

end ECAlgorithm

namespace OKPAlgorithm

/-- An Edwards key on one of the two curves with an `x` has base64url text in it and, when
private, some text in `d`; constructing it raises nothing but a `ValueError`.
-/
def Importable (env : Env) (obj : Dict Json) : Prop :=
  obj.get? "kty" = some (.str "OKP")
  → ∀ curve,
      crvCurve? (getOrNull obj "crv") = some curve
      → obj.contains "x" = true
      → ∃ x,
          base64urlDecode (jsonAsText (getOrNull obj "x")) = .ok x
          ∧ (obj.contains "d" = false
            → FailsWith (fun error => [ExcClass.valueError].any error.isA = true
                ∨ Skippable error)
              (env.crypto.edPublicFromBytes curve x))
          ∧ (obj.contains "d" = true
            → (∃ text, getOrNull obj "d" = .str text)
              ∧ ∀ d,
                  base64urlDecode (jsonAsText (getOrNull obj "d")) = .ok d
                  → FailsWith (fun error => [ExcClass.valueError].any error.isA = true
                      ∨ Skippable error)
                    (env.crypto.edPrivateFromBytes curve d))

/-- Only what is no text at all fails to decode with something else than a `ValueError`. -/
theorem failsWith_base64urlDecode_value {value : Json}
    : FailsWith (fun error => [ExcClass.valueError].any error.isA = true ∨ Skippable error)
          (base64urlDecode (jsonAsText value))
      ↔ ∃ text, value = .str text := by
  have notText (noText : jsonAsText value = .other)
      : ¬FailsWith (fun error => [ExcClass.valueError].any error.isA = true ∨ Skippable error)
        (base64urlDecode (jsonAsText value)) := by
    rw [noText]
    intro h
    exact absurd (failsWith_error.mp h) (by decide)
  cases value with
  | null | bool _ | int _ | float _ | list _ | dict _ =>
      exact iff_of_false (notText rfl) (by simp)
  | str text =>
      refine iff_of_true ?_ ⟨text, rfl⟩
      refine failsWith_bind.mpr ⟨?_, fun _ _ => ?_⟩
      · simp only [jsonAsText, forceBytes, encodeStr]
        split
        · exact failsWith_ok _
        · exact failsWith_error.mpr (Or.inl rfl)
      · unfold urlsafeB64decode
        simp only
        split
        · exact failsWith_ok _
        · exact failsWith_error.mpr (Or.inl rfl)
        · exact failsWith_error.mpr (Or.inl rfl)

theorem skips_fromJwk (entries : List (PyStr × Json))
    : Skips (fromJwk env (.dict entries)) ↔ Importable env (Dict.ofEntries entries) := by
  -- Inside the guard a `ValueError` counts as an invalid key.
  have guarded {attempt : Outcome Key} {message : List MessagePart}
      : Skips (tryExcept attempt [.valueError] (fun _ => .error ⟨.invalidKeyError, message⟩))
        ↔ FailsWith (fun error => [ExcClass.valueError].any error.isA = true
            ∨ Skippable error) attempt :=
    failsWith_tryExcept.trans (and_iff_left (fun _ _ _ => failsWith_error.mpr
      (skippable_invalidKeyError _)))
  unfold fromJwk Importable
  rw [parseJwkJson_dict_bind]
  refine skips_kty (skippable_invalidKeyError _) ?_
  cases crvCurve? (getOrNull (Dict.ofEntries entries) "crv") with
  | none =>
      simp only [reduceCtorEq, false_imp_iff, implies_true, iff_true]
      exact failsWith_error.mpr (skippable_invalidKeyError _)
  | some curve =>
      simp only [Option.some.injEq, forall_eq']
      cases hasX : (Dict.ofEntries entries).contains "x" with
      | false =>
          simp only [Bool.not_false, if_true, Bool.false_eq_true, false_imp_iff, iff_true]
          exact failsWith_error.mpr (skippable_invalidKeyError _)
      | true =>
          simp only [Bool.not_true, Bool.false_eq_true, if_false, true_imp_iff]
          refine failsWith_bind_of_returns
            (skips_iff_returns (failsWith_base64urlDecode _)) (fun x => ?_)
          refine guarded.trans ?_
          cases (Dict.ofEntries entries).contains "d" with
          | false =>
              simp only [Bool.not_false, if_true, true_imp_iff, Bool.false_eq_true,
                false_imp_iff, and_true]
              exact failsWith_bind.trans (and_iff_left (fun _ _ => failsWith_ok _))
          | true =>
              simp only [Bool.not_true, Bool.false_eq_true, if_false, reduceCtorEq,
                false_imp_iff, true_and, true_imp_iff]
              refine failsWith_bind.trans (and_congr failsWith_base64urlDecode_value ?_)
              refine forall_congr' (fun d => imp_congr_right (fun _ => ?_))
              exact failsWith_bind.trans (and_iff_left (fun _ _ => failsWith_ok _))

end OKPAlgorithm

/-- What the handler that an entry selects needs of it. No key is imported for `none`, and a
caller's own algorithm is no default.
-/
def Algorithm.Importable (env : Env) : Algorithm → Dict Json → Prop
  | .none, _ => False
  | .hmac _, obj => HMACAlgorithm.Importable obj
  | .rsa _, obj => RSAAlgorithm.Importable env obj
  | .ec _, obj => ECAlgorithm.Importable env obj
  | .okp, obj => OKPAlgorithm.Importable env obj
  | .custom _, _ => True

theorem Algorithm.skips_fromJwk {name : PyStr} {handler : Algorithm}
    (library : (getDefaultAlgorithms env).get? name = some handler)
    (entries : List (PyStr × Json))
    : Skips (handler.fromJwk env (.dict entries))
      ↔ handler.Importable env (Dict.ofEntries entries) := by
  cases handler with
  | none =>
      refine iff_of_false (fun h => ?_) id
      exact MemberFailure.not_skippable (by simp [MemberFailure]) (failsWith_error.mp h)
  | hmac self => exact HMACAlgorithm.skips_fromJwk entries
  | rsa self => exact RSAAlgorithm.skips_fromJwk entries
  | ec self => exact ECAlgorithm.skips_fromJwk entries
  | okp => exact OKPAlgorithm.skips_fromJwk entries
  | custom self =>
      obtain ⟨family, _, made⟩ := family?_of_default library
      cases made

-----------------------------------------------------------------------------------------
-- Selecting the algorithm
-----------------------------------------------------------------------------------------

/-- What the algorithm is looked up by can be a key of a table: the entry's `alg`, or else its
type and, for elliptic curves, its curve.
-/
def SelectsHashable (obj : Dict Json) : Prop :=
  ((getOrNull obj "alg").truthy = true → Hashable (getOrNull obj "alg"))
  ∧ ((getOrNull obj "alg").truthy = false
    → Hashable (getOrNull obj "kty")
      ∧ (obj.get? "kty" = some (.str "EC")
        → (getOrNull obj "crv").truthy = true
        → Hashable (getOrNull obj "crv")))

theorem hashable_of_asStr? {value : Json} {text : PyStr} (h : value.asStr? = some text)
    : Hashable value := by
  rw [Json.asStr?_eq_some.mp h]
  exact trivial

/-- Inferring the algorithm from the key type fails with own errors where what it looks up is
hashable.
-/
theorem skips_inferAlgorithmFromKty {obj : Dict Json}
    : Skips (PyJWK.inferAlgorithmFromKty obj (getOrNull obj "kty"))
      ↔ Hashable (getOrNull obj "kty")
        ∧ (obj.get? "kty" = some (.str "EC")
          → (getOrNull obj "crv").truthy = true
          → Hashable (getOrNull obj "crv")) := by
  rw [← getOrNull_asStr?_eq_some]
  unfold PyJWK.inferAlgorithmFromKty
  change Skips (if (getOrNull obj "kty").asStr? = some (PyStr.ofString "EC") then _
    else if (getOrNull obj "kty").asStr? = some (PyStr.ofString "OKP") then _ else _) ↔ _
  by_cases isEc : (getOrNull obj "kty").asStr? = some (PyStr.ofString "EC")
  · simp only [isEc, if_true, hashable_of_asStr? isEc, true_and, true_imp_iff]
    cases (getOrNull obj "crv").truthy with
    | false => simp
    | true =>
        simp only [Bool.not_true, Bool.false_eq_true, if_false, true_imp_iff]
        exact skips_lookupJson (skippable_invalidKeyError _)
  · simp only [isEc, if_false, false_imp_iff, and_true]
    by_cases isOkp : (getOrNull obj "kty").asStr? = some (PyStr.ofString "OKP")
    · simp only [isOkp, if_true, hashable_of_asStr? isOkp, iff_true]
      refine failsWith_ite.mpr ⟨fun _ => ?_, fun _ => failsWith_ite.mpr ⟨fun _ => ?_, fun _ => ?_⟩⟩
      · exact failsWith_error.mpr (skippable_invalidKeyError _)
      · exact failsWith_ok _
      · exact failsWith_error.mpr (skippable_invalidKeyError _)
    · simp only [isOkp, if_false]
      exact skips_lookupJson (skippable_invalidKeyError _)

/-- Without an argument the entry's own `alg` is taken where it is true. -/
theorem nameAlgorithm_eq (obj : Dict Json)
    : PyJWK.nameAlgorithm obj none (getOrNull obj "kty")
      = if (getOrNull obj "alg").truthy then .ok (getOrNull obj "alg")
        else Json.str <$> PyJWK.inferAlgorithmFromKty obj (getOrNull obj "kty") := by
  have nothing : Json.null.truthy = false := rfl
  unfold PyJWK.nameAlgorithm
  simp only [Option.map_none, Option.getD_none, nothing, Bool.not_false, if_true]
  cases (getOrNull obj "alg").truthy <;> rfl

/-- The name is chosen with own errors only, and can be looked up, where the entry selects by
what is hashable.
-/
theorem skips_nameAlgorithm {obj : Dict Json}
    : (Skips (PyJWK.nameAlgorithm obj none (getOrNull obj "kty"))
        ∧ ∀ name,
            PyJWK.nameAlgorithm obj none (getOrNull obj "kty") = .ok name → Hashable name)
      ↔ SelectsHashable obj := by
  rw [nameAlgorithm_eq]
  unfold SelectsHashable
  cases (getOrNull obj "alg").truthy with
  | true => simp
  | false =>
      simp only [Bool.false_eq_true, if_false, false_imp_iff, true_and, true_imp_iff]
      rw [← skips_inferAlgorithmFromKty]
      have inferred : Skips (Json.str <$> PyJWK.inferAlgorithmFromKty obj (getOrNull obj "kty"))
          ↔ Skips (PyJWK.inferAlgorithmFromKty obj (getOrNull obj "kty")) := by
        cases PyJWK.inferAlgorithmFromKty obj (getOrNull obj "kty") with
        | ok name => exact iff_of_true (failsWith_ok _) (failsWith_ok _)
        | error error => exact failsWith_error.trans failsWith_error.symm
      rw [inferred]
      refine and_iff_left (fun name named => ?_)
      cases found : PyJWK.inferAlgorithmFromKty obj (getOrNull obj "kty") with
      | ok text =>
          rw [found] at named
          cases named
          exact trivial
      | error error =>
          rw [found] at named
          cases named

-----------------------------------------------------------------------------------------
-- Entries and sets
-----------------------------------------------------------------------------------------

/-- The entry can only make a key or be skipped: it is a dictionary, and where it has a key
type, it selects its algorithm by what is hashable, and has the members which that algorithm
reads.
-/
def Harmless (env : Env) (entry : Json) : Prop :=
  ∃ obj,
    entry.asDict? = some obj
    ∧ ((getOrNull obj "kty").truthy = true
      → SelectsHashable obj
        ∧ ∀ name handler,
            PyJWK.nameAlgorithm obj none (getOrNull obj "kty") = .ok (.str name)
            → (getDefaultAlgorithms env).get? name = some handler
            → handler.Importable env obj)

/-- The entry selects an algorithm that needs the `cryptography` package, which is missing. -/
def NeedsCryptography (env : Env) (entry : Json) : Prop :=
  env.hasCrypto = false
  ∧ ∃ obj name,
      entry.asDict? = some obj
      ∧ (getOrNull obj "kty").truthy = true
      ∧ PyJWK.nameAlgorithm obj none (getOrNull obj "kty") = .ok (.str name)
      ∧ name ∈ requiresCryptography

/-- Without the package no algorithm that needs it is among the defaults. -/
theorem getDefaultAlgorithms_get?_eq_none {name : PyStr} (missing : env.hasCrypto = false)
    (needed : name ∈ requiresCryptography)
    : (getDefaultAlgorithms env).get? name = none := by
  have unregistered : ∀ text ∈ requiresCryptography,
      (getDefaultAlgorithms env).get? text = none := by
    unfold getDefaultAlgorithms
    rw [missing]
    decide
  exact unregistered name needed

namespace PyJWK

/-- Nothing is needed of the selected algorithm where there is the package. -/
theorem skips_requireCryptography_bind {name : Json} {α : Type} {next : Outcome α}
    {condition : Prop} (h : Skips next ↔ Hashable name ∧ condition)
    : Skips (requireCryptography env name >>= fun _ => next)
      ↔ Hashable name
        ∧ (env.hasCrypto = false → ∀ text, name = .str text → text ∉ requiresCryptography)
        ∧ condition := by
  unfold requireCryptography
  cases env.hasCrypto with
  | true =>
      simp only [if_true, outcome_ok_bind, reduceCtorEq, false_imp_iff, true_and]
      exact h
  | false =>
      simp only [Bool.false_eq_true, if_false, true_imp_iff]
      cases name with
      | list _ | dict _ =>
          refine iff_of_false (fun skips => ?_) (fun skips => skips.1)
          exact MemberFailure.not_skippable (by simp [MemberFailure]) (failsWith_error.mp skips)
      | null | bool _ | int _ | float _ =>
          refine h.trans (and_congr_right (fun _ => ?_))
          exact (and_iff_right (fun _ same => nomatch same)).symm
      | str text =>
          simp only [Json.str.injEq, forall_eq']
          by_cases needed : text ∈ requiresCryptography
          · simp only [requireHashable, Json.asStr?, Option.any_some, needed, decide_true,
              outcome_ok_bind, if_true, outcome_error_bind, not_true, false_and, and_false,
              iff_false]
            intro skips
            cases (failsWith_error.mp skips).2
          · simp only [requireHashable, Json.asStr?, Option.any_some, needed, decide_false,
              outcome_ok_bind, Bool.false_eq_true, if_false, not_false_eq_true, true_and]
            exact h

/-- Once its algorithm is named, an entry makes a key or a skippable error exactly when the name
is hashable and the algorithm registered under it can import the entry.
-/
theorem skips_construct (entries : List (PyStr × Json)) (name : Json)
    : Skips (do
          let found ←
            lookupJson (getDefaultAlgorithms env).entries name
              ⟨
                .pyJWKError,
                [.text "Unable to find an algorithm for key: ", .json (.dict entries)]
              ⟩
          let key ← found.fromJwk env (.dict entries)
          return ({
            jwkData := Dict.ofEntries entries
            algorithmName := name.asStr?.getD ""
            algorithm := found
            key
          } : PyJWK))
      ↔ Hashable name
        ∧ ∀ text handler,
            name = .str text
            → (getDefaultAlgorithms env).get? text = some handler
            → handler.Importable env (Dict.ofEntries entries) := by
  refine failsWith_bind.trans (and_congr (skips_lookupJson ⟨rfl, rfl⟩) ?_)
  constructor
  · intro h text handler named registered
    refine (Algorithm.skips_fromJwk registered entries).mp ?_
    exact (failsWith_bind.mp (h handler (lookupJson_eq_ok.mpr ⟨text, named, registered⟩))).1
  · intro h handler lookup
    obtain ⟨text, named, registered⟩ := lookupJson_eq_ok.mp lookup
    refine failsWith_bind.mpr ⟨?_, fun _ _ => failsWith_ok _⟩
    exact (Algorithm.skips_fromJwk registered entries).mpr (h text handler named registered)

/-- An entry fails with none but skippable errors exactly when it is harmless and needs no
missing package.
-/
theorem skips_init_iff (entry : Json)
    : Skips (PyJWK.init env entry none) ↔ Harmless env entry ∧ ¬NeedsCryptography env entry := by
  unfold PyJWK.init Harmless NeedsCryptography
  cases entry with
  | null | bool _ | int _ | float _ | str _ | list _ =>
      refine iff_of_false (fun h => ?_) (by simp [Json.asDict?])
      exact MemberFailure.not_skippable (by simp [MemberFailure]) (failsWith_error.mp h)
  | dict entries =>
      have isDict : (Json.dict entries).asDict? = some (Dict.ofEntries entries) := rfl
      simp only [requireDict, isDict, outcome_ok_bind, Option.some.injEq, exists_and_left,
        exists_eq_left']
      cases (getOrNull (Dict.ofEntries entries) "kty").truthy with
      | false =>
          simp only [Bool.not_false, if_true, Bool.false_eq_true, false_imp_iff, false_and,
            and_false, not_false_eq_true, and_self, iff_true]
          exact failsWith_error.mpr (skippable_invalidKeyError _)
      | true =>
          simp only [Bool.not_true, Bool.false_eq_true, if_false, true_imp_iff, true_and]
          rw [← skips_nameAlgorithm, and_assoc, and_assoc]
          refine failsWith_bind.trans (and_congr_right (fun _ => ?_))
          have whole (name : Json) := @skips_requireCryptography_bind env _ _ _ _
            (@skips_construct env entries name)
          constructor
          · intro h
            refine ⟨fun name named => ((whole name).mp (h name named)).1, ?_, ?_⟩
            · intro text handler named registered
              exact ((whole (.str text)).mp (h (.str text) named)).2.2 text handler rfl
                registered
            · intro needs
              obtain ⟨missing, text, named, needed⟩ := needs
              exact ((whole (.str text)).mp (h (.str text) named)).2.1 missing text rfl needed
          · intro h name named
            refine (whole name).mpr ⟨h.1 name named, ?_, ?_⟩
            · intro missing text same needed
              exact h.2.2 ⟨missing, text, same ▸ named, needed⟩
            · intro text handler same registered
              exact h.2.1 text handler (same ▸ named) registered

/-- With `cryptography` an entry fails with none but skippable errors exactly when it is
harmless.
-/
theorem skips_init (hasCrypto : env.hasCrypto = true) (entry : Json)
    : Skips (PyJWK.init env entry none) ↔ Harmless env entry := by
  refine (skips_init_iff entry).trans (and_iff_left (fun needs => ?_))
  cases hasCrypto.symm.trans needs.1

end PyJWK

/-- The keys of the usable entries, in their order. -/
def usableKeys (env : Env) (items : List Json) : List PyJWK :=
  items.filterMap (fun entry => (PyJWK.init env entry none).toOption)

namespace PyJWKSet

/-- The loop keeps the usable keys when it can go on after every failure, by induction on the
entries.
-/
theorem loadKeys_of_skips {items : List Json}
    (h : ∀ entry ∈ items, Skips (PyJWK.init env entry none)) (loaded : List PyJWK)
    : loadKeys env items loaded = .ok (loaded ++ usableKeys env items) := by
  induction items generalizing loaded with
  | nil => simp [loadKeys, usableKeys]
  | cons entry rest ih =>
      have more := ih (fun other member => h other (List.mem_cons_of_mem entry member))
      have skips := h entry List.mem_cons_self
      unfold loadKeys
      cases made : PyJWK.init env entry none with
      | ok jwk =>
          simp only [more, usableKeys, List.filterMap_cons, made, Except.toOption,
            List.append_assoc, List.singleton_append]
      | error error =>
          obtain ⟨own, notMissing⟩ := skips error made
          simp only [own, notMissing, if_true, Bool.false_eq_true, if_false, more, usableKeys,
            List.filterMap_cons, made, Except.toOption]

/-- The loop ends in the first error that it cannot go on after, by induction on the entries. -/
theorem loadKeys_of_not_skips {items : List Json}
    (h : ¬∀ entry ∈ items, Skips (PyJWK.init env entry none)) (loaded : List PyJWK)
    : ∃ error, loadKeys env items loaded = .error error ∧ ¬Skippable error := by
  induction items generalizing loaded with
  | nil => exact absurd (by simp) h
  | cons entry rest ih =>
      unfold loadKeys
      cases made : PyJWK.init env entry none with
      | ok jwk =>
          refine ih (fun restSkips => h ?_) _
          intro other member
          rcases List.mem_cons.mp member with rfl | member
          · rw [made]
            exact failsWith_ok _
          · exact restSkips other member
      | error error =>
          by_cases skippable : Skippable error
          · simp only [skippable.1, skippable.2, if_true, Bool.false_eq_true, if_false]
            refine ih (fun restSkips => h ?_) _
            intro other member
            rcases List.mem_cons.mp member with rfl | member
            · rw [made]
              exact failsWith_error.mpr skippable
            · exact restSkips other member
          · refine ⟨error, ?_, skippable⟩
            unfold Skippable at skippable
            cases own : error.isA .pyJWTError with
            | false => simp [own]
            | true =>
                have missing : error.isA .missingCryptographyError = true := by
                  simpa [own] using skippable
                simp [missing]

/-- The error of a set whose entries were all skipped. -/
def noUsableKeys : PyError :=
  ⟨
    .pyJWKSetError,
    [
      .text "The JWK Set did not contain any usable keys. ",
      .text "Perhaps 'cryptography' is not installed?"
    ]
  ⟩

theorem init_list {items : List Json} (nonempty : items ≠ [])
    : init env (.list items)
      = (loadKeys env items [] >>= fun loaded =>
          if loaded.length = 0 then .error noUsableKeys else .ok ⟨loaded⟩) := by
  have truthy : (Json.list items).truthy = true := by
    simp [Json.truthy, nonempty]
  unfold init
  rw [truthy]
  rfl

/-- The set holds the usable keys in their order, and is refused exactly when there are none. -/
def KeepsUsable (env : Env) (items : List Json) : Prop :=
  (usableKeys env items ≠ [] → init env (.list items) = .ok ⟨usableKeys env items⟩)
  ∧ (usableKeys env items = []
    ↔ ∃ message, init env (.list items) = .error ⟨.pyJWKSetError, message⟩)

theorem keepsUsable_of_skips {items : List Json}
    (h : ∀ entry ∈ items, Skips (PyJWK.init env entry none))
    : KeepsUsable env items := by
  by_cases empty : items = []
  · subst empty
    exact ⟨fun usable => absurd rfl usable, iff_of_true rfl ⟨_, rfl⟩⟩
  · have loaded := loadKeys_of_skips h []
    unfold KeepsUsable
    rw [init_list empty, loaded, outcome_ok_bind, List.nil_append]
    by_cases none : usableKeys env items = []
    · rw [if_pos (List.length_eq_zero_iff.mpr none)]
      exact ⟨fun usable => absurd none usable, iff_of_true none ⟨_, rfl⟩⟩
    · rw [if_neg (fun zero => none (List.length_eq_zero_iff.mp zero))]
      exact ⟨fun _ => rfl, iff_of_false none (by simp)⟩

theorem not_keepsUsable_of_not_skips {items : List Json}
    (h : ¬∀ entry ∈ items, Skips (PyJWK.init env entry none))
    : ¬KeepsUsable env items := by
  intro keeps
  have nonempty : items ≠ [] := by
    intro empty
    subst empty
    exact h (by simp)
  obtain ⟨error, raised, foreign⟩ := loadKeys_of_not_skips h []
  have failed : init env (.list items) = .error error := by
    rw [init_list nonempty, raised]
    rfl
  by_cases none : usableKeys env items = []
  · obtain ⟨message, refused⟩ := keeps.2.mp none
    rw [failed] at refused
    cases refused
    exact foreign ⟨rfl, rfl⟩
  · have kept := keeps.1 none
    rw [failed] at kept
    cases kept

end PyJWKSet

/-- With `cryptography` a JWK Set keeps exactly its usable keys precisely where every entry can
only make a key or be skipped.
-/
theorem keepsUsable_iff (hasCrypto : env.hasCrypto = true) (items : List Json)
    : PyJWKSet.KeepsUsable env items ↔ ∀ entry ∈ items, Harmless env entry := by
  simp only [← PyJWK.skips_init hasCrypto]
  constructor
  · intro keeps
    by_contra escapes
    exact PyJWKSet.not_keepsUsable_of_not_skips escapes keeps
  · exact PyJWKSet.keepsUsable_of_skips

-----------------------------------------------------------------------------------------
-- A usable key next to another entry
-----------------------------------------------------------------------------------------

/-- `{"kty":"oct","k":"a2s"}`, the two bytes `kk`. -/
def secretJwk : Json := .dict [("kty", .str "oct"), ("k", .str "a2s")]

/-- `{"kty":"unknown"}`. -/
def unknownJwk : Json := .dict [("kty", .str "unknown")]

/-- `{"kty":"oct"}`, without the member `k`. -/
def emptyJwk : Json := .dict [("kty", .str "oct")]

/-- An entry of an unknown type is skipped. -/
theorem keepsUsable_iff_unknown
    : ∃ jwk,
        PyJWK.init constructingEnv secretJwk none = .ok jwk
        ∧ PyJWKSet.init constructingEnv (.list [secretJwk, unknownJwk]) = .ok ⟨[jwk]⟩ := by
  obtain ⟨jwk, made, _⟩ := of_returnsWith
    (by decide : returnsWith (fun _ => true)
      (PyJWK.init constructingEnv secretJwk none) = true)
  obtain ⟨error, failed, _⟩ := of_raisesWith
    (by decide : raisesWith (fun _ => true)
      (PyJWK.init constructingEnv unknownJwk none) = true)
  have secret : Harmless constructingEnv secretJwk := by
    refine ⟨_, rfl, fun _ => ⟨⟨fun isTrue => absurd isTrue (by decide), fun _ =>
      ⟨trivial, fun isEc => ?_⟩⟩, ?_⟩⟩
    · have isOct : (Dict.ofEntries [(("kty" : PyStr), Json.str "oct"), ("k", .str "a2s")]).get?
          "kty" = some (.str "oct") := rfl
      rw [isOct] at isEc
      simp at isEc
    · intro name handler named registered
      have isName : (Except.ok (.str "HS256") : Outcome Json) = .ok (.str name) := named
      cases isName
      have isHandler : some (Algorithm.hmac ⟨.sha256⟩) = some handler := registered
      cases isHandler
      exact fun _ => ⟨.str "a2s", rfl, ascii "kk", rfl⟩
  have unknown : Harmless constructingEnv unknownJwk := by
    refine ⟨_, rfl, fun _ => ⟨⟨fun isTrue => absurd isTrue (by decide), fun _ =>
      ⟨trivial, fun isEc => ?_⟩⟩, ?_⟩⟩
    · have isUnknown : (Dict.ofEntries [(("kty" : PyStr), Json.str "unknown")]).get? "kty"
          = some (.str "unknown") := rfl
      rw [isUnknown] at isEc
      simp at isEc
    · intro name handler named _
      cases named
  have keeps := (@keepsUsable_iff constructingEnv rfl [secretJwk, unknownJwk]).mpr
    (by simp [secret, unknown])
  have usable : usableKeys constructingEnv [secretJwk, unknownJwk] = [jwk] := by
    simp [usableKeys, made, failed, Except.toOption]
  refine ⟨jwk, made, ?_⟩
  rw [← usable]
  exact keeps.1 (by simp [usable])

/-- An entry that lacks a member makes the whole set fail with a `KeyError`. -/
theorem keepsUsable_missingMember
    : ¬PyJWKSet.KeepsUsable constructingEnv [secretJwk, emptyJwk]
      ∧ ∃ error,
          PyJWKSet.init constructingEnv (.list [secretJwk, emptyJwk]) = .error error
          ∧ error.cls = .keyError := by
  obtain ⟨jwk, made, _⟩ := of_returnsWith
    (by decide : returnsWith (fun _ => true)
      (PyJWK.init constructingEnv secretJwk none) = true)
  obtain ⟨error, failed, isKeyError⟩ := of_raisesWith
    (by decide : raisesWith (fun error => error.cls = .keyError)
      (PyJWKSet.init constructingEnv (.list [secretJwk, emptyJwk])) = true)
  refine ⟨fun keeps => ?_, error, failed, of_decide_eq_true isKeyError⟩
  have usable : usableKeys constructingEnv [secretJwk, emptyJwk] ≠ [] := by
    simp [usableKeys, made, Except.toOption]
  rw [keeps.1 usable] at failed
  cases failed

end PyJwt
