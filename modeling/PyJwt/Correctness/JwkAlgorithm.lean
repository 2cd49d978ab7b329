import PyJwt.Correctness.VerifiedDecoding

/-! Which algorithm verifies under a `PyJWK`. The allow-list is tested against the header and
the verifier is taken from the key, and only a missing allow-list ties the two together.
-/

namespace PyJwt

open Foundations
open Python

variable {env : Env}

/-- The constructor returns exactly when the entry has a type and names, or is inferred, a
default algorithm that imports the entry's key.
-/
theorem PyJWK.init_eq_ok {jwkData : Json} {algorithm : Option PyStr} {jwk : PyJWK}
    : PyJWK.init env jwkData algorithm = .ok jwk
      ↔ ∃ (data : Dict Json) (name : PyStr) (found : Algorithm) (key : Key),
          requireDict jwkData = .ok data
          ∧ (getOrNull data "kty").truthy = true
          ∧ nameAlgorithm data algorithm (getOrNull data "kty") = .ok (.str name)
          ∧ requireCryptography env (.str name) = .ok ()
          ∧ (getDefaultAlgorithms env).get? name = some found
          ∧ found.fromJwk env jwkData = .ok key
          ∧ jwk = ⟨data, name, found, key⟩ := by
  unfold PyJWK.init
  rw [outcome_bind_eq_ok]
  constructor
  · intro h
    obtain ⟨data, isDict, h⟩ := h
    cases typed : (getOrNull data "kty").truthy with
    | false =>
        simp only [typed, Bool.not_false, if_true] at h
        cases h
    | true =>
        simp only [typed, Bool.not_true, Bool.false_eq_true, if_false, outcome_bind_eq_ok] at h
        obtain ⟨value, named, ⟨⟩, supported, found, lookup, key, imported, returned⟩ := h
        obtain ⟨name, rfl, entry⟩ := lookupJson_eq_ok.mp lookup
        exact ⟨data, name, found, key, isDict, typed, named, supported, entry, imported,
          (Except.ok.inj returned).symm⟩
  · intro h
    obtain ⟨data, name, found, key, isDict, typed, named, supported, entry, imported, rfl⟩ := h
    refine ⟨data, isDict, ?_⟩
    simp only [typed, Bool.not_true, Bool.false_eq_true, if_false, outcome_bind_eq_ok]
    exact ⟨.str name, named, (), supported, found, lookupJson_eq_ok.mpr ⟨name, rfl, entry⟩, key,
      imported, rfl⟩

/-- A key that the constructor returned names a default algorithm and carries it. -/
theorem PyJWK.init_algorithm {jwkData : Json} {algorithm : Option PyStr} {jwk : PyJWK}
    (h : PyJWK.init env jwkData algorithm = .ok jwk)
    : (getDefaultAlgorithms env).get? jwk.algorithmName = some jwk.algorithm := by
  obtain ⟨_, _, _, _, _, _, _, _, entry, _, rfl⟩ := PyJWK.init_eq_ok.mp h
  exact entry

/-- Its key was imported by that algorithm. -/
theorem PyJWK.init_key {jwkData : Json} {algorithm : Option PyStr} {jwk : PyJWK}
    (h : PyJWK.init env jwkData algorithm = .ok jwk)
    : jwk.algorithm.fromJwk env jwkData = .ok jwk.key := by
  obtain ⟨_, _, _, _, _, _, _, _, _, imported, rfl⟩ := PyJWK.init_eq_ok.mp h
  exact imported

variable {jws : PyJWS} {jwt : TextArg} {jwk : PyJWK} {algorithms : Option (List PyStr)}
  {options : Option SigOptions} {detachedPayload : Option Bytes}

/-- The token states a name that the caller lists and that is not the key's, and the key's own
algorithm accepts the token's signature all the same.
-/
def AcceptsOtherName (env : Env) (jws : PyJWS) (jwt : TextArg) (jwk : PyJWK)
    (algorithms : Option (List PyStr)) (detachedPayload : Option Bytes)
    : Prop :=
  ∃ names name segments loaded payload signingInput prepared,
    algorithms = some names
    ∧ name ∈ names
    ∧ name ≠ ""
    ∧ name ≠ jwk.algorithmName
    ∧ PyJWS.Opens env jwt detachedPayload segments loaded payload signingInput
    ∧ loaded.header.get? "alg" = some (.str name)
    ∧ jwk.algorithm.prepareKey env jwk.key = .ok prepared
    ∧ jws.AcceptsLength jwk.algorithm prepared
    ∧ jwk.algorithm.verify env signingInput prepared loaded.signature = .ok true

/-- A `PyJWK` verifies with its own algorithm, whatever the header states. -/
theorem verify_handler_eq {handler : Algorithm} {msg sig : Bytes} {prepared : Key}
    (called : Event.verify handler msg prepared sig
      ∈ (jws.decodeComplete env jwt (.jwk jwk) algorithms options detachedPayload).log)
    : handler = jwk.algorithm := by
  obtain ⟨_, _, segments, loaded, payload, signingInput, opens, member⟩ :=
    PyJWS.mem_decodeComplete_log.mp called
  obtain ⟨alg, algObj, _, chosen, warned | ⟨prepared', _, _, same⟩⟩ :=
    PyJWS.mem_verifySignature_log.mp member
  · obtain ⟨message, impossible⟩ := PyJWS.prepareSigningKey_logs jws algObj _ _ warned
    cases impossible
  · cases same
    exact (Except.ok.inj chosen).symm

/-- The allow-list in force has a name: the key's alone where the caller gives no list. -/
theorem allowedAlg_jwk {header : Dict Json} {alg : Json}
    (h : PyJWS.allowedAlg header (PyJWS.effectiveAlgorithms (.jwk jwk) algorithms) = .ok alg)
    : ∃ name,
        header.get? "alg" = some (.str name)
        ∧ name ≠ ""
        ∧ (algorithms = none ∧ name = jwk.algorithmName
          ∨ ∃ names, algorithms = some names ∧ name ∈ names) := by
  obtain ⟨stated, isTrue, listed⟩ := PyJWS.allowedAlg_eq_ok.mp h
  have named (name : PyStr) (same : alg = .str name) : name ≠ "" := by
    subst same
    simpa [Json.truthy] using isTrue
  cases algorithms with
  | none =>
      obtain ⟨name, member, same⟩ := listed [jwk.algorithmName] rfl
      exact ⟨name, same ▸ stated, named name same,
        Or.inl ⟨rfl, List.mem_singleton.mp member⟩⟩
  | some names =>
      obtain ⟨name, member, same⟩ := listed names rfl
      exact ⟨name, same ▸ stated, named name same, Or.inr ⟨names, rfl, member⟩⟩

/-- Under a `PyJWK`, whose own algorithm does all the verifying, the header of a returned
token names that algorithm except for the tokens that state another listed name and still
verify.
-/
theorem jwk_alg_eq_iff (env : Env) {jws : PyJWS} {options : Option SigOptions}
    (verifying : (jws.options.merge options).verifySignature = true) (jwt : TextArg)
    (jwk : PyJWK) (algorithms : Option (List PyStr)) (detachedPayload : Option Bytes)
    : (∀ decoded,
        (jws.decodeComplete env jwt (.jwk jwk) algorithms options detachedPayload).result
          = .ok decoded
        → decoded.header.get? "alg" = some (.str jwk.algorithmName)
          ∧ ∀ handler msg prepared sig,
            Event.verify handler msg prepared sig
              ∈ (jws.decodeComplete env jwt (.jwk jwk) algorithms options
                  detachedPayload).log
            → handler = jwk.algorithm)
      ↔ ¬AcceptsOtherName env jws jwt jwk algorithms detachedPayload := by
  constructor
  · intro matched h
    obtain ⟨names, name, segments, loaded, payload, signingInput, prepared, rfl, member,
      nonempty, other, opens, stated, prepares, length, accepts⟩ := h
    have allowed : PyJWS.allowedAlg loaded.header
        (PyJWS.effectiveAlgorithms (.jwk jwk) (some names)) = .ok (.str name) :=
      PyJWS.allowedAlg_eq_ok.mpr ⟨stated, by simpa [Json.truthy] using nonempty,
        fun given same => ⟨name, Option.some.inj same ▸ member, rfl⟩⟩
    have returned : (jws.decodeComplete env jwt (.jwk jwk) (some names) options
          detachedPayload).result
        = .ok ⟨payload, loaded.header, loaded.signature⟩ :=
      PyJWS.decodeComplete_eq_ok.mpr ⟨segments, loaded, signingInput, opens, rfl, rfl,
        fun _ => ⟨Or.inr rfl, .str name, jwk.algorithm, prepared,
          ⟨allowed, rfl, prepares, length, accepts⟩⟩⟩
    have same := stated.symm.trans (matched _ returned).1
    simp only [Option.some.injEq, Json.str.injEq] at same
    exact other same
  · intro matched decoded returned
    refine ⟨?_, fun _ _ _ _ called => verify_handler_eq called⟩
    obtain ⟨segments, loaded, signingInput, opens, header, _, verified⟩ :=
      PyJWS.decodeComplete_eq_ok.mp returned
    obtain ⟨_, alg, algObj, prepared, verifies⟩ := verified verifying
    obtain ⟨name, stated, nonempty, ⟨_, same⟩ | ⟨names, given, member⟩⟩ :=
      allowedAlg_jwk verifies.allowed
    · rw [header, stated, same]
    · by_cases same : name = jwk.algorithmName
      · rw [header, stated, same]
      · obtain rfl := Except.ok.inj verifies.chosen
        exact absurd ⟨names, name, segments, loaded, _, signingInput, prepared, given, member,
          nonempty, same, opens, stated, verifies.prepares, verifies.length,
          verifies.accepts⟩ matched

/-- The condition never fails for a caller that lists no name but the key's. -/
theorem not_acceptsOtherName
    (h : ∀ names, algorithms = some names → ∀ name ∈ names, name = jwk.algorithmName)
    : ¬AcceptsOtherName env jws jwt jwk algorithms detachedPayload := by
  intro h
  obtain ⟨names, name, _, _, _, _, _, given, member, _, other, _⟩ := h
  exact other (h names given name member)

-----------------------------------------------------------------------------------------
-- Two keys for one secret
-----------------------------------------------------------------------------------------

/-- `{"kty":"oct","alg":alg,"k":"a2s"}`, the two bytes `kk`. -/
def octJwk (alg : PyStr) : Json :=
  .dict [("kty", .str "oct"), ("alg", .str alg), ("k", .str "a2s")]

/-- A key for `HS256` verifies only what states that name when no list is given. -/
theorem jwk_alg_eq_iff_unlisted
    : ∃ jwk decoded,
        PyJWK.init digestEnv (octJwk "HS256") none = .ok jwk
        ∧ ((PyJWS.init digestEnv none none).decodeComplete digestEnv (.bytes signedToken)
            (.jwk jwk) none none none).result
          = .ok decoded
        ∧ decoded.header.get? "alg" = some (.str jwk.algorithmName) := by
  obtain ⟨jwk, made, returns⟩ := of_returnsWith
    (by decide +kernel : returnsWith
      (fun jwk => returnsWith (fun _ => true)
        ((PyJWS.init digestEnv none none).decodeComplete digestEnv (.bytes signedToken)
          (.jwk jwk) none none none).result)
      (PyJWK.init digestEnv (octJwk "HS256") none) = true)
  obtain ⟨decoded, returned, _⟩ := of_returnsWith returns
  have verifying : ((PyJWS.init digestEnv none none).options.merge none).verifySignature
      = true := rfl
  have matched := (jwk_alg_eq_iff digestEnv verifying (.bytes signedToken) jwk none none).mpr
    (not_acceptsOtherName nofun)
  exact ⟨jwk, decoded, made, returned, (matched decoded returned).1⟩

/-- `{"alg":"HS256"}` over `{}`, signed with the two bytes `kk` by `HS512`. -/
def mislabeledToken : Bytes :=
  ascii
    ("eyJhbGciOiJIUzI1NiJ9.e30.QtyBT0RUZf9XFSZfSSQXm3o7Dqh9RU_pCEIi_rExQFGnom92AA0CtWab3LTj0"
      ++ "wzoGlkSsNtx7WfnxMjVfQdT_g")

/-- A process without `cryptography`, in which `hmac` with SHA-512 yields the digest of that
token's signing input.
-/
def mislabeledEnv : Env :=
  .withoutCryptography (fun _ _ _ =>
    [
      66, 220, 129, 79, 68, 84, 101, 255, 87, 21, 38, 95, 73, 36, 23, 155, 122, 59, 14, 168,
      125, 69, 79, 233, 8, 66, 34, 254, 177, 49, 64, 81, 167, 162, 111, 118, 0, 13, 2, 181,
      102, 155, 220, 180, 227, 211, 12, 232, 26, 89, 18, 176, 219, 113, 237, 103, 231, 196,
      200, 213, 125, 7, 83, 254
    ])

/-- A key for `HS512` returns a token that states `HS256`, once both names are listed. -/
theorem jwk_alg_mislabeled
    : ∃ jwk decoded,
        PyJWK.init mislabeledEnv (octJwk "HS512") none = .ok jwk
        ∧ ((PyJWS.init mislabeledEnv none none).decodeComplete mislabeledEnv
            (.bytes mislabeledToken) (.jwk jwk) (some ["HS256", "HS512"]) none none).result
          = .ok decoded
        ∧ decoded.header.get? "alg" = some (.str "HS256")
        ∧ jwk.algorithmName = "HS512" := by
  obtain ⟨jwk, made, facts⟩ := of_returnsWith
    (by decide +kernel : returnsWith
      (fun jwk =>
        jwk.algorithmName = PyStr.ofString "HS512"
          && returnsWith
            (fun decoded =>
              (decoded.header.get? "alg").bind Json.asStr? = some (PyStr.ofString "HS256"))
            ((PyJWS.init mislabeledEnv none none).decodeComplete mislabeledEnv
              (.bytes mislabeledToken) (.jwk jwk) (some ["HS256", "HS512"]) none none).result)
      (PyJWK.init mislabeledEnv (octJwk "HS512") none) = true)
  simp only [Bool.and_eq_true, decide_eq_true_eq] at facts
  obtain ⟨named, returns⟩ := facts
  obtain ⟨decoded, returned, stated⟩ := of_returnsWith returns
  obtain ⟨alg, found, isName⟩ := Option.bind_eq_some_iff.mp (of_decide_eq_true stated)
  rw [Json.asStr?_eq_some.mp isName] at found
  exact ⟨jwk, decoded, made, returned, found, named⟩

end PyJwt
