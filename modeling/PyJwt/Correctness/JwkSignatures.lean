import PyJwt.Correctness.EmittedHeader
import PyJwt.Correctness.ImportedKeys

/-! Whether a `PyJWK` verifies what it signed. Signing looks a handler up under the name that
the header states, and so does verifying with the key alone; verifying with the `PyJWK` takes
its own algorithm.
-/

namespace PyJwt

open Foundations
open Python

variable {env : Env}

-----------------------------------------------------------------------------------------
-- Telling algorithms apart
-----------------------------------------------------------------------------------------

/-- The handler verifies with a key whatever it signed with it. -/
def VerifiesOwn (env : Env) (handler : Algorithm) (key : Key) : Prop :=
  ∀ msg prepared signature,
    handler.prepareKey env key = .ok prepared
    → handler.sign env msg prepared = .ok signature
    → handler.verify env msg prepared signature = .ok true

/-- The handlers of the instance are the library's default ones, the digests of `hmac` have
the sizes of their hash functions, and no loader takes the key's secret for a key of another
family.
-/
structure TellsApart (env : Env) (jws : PyJWS) (key : Key) : Prop where
  library
    : ∀ name handler,
        jws.algorithms.get? name = some handler
        → ∃ standard, (getDefaultAlgorithms env).get? standard = some handler
  digests
    : ∀ hashAlg secret msg,
        (env.crypto.hmacDigest hashAlg secret msg).length = hashAlg.digestSize
  secret
    : ∀ secret name handler prepared,
        key = .bytes secret
        → (getDefaultAlgorithms env).get? name = some handler
        → handler.prepareKey env key = .ok prepared
        → handler.family? = some .secret

/-- The default algorithms for elliptic curves. -/
def defaultEcAlgorithms : List ECAlgorithm :=
  [
    ⟨.sha256, some .secp256r1⟩, ⟨.sha256, some .secp256k1⟩, ⟨.sha384, some .secp384r1⟩,
    ⟨.sha512, some .secp521r1⟩
  ]

theorem mem_defaultEcAlgorithms {name : PyStr} {self : ECAlgorithm}
    (h : (getDefaultAlgorithms env).get? name = some (.ec self))
    : self ∈ defaultEcAlgorithms := by
  have member := (getEntry_eq_some_iff (getDefaultAlgorithms env).nodupKeys).mp h
  have table : ∀ entry ∈ (getDefaultAlgorithms env).entries,
      (match entry.2 with
        | .ec self => decide (self ∈ defaultEcAlgorithms)
        | _ => true)
      = true := by
    unfold getDefaultAlgorithms
    cases env.hasCrypto <;> decide
  exact of_decide_eq_true (table _ member)

/-- There is one default algorithm for each curve. -/
theorem defaultEcAlgorithms_unique
    : ∀ self ∈ defaultEcAlgorithms, ∀ other ∈ defaultEcAlgorithms,
        self.expectedCurve = other.expectedCurve → self = other := by
  decide

theorem HashAlg.digestSize_injective {hashAlg other : HashAlg}
    (h : hashAlg.digestSize = other.digestSize)
    : hashAlg = other := by
  cases hashAlg <;> cases other <;> first | rfl | cases h

/-- What is left of two default algorithms that prepare one key: they are the same, or two of
HMAC, or two of RSA.
-/
theorem sameFamily_cases {name name' : PyStr} {handler handler' : Algorithm}
    (h : (getDefaultAlgorithms env).get? name = some handler)
    (h' : (getDefaultAlgorithms env).get? name' = some handler')
    (same : handler.family? = handler'.family?)
    : handler = handler'
      ∨ (∃ self other, handler = .hmac self ∧ handler' = .hmac other)
      ∨ ∃ self other, handler = .rsa self ∧ handler' = .rsa other := by
  obtain ⟨family, _, made⟩ := family?_of_default h
  obtain ⟨family', _, made'⟩ := family?_of_default h'
  obtain rfl := Option.some.inj ((made.symm.trans same).trans made')
  cases handler with
  | none =>
      cases made
      cases handler' with
      | none => exact Or.inl rfl
      | ec self => simp [Algorithm.family?] at same
      | _ => cases same
  | hmac self =>
      cases handler' with
      | hmac other => exact Or.inr (Or.inl ⟨self, other, rfl, rfl⟩)
      | ec self => simp [Algorithm.family?] at same
      | _ => cases same
  | rsa self =>
      cases handler' with
      | rsa other => exact Or.inr (Or.inr ⟨self, other, rfl, rfl⟩)
      | ec self => simp [Algorithm.family?] at same
      | _ => cases same
  | ec self =>
      cases handler' with
      | ec other =>
          have curves : self.expectedCurve = other.expectedCurve := by
            refine Option.map_injective (fun _ _ => KeyFamily.ec.inj) same
          exact Or.inl (congrArg Algorithm.ec (defaultEcAlgorithms_unique self
            (mem_defaultEcAlgorithms h) other (mem_defaultEcAlgorithms h') curves))
      | custom other => cases made'
      | _ => simp [Algorithm.family?] at same
  | okp =>
      cases handler' with
      | okp => exact Or.inl rfl
      | ec self => simp [Algorithm.family?] at same
      | _ => cases same
  | custom self => cases made

/-- Only the algorithm that signed, of those that are told apart, accepts what it signed. -/
theorem TellsApart.eq_of_accepts {jws : PyJWS} {key : Key} (apart : TellsApart env jws key)
    {name standard : PyStr} {handler other : Algorithm}
    (registered : jws.algorithms.get? name = some handler)
    (isDefault : (getDefaultAlgorithms env).get? standard = some other)
    (isValue : (∃ secret, key = .bytes secret) ∨ ∃ object, key = .object object)
    (own : VerifiesOwn env handler key) {msg signature : Bytes} {prepared prepared' : Key}
    (prepares : handler.prepareKey env key = .ok prepared)
    (signs : handler.sign env msg prepared = .ok signature)
    (prepares' : other.prepareKey env key = .ok prepared')
    (accepts : other.verify env msg prepared' signature = .ok true)
    : handler = other := by
  obtain ⟨_, isDefault'⟩ := apart.library name handler registered
  obtain ⟨family, _, made⟩ := family?_of_default isDefault'
  obtain ⟨family', _, made'⟩ := family?_of_default isDefault
  have same : handler.family? = other.family? := by
    rcases isValue with ⟨secret, rfl⟩ | ⟨object, rfl⟩
    · rw [apart.secret secret _ _ _ rfl isDefault' prepares,
        apart.secret secret _ _ _ rfl isDefault prepares']
    · obtain rfl := Algorithm.prepareKey_object made prepares
      obtain rfl := Algorithm.prepareKey_object made' prepares'
      have unique := (Algorithm.prepareKey_has made prepares).unique
        (Algorithm.prepareKey_has made' prepares')
      rw [made, made', unique]
  rcases sameFamily_cases isDefault' isDefault same with
    same | ⟨self, other, rfl, rfl⟩ | ⟨self, other, rfl, rfl⟩
  · exact same
  · -- The signature is a digest, and has the size of the digest it is compared with.
    obtain rfl := Except.ok.inj (prepares.symm.trans prepares')
    obtain ⟨secret, rfl⟩ := HMACAlgorithm.prepareKey_has prepares
    obtain rfl := Except.ok.inj signs
    have digest : env.crypto.hmacDigest self.hashAlg secret msg
        = env.crypto.hmacDigest other.hashAlg secret msg :=
      of_decide_eq_true (Except.ok.inj accepts)
    have sizes := congrArg List.length digest
    rw [apart.digests, apart.digests] at sizes
    obtain ⟨hashAlg⟩ := self
    obtain ⟨hashAlg'⟩ := other
    obtain rfl : hashAlg = hashAlg' := HashAlg.digestSize_injective sizes
    rfl
  · -- Only a private key signs, and the library verifies with none.
    have verified := own msg prepared signature prepares signs
    rcases RSAAlgorithm.prepareKey_has prepares with ⟨numbers, rfl⟩ | ⟨numbers, rfl⟩
    · cases signs
    · cases verified

-----------------------------------------------------------------------------------------
-- What a key signs
-----------------------------------------------------------------------------------------

/-- The name that an encode with the key and no headers states. -/
def statedName (algorithm : AlgorithmArg) (jwk : PyJWK) : PyStr :=
  match algorithm with
  | .unset | .none => jwk.algorithmName
  | .name value => value

namespace PyJWS

variable {jws : PyJWS} {jwk : PyJWK} {algorithm : AlgorithmArg} {payload : Bytes}
  {sortHeaders : Bool} {token : PyStr}

theorem resolveAlgorithm_jwk
    : resolveAlgorithm algorithm (.jwk jwk) none false
      = (.str (statedName algorithm jwk), false) := by
  cases algorithm <;> rfl

theorem plainHeaders_none : PlainHeaders ((none : Option (Dict Json)).getD Dict.empty) where
  alg := rfl
  b64 := rfl
  crit := rfl
  kid _ h := nomatch h

/-- A decode returns the payload that the token opens on exactly when it need not verify, or
the signature is accepted.
-/
theorem decode_opened_iff {jwt : TextArg} {key : KeyArg} {algorithms : Option (List PyStr)}
    {options : Option SigOptions} {detachedPayload : Option Bytes} {segments : Segments}
    {loaded : Loaded} {signingInput : Bytes}
    (opens : Opens env jwt detachedPayload segments loaded payload signingInput)
    (named : NamesAlgorithms key algorithms)
    : (jws.decode env jwt key algorithms options detachedPayload).result = .ok payload
      ↔ (jws.options.merge options).verifySignature = true
        → ∃ alg algObj prepared,
            Verifies env jws signingInput loaded.header loaded.signature key algorithms alg
              algObj prepared := by
  unfold decode
  rw [Traced.bind_result_eq_ok]
  constructor
  · intro h verifying
    obtain ⟨decoded, returned, _⟩ := h
    obtain ⟨_, _, _, opens', _, _, verified⟩ := decodeComplete_eq_ok.mp returned
    obtain ⟨_, rfl, _, rfl⟩ := opens.unique opens'
    exact (verified verifying).2
  · intro verified
    exact ⟨⟨payload, loaded.header, loaded.signature⟩, decodeComplete_eq_ok.mpr
      ⟨segments, loaded, signingInput, opens, rfl, rfl,
        fun verifying => ⟨named, verified verifying⟩⟩, rfl⟩

/-- The token of an encode opens on the payload, over the bytes that the handler registered
under the stated name signed.
-/
theorem opens_of_encode
    (inverts : JsonInverts env (emittedHeader algorithm (.jwk jwk) none false sortHeaders))
    (returned : (jws.encode env payload (.jwk jwk) algorithm none false sortHeaders).result
      = .ok token)
    : ∃ segments loaded signingInput handler prepared,
        Opens env (.str token) none segments loaded payload signingInput
        ∧ loaded.header.get? "alg" = some (.str (statedName algorithm jwk))
        ∧ jws.algorithms.get? (statedName algorithm jwk) = some handler
        ∧ handler.prepareKey env jwk.key = .ok prepared
        ∧ jws.AcceptsLength handler prepared
        ∧ handler.sign env signingInput prepared = .ok loaded.signature := by
  obtain ⟨alg, detached, header, data, handler, prepared, signature, settles, prepares, length,
    signs, rfl⟩ := encode_eq_ok.mp returned
  obtain ⟨rfl, rfl⟩ := Prod.mk.inj (settles.resolved.symm.trans resolveAlgorithm_jwk)
  obtain rfl := eq_adjustHeader_of_buildHeader settles.built
  obtain ⟨text, dumps, encodes⟩ := dumpHeader_eq_ok.mp settles.dumped
  rw [emittedHeader_eq resolveAlgorithm_jwk] at inverts
  obtain ⟨text', data', dumps', encodes', loads⟩ := inverts
  obtain rfl := Except.ok.inj (dumps.symm.trans dumps')
  obtain rfl := Option.some.inj (encodes.symm.trans encodes')
  have alg := dumpedHeader_get? (statedName algorithm jwk) none false sortHeaders "alg"
  have b64 : ((adjustHeader (mergedHeader (.str (statedName algorithm jwk)) none) false).dumped
        sortHeaders).get? "b64"
      = if false then some (.bool false) else none :=
    dumpedHeader_get? (statedName algorithm jwk) none false sortHeaders "b64"
  have opens := opens_encodedSegments ⟨_, loads, Dict.asDict?_toJson _⟩
    (validateHeaders_plain plainHeaders_none) b64 payload signature none
  rw [expectedMember_alg] at alg
  exact ⟨_, _, _, handler, prepared, opens, alg.trans (congrArg some (Json.dumped_str _ _)),
    getAlgorithmByName_str_eq_ok.mp settles.chosen, prepares, length, signs⟩

/-- Where one name is listed and the header states it, verifying is up to the handler that the
key leads to; the empty name is never accepted.
-/
theorem verifies_stated_iff {name : PyStr} {signingInput signature : Bytes}
    {header : Dict Json} {key : KeyArg} {chosen : Algorithm}
    (stated : header.get? "alg" = some (.str name))
    (leads : jws.verifyingAlgorithm env (.str name) key = .ok chosen)
    : (∃ alg algObj prepared,
        Verifies env jws signingInput header signature key (some [name]) alg algObj prepared)
      ↔ name ≠ ""
        ∧ ∃ prepared,
            chosen.prepareKey env key.unwrap = .ok prepared
            ∧ jws.AcceptsLength chosen prepared
            ∧ chosen.verify env signingInput prepared signature = .ok true := by
  have listed : effectiveAlgorithms key (some [name]) = some [name] := by
    cases key <;> rfl
  constructor
  · intro h
    obtain ⟨alg, algObj, prepared, verifies⟩ := h
    obtain ⟨found, isTrue, _⟩ := allowedAlg_eq_ok.mp verifies.allowed
    obtain rfl := Option.some.inj (stated.symm.trans found)
    obtain rfl := Except.ok.inj (leads.symm.trans verifies.chosen)
    exact ⟨by simpa [Json.truthy] using isTrue, prepared, verifies.prepares, verifies.length,
      verifies.accepts⟩
  · intro h
    obtain ⟨nonempty, prepared, prepares, length, accepts⟩ := h
    refine ⟨.str name, chosen, prepared, ?_, leads, prepares, length, accepts⟩
    rw [listed]
    refine allowedAlg_eq_ok.mpr ⟨stated, decide_eq_true nonempty, ?_⟩
    intro names given
    cases given
    exact ⟨name, List.mem_singleton_self name, rfl⟩

/-- A decode of the token that lists one name returns the payload. -/
def Returns (env : Env) (jws : PyJWS) (token : PyStr) (key : KeyArg) (name : PyStr)
    (options : Option SigOptions) (payload : Bytes)
    : Prop :=
  (jws.decode env (.str token) key (some [name]) options none).result = .ok payload

end PyJWS

variable {jws : PyJWS} {jwk : PyJWK} {algorithm : AlgorithmArg} {payload : Bytes}
  {sortHeaders : Bool} {token : PyStr}

/-- What an encode with a `PyJWK` signs, the bare key verifies under every name but the empty
one. The `PyJWK` verifies it too if the handler that signed is its own algorithm, and only
then, where the algorithms can be told apart.
-/
theorem jwk_returns_iff {jwkData : Json} {given : Option PyStr}
    (made : PyJWK.init env jwkData given = .ok jwk)
    (own
      : ∀ handler,
          jws.algorithms.get? (statedName algorithm jwk) = some handler
          → VerifiesOwn env handler jwk.key)
    (inverts : JsonInverts env
      (PyJWS.emittedHeader algorithm (.jwk jwk) none false sortHeaders))
    (returned : (jws.encode env payload (.jwk jwk) algorithm none false sortHeaders).result
      = .ok token)
    : ∃ loaded handler,
        PyJWS.load env (.str token) = .ok loaded
        ∧ loaded.header.get? "alg" = some (.str (statedName algorithm jwk))
        ∧ jws.algorithms.get? (statedName algorithm jwk) = some handler
        ∧ ∀ options,
            (jws.Returns env token (.raw jwk.key) (statedName algorithm jwk) options payload
              ↔ ((jws.options.merge options).verifySignature = true
                → statedName algorithm jwk ≠ ""))
            ∧ (handler = jwk.algorithm
              → (jws.Returns env token (.jwk jwk) (statedName algorithm jwk) options payload
                ↔ ((jws.options.merge options).verifySignature = true
                  → statedName algorithm jwk ≠ "")))
            ∧ (TellsApart env jws jwk.key
              → (jws.Returns env token (.jwk jwk) (statedName algorithm jwk) options payload
                    ∧ jws.Returns env token (.raw jwk.key) (statedName algorithm jwk) options
                      payload
                  ↔ ((jws.options.merge options).verifySignature = true
                    → statedName algorithm jwk ≠ "" ∧ handler = jwk.algorithm))) := by
  obtain ⟨segments, loaded, signingInput, handler, prepared, opens, stated, registered, prepares,
    length, signs⟩ := PyJWS.opens_of_encode inverts returned
  refine ⟨loaded, handler, PyJWS.load_eq_ok_iff.mpr ⟨segments, opens.loads⟩, stated, registered,
    fun options => ?_⟩
  have accepts := own handler registered signingInput prepared loaded.signature prepares signs
  have raw : jws.Returns env token (.raw jwk.key) (statedName algorithm jwk) options payload
      ↔ ((jws.options.merge options).verifySignature = true
        → statedName algorithm jwk ≠ "") := by
    refine (PyJWS.decode_opened_iff opens (Or.inl rfl)).trans (imp_congr_right fun _ => ?_)
    have leads : jws.verifyingAlgorithm env (.str (statedName algorithm jwk)) (.raw jwk.key)
        = .ok handler :=
      tryExcept_raise_eq_ok.mpr (PyJWS.getAlgorithmByName_str_eq_ok.mpr registered)
    rw [PyJWS.verifies_stated_iff stated leads]
    exact and_iff_left ⟨prepared, prepares, length, accepts⟩
  have byJwk : jws.Returns env token (.jwk jwk) (statedName algorithm jwk) options payload
      ↔ ((jws.options.merge options).verifySignature = true
        → statedName algorithm jwk ≠ ""
          ∧ ∃ prepared,
              jwk.algorithm.prepareKey env jwk.key = .ok prepared
              ∧ jws.AcceptsLength jwk.algorithm prepared
              ∧ jwk.algorithm.verify env signingInput prepared loaded.signature
                = .ok true) :=
    (PyJWS.decode_opened_iff opens (Or.inr rfl)).trans
      (imp_congr_right fun _ => PyJWS.verifies_stated_iff stated rfl)
  have same (isOwn : handler = jwk.algorithm)
      : ∃ prepared,
          jwk.algorithm.prepareKey env jwk.key = .ok prepared
          ∧ jws.AcceptsLength jwk.algorithm prepared
          ∧ jwk.algorithm.verify env signingInput prepared loaded.signature = .ok true :=
    isOwn ▸ ⟨prepared, prepares, length, accepts⟩
  refine ⟨raw, fun isOwn => ?_, fun apart => ?_⟩
  · rw [byJwk]
    exact imp_congr_right fun _ => and_iff_left (same isOwn)
  · rw [byJwk, raw]
    constructor
    · intro h verifying
      obtain ⟨nonempty, prepared', prepares', _, accepts'⟩ := h.1 verifying
      obtain ⟨_, _, ofFamily⟩ := family?_of_default (PyJWK.init_algorithm made)
      exact ⟨nonempty, apart.eq_of_accepts registered (PyJWK.init_algorithm made)
        (Algorithm.fromJwk_isValue ofFamily (PyJWK.init_key made)) (own handler registered)
        prepares signs prepares' accepts'⟩
    · intro h
      exact ⟨fun verifying => ⟨(h verifying).1, same (h verifying).2⟩,
        fun verifying => (h verifying).1⟩

-----------------------------------------------------------------------------------------
-- One secret under two names
-----------------------------------------------------------------------------------------

/-- The digests under the key `kk` of the signing input with the header
`{"alg":"HS512","typ":"JWT"}` and the payload `a`.
-/
def secretDigest : HashAlg → Bytes
  | .sha256 =>
      [
        123, 177, 96, 241, 109, 191, 245, 44, 25, 227, 21, 141, 254, 166, 60, 120, 221, 91,
        246, 155, 75, 156, 226, 162, 176, 222, 92, 152, 191, 16, 102, 110
      ]
  | .sha384 =>
      [
        250, 251, 162, 78, 179, 131, 17, 21, 71, 37, 134, 182, 168, 86, 215, 90, 240, 242, 15,
        54, 57, 142, 204, 180, 214, 111, 163, 210, 243, 42, 220, 213, 96, 149, 120, 208, 214,
        134, 33, 62, 197, 8, 157, 41, 204, 51, 75, 155
      ]
  | .sha512 =>
      [
        25, 156, 203, 203, 140, 120, 155, 88, 166, 58, 122, 147, 236, 173, 248, 213, 16, 177,
        31, 136, 72, 26, 48, 90, 208, 239, 193, 199, 245, 230, 234, 35, 207, 24, 25, 68, 74,
        30, 136, 109, 180, 200, 83, 177, 93, 253, 166, 168, 194, 32, 225, 180, 102, 54, 199,
        225, 151, 67, 127, 204, 217, 65, 224, 137
      ]

def secretEnv : Env := .withoutCryptography (fun hashAlg _ _ => secretDigest hashAlg)

theorem secretEnv_default {name : PyStr} {handler : Algorithm}
    (h : (getDefaultAlgorithms secretEnv).get? name = some handler)
    : handler = .none ∨ ∃ self, handler = .hmac self := by
  have member := (getEntry_eq_some_iff (getDefaultAlgorithms secretEnv).nodupKeys).mp h
  change (name, handler) ∈ [(_, _), (_, _), (_, _), (_, _)] at member
  simp only [List.mem_cons, Prod.mk.injEq, List.not_mem_nil, or_false] at member
  rcases member with ⟨_, same⟩ | ⟨_, same⟩ | ⟨_, same⟩ | ⟨_, same⟩
  · exact Or.inl same
  · exact Or.inr ⟨_, same⟩
  · exact Or.inr ⟨_, same⟩
  · exact Or.inr ⟨_, same⟩

theorem secretEnv_registered {name : PyStr} {handler : Algorithm}
    (h : (PyJWS.init secretEnv none none).algorithms.get? name = some handler)
    : (getDefaultAlgorithms secretEnv).get? name = some handler := by
  rw [get?_init] at h
  exact h

/-- HMAC verifies what it signs. -/
theorem secretEnv_own (name : PyStr) (handler : Algorithm)
    (h : (PyJWS.init secretEnv none none).algorithms.get? name = some handler)
    : VerifiesOwn secretEnv handler (.bytes (ascii "kk")) := by
  intro msg prepared signature prepares signs
  rcases secretEnv_default (secretEnv_registered h) with rfl | ⟨self, rfl⟩
  · cases prepares
  · obtain ⟨secret, rfl⟩ := HMACAlgorithm.prepareKey_has prepares
    obtain rfl := Except.ok.inj signs
    exact congrArg Except.ok (decide_eq_true rfl)

theorem secretEnv_tellsApart
    : TellsApart secretEnv (PyJWS.init secretEnv none none) (.bytes (ascii "kk")) where
  library name _ h := ⟨name, secretEnv_registered h⟩
  digests hashAlg _ _ := by cases hashAlg <;> rfl
  secret _ _ _ _ _ isDefault prepares := by
    rcases secretEnv_default isDefault with rfl | ⟨self, rfl⟩
    · cases prepares
    · rfl

theorem secretEnv_inverts (jwk : PyJWK)
    : JsonInverts secretEnv
        (PyJWS.emittedHeader (.name "HS512") (.jwk jwk) none false true) := by
  rw [PyJWS.emittedHeader_eq PyJWS.resolveAlgorithm_jwk]
  have inverts : JsonInverts secretEnv
      ((PyJWS.adjustHeader (PyJWS.mergedHeader (.str "HS512") none) false).dumped true) :=
    jsonInverts_withoutCryptography (by decide) (by decide)
  exact inverts

/-- A `PyJWK` of that secret encodes under the name `HS512`, whatever its own name is. -/
theorem secretEnv_encode {jwk : PyJWK} (key : jwk.key = .bytes (ascii "kk"))
    : ∃ token,
        ((PyJWS.init secretEnv none none).encode secretEnv (ascii "a") (.jwk jwk)
          (.name "HS512") none false true).result
        = .ok token := by
  have registered : (PyJWS.init secretEnv none none).algorithms.get? "HS512"
      = some (.hmac ⟨.sha512⟩) :=
    rfl
  have inverts := secretEnv_inverts jwk
  rw [PyJWS.emittedHeader_eq PyJWS.resolveAlgorithm_jwk] at inverts
  obtain ⟨data, settles, _⟩ :=
    PyJWS.settles_plain registered PyJWS.plainHeaders_none (.jwk jwk) inverts
  have prepares : (Algorithm.hmac ⟨.sha512⟩).prepareKey secretEnv (KeyArg.jwk jwk).unwrap
      = .ok (.bytes (ascii "kk")) :=
    key ▸ prepareKey_kk .sha512
  exact ⟨_, PyJWS.encode_eq_ok.mpr ⟨_, _, _, data, _, _, _, settles, prepares,
    ⟨_, rfl, Or.inr rfl⟩, rfl, rfl⟩⟩

/-- A `PyJWK` for `HS512` verifies what it signed under that name. -/
theorem jwk_returns_iff_sameName
    : ∃ jwk token,
        PyJWK.init secretEnv (octJwk "HS512") none = .ok jwk
        ∧ ((PyJWS.init secretEnv none none).encode secretEnv (ascii "a") (.jwk jwk)
            (.name "HS512") none false true).result
          = .ok token
        ∧ (PyJWS.init secretEnv none none).Returns secretEnv token (.jwk jwk) "HS512" none
            (ascii "a")
        ∧ (PyJWS.init secretEnv none none).Returns secretEnv token (.raw jwk.key) "HS512" none
            (ascii "a") := by
  obtain ⟨jwk, made, facts⟩ := of_returnsWith
    (by decide : returnsWith
      (fun jwk =>
        decide (jwk.key = .bytes (ascii "kk")
          ∧ jwk.algorithmName = PyStr.ofString "HS512"))
      (PyJWK.init secretEnv (octJwk "HS512") none) = true)
  obtain ⟨key, named⟩ := of_decide_eq_true facts
  obtain ⟨token, returned⟩ := secretEnv_encode key
  obtain ⟨_, handler, _, _, registered, returns⟩ := jwk_returns_iff made
    (key ▸ secretEnv_own _) (secretEnv_inverts jwk) returned
  have isOwn : handler = jwk.algorithm := by
    have stored := PyJWK.init_algorithm made
    rw [named] at stored
    exact Option.some.inj (registered.symm.trans stored)
  have nonempty : statedName (.name "HS512") jwk ≠ "" :=
    (by decide : PyStr.ofString "HS512" ≠ PyStr.ofString "")
  obtain ⟨_, _, both⟩ := returns none
  exact ⟨jwk, token, made, returned,
    (both (key ▸ secretEnv_tellsApart)).mpr (fun _ => ⟨nonempty, isOwn⟩)⟩

/-- A `PyJWK` for `HS256` signs under the name `HS512` if it is told to, and then does not
verify what it signed.
-/
theorem jwk_returns_otherName
    : ∃ jwk token loaded,
        PyJWK.init secretEnv (octJwk "HS256") none = .ok jwk
        ∧ ((PyJWS.init secretEnv none none).encode secretEnv (ascii "a") (.jwk jwk)
            (.name "HS512") none false true).result
          = .ok token
        ∧ PyJWS.load secretEnv (.str token) = .ok loaded
        ∧ loaded.header.get? "alg" = some (.str "HS512")
        ∧ ¬(PyJWS.init secretEnv none none).Returns secretEnv token (.jwk jwk) "HS512" none
            (ascii "a") := by
  obtain ⟨jwk, made, facts⟩ := of_returnsWith
    (by decide : returnsWith
      (fun jwk =>
        decide (jwk.key = .bytes (ascii "kk")
          ∧ jwk.algorithmName = PyStr.ofString "HS256"))
      (PyJWK.init secretEnv (octJwk "HS256") none) = true)
  obtain ⟨key, named⟩ := of_decide_eq_true facts
  obtain ⟨token, returned⟩ := secretEnv_encode key
  obtain ⟨segments, loaded, signingInput, handler, prepared, opens, stated, registered, prepares,
    _, signs⟩ := PyJWS.opens_of_encode (secretEnv_inverts jwk) returned
  refine ⟨jwk, token, loaded, made, returned, PyJWS.load_eq_ok_iff.mpr ⟨segments, opens.loads⟩,
    stated, fun returns => ?_⟩
  obtain ⟨_, prepared', prepares', _, accepts⟩ :=
    (PyJWS.verifies_stated_iff stated rfl).mp
      ((PyJWS.decode_opened_iff opens (Or.inr rfl)).mp returns rfl)
  change jwk.algorithm.prepareKey secretEnv jwk.key = _ at prepares'
  rw [key] at prepares prepares'
  have stored := PyJWK.init_algorithm made
  have same := secretEnv_tellsApart.eq_of_accepts registered stored (Or.inl ⟨_, rfl⟩)
    (secretEnv_own _ handler registered) prepares signs prepares' accepts
  rw [named, ← same] at stored
  have signed : some (Algorithm.hmac ⟨.sha512⟩) = some handler := registered
  have own : some (Algorithm.hmac ⟨.sha256⟩) = some handler := stored
  cases signed.trans own.symm

end PyJwt
