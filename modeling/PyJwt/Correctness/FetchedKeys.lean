import PyJwt.Correctness.ClaimErrors
import PyJwt.Correctness.JwtRoundTrip
import PyJwt.Correctness.PublishedKeys

/-! From an issuer to a consumer who shares nothing with it but the address of its JWK Set. The
key that a token names is fetched, and the token decodes with it to the claims that were signed.
-/

namespace PyJwt

open Foundations
open Python

variable {env : Env}

-----------------------------------------------------------------------------------------
-- The token
-----------------------------------------------------------------------------------------

namespace PyJWS

variable {jws : PyJWS} {name : PyStr} {handler : Algorithm} {headers : Option (Dict Json)}
  {sortHeaders : Bool} {signKey verifyKey signPrepared verifyPrepared : Key}

/-- The token of an attached payload opens on it, with the expected header and a signature that
the other key of the pair verifies.
-/
theorem exists_opened (registered : jws.algorithms.get? name = some handler)
    (keys : KeyPair env jws handler signKey verifyKey signPrepared verifyPrepared)
    (plain : PlainHeaders (headers.getD Dict.empty))
    (inverts : JsonInverts env
      ((adjustHeader (mergedHeader (.str name) headers) false).dumped sortHeaders))
    (payload : Bytes)
    : ∃ token segments loaded signingInput,
        (jws.encode env payload (.raw signKey) (.name name) headers false sortHeaders).result
          = .ok token
        ∧ (∀ other, Opens env (.str token) other segments loaded payload signingInput)
        ∧ loaded.header
          = (adjustHeader (mergedHeader (.str name) headers) false).dumped sortHeaders
        ∧ handler.verify env signingInput verifyPrepared loaded.signature = .ok true := by
  obtain ⟨data, settles, reads⟩ :=
    settles_plain registered plain (.raw signKey) inverts
  obtain ⟨signature, signs, accepts⟩ := keys.inverse (signedBytes data false payload)
  have encoded : (jws.encode env payload (.raw signKey) (.name name) headers false
        sortHeaders).result
      = .ok (asciiText (encodedSegments data false payload signature).serialize) :=
    encode_eq_ok.mpr ⟨_, _, _, data, handler, signPrepared, signature, settles,
      keys.signPrepares, keys.signLength, signs, rfl⟩
  have b64 : ((adjustHeader (mergedHeader (.str name) headers) false).dumped
        sortHeaders).get? "b64"
      = if false then some (.bool false) else none := by
    rw [dumpedHeader_get?, expectedMember_b64]
    rfl
  exact ⟨_, _, _, _, encoded,
    fun other =>
      opens_encodedSegments reads (validateHeaders_plain plain) b64 payload signature other,
    rfl, accepts⟩

/-- A decode with a `PyJWK` of the algorithm that the header states verifies what the key
accepts, whether the caller lists the algorithm or leaves it to the key. The algorithm need not
be registered.
-/
theorem verifies_jwk {jwk : PyJWK} (isHandler : jwk.algorithm = handler)
    (isName : jwk.algorithmName = name) (isKey : jwk.key = verifyKey) (nonempty : name ≠ "")
    (prepares : handler.prepareKey env verifyKey = .ok verifyPrepared)
    (length : jws.AcceptsLength handler verifyPrepared)
    {header : Dict Json} (alg : header.get? "alg" = some (.str name))
    {algorithms : Option (List PyStr)}
    (listed : ∀ names, algorithms = some names → name ∈ names) {msg signature : Bytes}
    (accepts : handler.verify env msg verifyPrepared signature = .ok true)
    : Verifies env jws msg header signature (.jwk jwk) algorithms (.str name) handler
        verifyPrepared where
  allowed := by
    refine allowedAlg_eq_ok.mpr ⟨alg, decide_eq_true nonempty, ?_⟩
    intro names effective
    cases algorithms with
    | none =>
        cases effective
        exact ⟨name, List.mem_singleton.mpr isName.symm, rfl⟩
    | some given =>
        cases effective
        exact ⟨name, listed names rfl, rfl⟩
  chosen := congrArg Except.ok isHandler
  prepares := by
    rw [KeyArg.unwrap, isKey]
    exact prepares
  length := length
  accepts := accepts

end PyJWS

-----------------------------------------------------------------------------------------
-- The key that the token names
-----------------------------------------------------------------------------------------

namespace PyJWKClient

/-- Without a verification no claim is checked, by an instance that requires none. -/
theorem validateClaims_unverified (env : Env) (payload : Dict Json) {options : FullOptions}
    (requires : options.require = []) (now : Rat)
    : PyJWT.validateClaims env payload (PyJWT.mergeOptions options (some unverifiedOptions))
        defaultExpected now
      = .ok () := by
  have off (check : ClaimCheck)
      : (PyJWT.mergeOptions options (some unverifiedOptions)).verify check = false :=
    rfl
  have none : (PyJWT.mergeOptions options (some unverifiedOptions)).require = [] := requires
  simp only [PyJWT.validateClaims_eq, PyJWT.timeStage, PyJWT.identityStages, PyJWT.checkWhen,
    off, none, Bool.and_false, Bool.false_eq_true, if_false]
  rfl

/-- A token that opens on claims has the key looked up that it names. -/
theorem getSigningKeyFromJwt_of_opens {decoder : PyJWT} (requires : decoder.options.require = [])
    {jwt : TextArg} {segments : Segments} {loaded : PyJWS.Loaded}
    {payload signingInput : Bytes}
    (opens : PyJWS.Opens env jwt none segments loaded payload signingInput)
    {claims : Dict Json} (reads : PyJWS.ReadsObject env payload claims) {kid : PyStr}
    (names : loaded.header.get? "kid" = some (.str kid)) (now : Rat) (first second : Turn)
    : getSigningKeyFromJwt env decoder jwt now first second
      = getSigningKey env kid first second := by
  have unverified : (decoder.jws.decodeComplete env jwt (.raw (.str "")) none
        (some (PyJWT.callSigOptions (some unverifiedOptions))) none).result
      = .ok ⟨payload, loaded.header, loaded.signature⟩ :=
    PyJWS.decodeComplete_eq_ok.mpr ⟨_, _, _, opens, rfl, rfl, fun verifies => by cases verifies⟩
  have decoded : (decoder.decodeComplete env jwt (.raw (.str "")) none (some unverifiedOptions)
        none defaultExpected now).result
      = .ok ⟨claims, loaded.header, loaded.signature⟩ :=
    PyJWT.decodeComplete_eq_ok.mpr
      ⟨_, unverified, reads, validateClaims_unverified env claims requires now, rfl, rfl⟩
  unfold getSigningKeyFromJwt
  rw [decoded, Stateful.liftM_eq_ofExcept, Stateful.ofExcept_ok_bind, getOrNull, names]
  rfl

/-- How a lookup meets a document, with the events of the call: the document is cached, or
nothing is and the endpoint serves it, or a set is cached whose signing keys do not include the
`kid`, and the endpoint serves the document at the refresh.
-/
inductive Meets (env : Env) (document : Json) (kid : PyStr) (first second : Turn)
    (client : PyJWKClient) : List ClientEvent → Prop
  | cached (shown : client.cachedJwkSet false first.readAt = document)
      : Meets env document kid first second client [.cached document first.readAt]
  | fetched (none : client.cachedJwkSet false first.readAt = .null)
      (serves : first.response = .json document)
      : Meets env document kid first second client [.fetched first.response first.writtenAt]
  | refreshed (some : client.cachedJwkSet false first.readAt ≠ .null)
      {signingKeys : List PyJWK}
      (listed : readSigningKeys env (client.cachedJwkSet false first.readAt) = .ok signingKeys)
      (missing : matchKid signingKeys kid = none) (serves : second.response = .json document)
      : Meets env document kid first second client [
          .cached (client.cachedJwkSet false first.readAt) first.readAt,
          .fetched second.response second.writtenAt
        ]

/-- A lookup that meets a document with a key of the `kid` returns that key. -/
theorem Meets.getSigningKey {document : Json} (isSome : document ≠ .null) {kid : PyStr}
    {first second : Turn} {client : PyJWKClient} {events : List ClientEvent}
    (meets : Meets env document kid first second client events) {signingKeys : List PyJWK}
    (reads : readSigningKeys env document = .ok signingKeys) {key : PyJWK}
    (found : matchKid signingKeys kid = some key)
    : (PyJWKClient.getSigningKey env kid first second client).log = events
      ∧ (PyJWKClient.getSigningKey env kid first second client).result = .ok key := by
  cases meets with
  | cached shown =>
      have head : getSigningKeys env false first client = ⟨_, _, .ok signingKeys⟩ :=
        (getSigningKeys_of_cached shown isSome).trans (congrArg (Step.mk _ _) reads)
      rw [getSigningKey_of_match (congrArg Step.result head) found, head]
      exact ⟨rfl, rfl⟩
  | fetched none serves =>
      have head : getSigningKeys env false first client = ⟨_, _, .ok signingKeys⟩ :=
        (getSigningKeys_of_fetch none serves).trans (congrArg (Step.mk _ _) reads)
      rw [getSigningKey_of_match (congrArg Step.result head) found, head]
      exact ⟨rfl, rfl⟩
  | refreshed some listed missing serves =>
      have head : getSigningKeys env false first client = ⟨client, _, .ok _⟩ :=
        (getSigningKeys_of_cached rfl some).trans (congrArg (Step.mk _ _) listed)
      have tail : getSigningKeys env true second client = ⟨_, _, .ok signingKeys⟩ :=
        (getSigningKeys_of_fetch (client.cachedJwkSet_refresh second.readAt) serves).trans
          (congrArg (Step.mk _ _) reads)
      rw [getSigningKey_of_miss (congrArg Step.result head) missing]
      simp only [head, tail]
      exact ⟨rfl, requireKid_eq_ok.mpr found⟩

/-- The document of published keys has the key that was published under the `kid` first among
its signing keys.
-/
theorem readSigningKeys_published {published : List (Publication × Key)}
    (publishes : ∀ entry ∈ published, entry.1.Publishes env entry.2)
    {entry : Publication × Key} {kid : PyStr}
    (isFirst : published.find? (fun entry => entry.1.kid = kid) = some entry) (named : kid ≠ "")
    : ∃ entries signingKeys jwk,
        (published.map Prod.fst).mapM (Publication.toEntry env) = .ok entries
        ∧ readSigningKeys env (jwksDocument entries).toJson = .ok signingKeys
        ∧ matchKid signingKeys kid = some jwk
        ∧ entry.1.IsLoaded env entry.2 jwk := by
  obtain ⟨entries, mapped, loads, areLoaded⟩ := exists_entries publishes
  have nonempty : published ≠ [] := by
    intro none
    rw [none] at isFirst
    cases isFirst
  have found := areLoaded.find? kid
  rw [isFirst, ← areLoaded.matchKid_eq named] at found
  cases isMatch : matchKid ((usableKeys env entries).filter isSigningKey) kid with
  | none =>
      rw [isMatch] at found
      cases found
  | some jwk =>
      rw [isMatch] at found
      cases found with
      | some isLoaded =>
          refine ⟨entries, _, jwk, mapped, ?_, isMatch, isLoaded⟩
          have someKey : (usableKeys env entries).filter isSigningKey ≠ [] :=
            List.ne_nil_of_mem (List.mem_of_find?_eq_some isMatch)
          rw [readSigningKeys, readJwkSet, Dict.asDict?_toJson]
          simp only [fromDict_jwksDocument nonempty loads areLoaded, outcome_ok_bind]
          exact listSigningKeys_eq_ok.mpr ⟨rfl, someKey⟩

end PyJWKClient

-----------------------------------------------------------------------------------------
-- From the issuer to the consumer
-----------------------------------------------------------------------------------------

variable {issuer consumer : PyJWT} {heap : PyJWT.DictHeap} {ref : Nat}
  {claims : Dict PyJWT.ClaimValue} {name : PyStr} {handler : Algorithm}
  {headers : Option (Dict Json)} {sortHeaders : Bool}

/-- An issuer signs claims under a `kid` and publishes, among other keys, the one that verifies
them. A client that meets the published document finds that key by the token alone, with at most
one request, and a decode with it comes to the verdict on the claims that were signed.
-/
theorem fetchedKey_decodes (registered : issuer.jws.algorithms.get? name = some handler)
    (isDefault : (getDefaultAlgorithms env).get? name = some handler)
    {signKey verifyKey signPrepared verifyPrepared : Key}
    (keys : KeyPair env issuer.jws handler signKey verifyKey signPrepared verifyPrepared)
    (plain : PlainHeaders (headers.getD Dict.empty)) {kid : PyStr}
    (names : (headers.getD Dict.empty).get? "kid" = some (.str kid)) (named : kid ≠ "")
    (headerInverts : JsonInverts env
      ((PyJWS.adjustHeader (PyJWS.mergedHeader (.str name) headers) false).dumped sortHeaders))
    (given : heap[ref]? = some claims) (shape : ClaimsShape claims)
    (range : TimesInRange claims.entries) (inverts : JsonInverts env (normalClaims claims))
    {published : List (Publication × Key)}
    (publishes : ∀ entry ∈ published, entry.1.Publishes env entry.2) {publication : Publication}
    (isFirst : published.find? (fun entry => entry.1.kid = kid) = some (publication, verifyKey))
    (forName : publication.alg = name) (accepts : consumer.jws.AcceptsLength handler verifyPrepared)
    : ∃ token entries jwk,
        (issuer.encode env heap (some ref) (.raw signKey) (.name name) headers
            sortHeaders).2.result
          = .ok token
        ∧ (published.map Prod.fst).mapM (Publication.toEntry env) = .ok entries
        ∧ (∀ (decoder : PyJWT) (now : Rat) (first second : Turn) (client : PyJWKClient)
            (events : List ClientEvent),
            decoder.options.require = []
            → PyJWKClient.Meets env (jwksDocument entries).toJson kid first second client events
            → (PyJWKClient.getSigningKeyFromJwt env decoder (.str token) now first second
                  client).log
                = events
              ∧ (PyJWKClient.getSigningKeyFromJwt env decoder (.str token) now first second
                  client).result
                = .ok jwk)
        ∧ ∀ (algorithms : Option (List PyStr)) (options : Option Options)
            (detachedPayload : Option Bytes) (expected : PyJWT.Expected) (now : Rat),
            (∀ names, algorithms = some names → name ∈ names)
            → (consumer.decode env (.str token) (.jwk jwk) algorithms options detachedPayload
                  expected now).result
              = (PyJWT.validateClaims env (normalClaims claims)
                  (PyJWT.mergeOptions consumer.options options) expected now).map
                  (fun _ => normalClaims claims) := by
  obtain ⟨text, data, dumps, encodes, loads⟩ := inverts
  have reads : PyJWS.ReadsObject env data (normalClaims claims) :=
    ⟨_, loads, Dict.asDict?_toJson _⟩
  obtain ⟨token, segments, loaded, signingInput, encoded, opens, header, verified⟩ :=
    PyJWS.exists_opened registered keys plain headerInverts data
  have member {key : PyStr} {text : PyStr}
      (isMember : expectedMember name (headers.getD Dict.empty) false key = some (.str text))
      : loaded.header.get? key = some (.str text) := by
    rw [header, PyJWS.dumpedHeader_get?, isMember, Option.map_some, Json.dumped_str]
  have statesAlg : loaded.header.get? "alg" = some (.str name) := by
    refine member ?_
    rw [expectedMember_alg, plain.alg, Option.none_or]
  have statesKid : loaded.header.get? "kid" = some (.str kid) := by
    refine member ?_
    rw [expectedMember_other (by decide) (by decide) (by decide), names]
  obtain ⟨entries, signingKeys, jwk, mapped, readsKeys, found, isLoaded⟩ :=
    PyJWKClient.readSigningKeys_published publishes isFirst named
  have isHandler : jwk.algorithm = handler := by
    have isDefault' := isLoaded.algorithm
    rw [forName, isDefault] at isDefault'
    exact (Option.some.inj isDefault').symm
  refine ⟨token, entries, jwk, ?_, mapped, ?_, ?_⟩
  · rw [PyJWT.encode_eq given shape range dumps encodes]
    exact encoded
  · intro decoder now first second client events requires meets
    rw [PyJWKClient.getSigningKeyFromJwt_of_opens requires (opens none) reads statesKid]
    exact meets.getSigningKey (by simp [Dict.toJson]) readsKeys found
  · intro algorithms options detachedPayload expected now listed
    have inner : (consumer.jws.decodeComplete env (.str token) (.jwk jwk) algorithms
          (some (PyJWT.callSigOptions options)) detachedPayload).result
        = .ok ⟨data, loaded.header, loaded.signature⟩ :=
      PyJWS.decodeComplete_eq_ok.mpr ⟨_, _, _, opens detachedPayload, rfl, rfl,
        fun _ => ⟨Or.inr rfl, _, _, _,
          PyJWS.verifies_jwk isHandler (isLoaded.algorithmName.trans forName) isLoaded.key
            (ne_empty_of_default isDefault) keys.verifyPrepares accepts statesAlg listed
            verified⟩⟩
    exact PyJWT.decode_of_inner inner reads expected now

/-- The HMAC-SHA256 of the token's signing input under the key `kk`. -/
def fetchedDigest : Bytes :=
  [
    198, 201, 124, 160, 239, 215, 93, 18, 131, 7, 28, 73, 122, 175, 149, 77, 4, 156, 151, 222,
    80, 221, 187, 32, 69, 149, 152, 161, 55, 152, 202, 169
  ]

def fetchedEnv : Env := .withoutCryptography (fun _ _ _ => fetchedDigest)

/-- The secret `kk`, under the `kid` of the token. -/
def publishedSecret : Publication :=
  ⟨.oct, .bytes (ascii "kk"), "k1", "HS256"⟩

theorem publishedSecret_publishes
    : ∀ entry ∈ [(publishedSecret, Key.bytes (ascii "kk"))],
        entry.1.Publishes fetchedEnv entry.2 := by
  intro entry member
  rw [List.mem_singleton] at member
  subst member
  exact ⟨.secret rfl, _, rfl, rfl⟩

theorem keyedHeader_inverts
    : JsonInverts fetchedEnv
        ((PyJWS.adjustHeader (PyJWS.mergedHeader (.str "HS256") (some roundTripHeaders))
          false).dumped false) :=
  jsonInverts_withoutCryptography (by decide) (by decide)

/-- A client without a cached set makes one request, and the claims of the token come back a
second before they expire.
-/
theorem fetchedKey_decodes_secret
    : ∃ token entries jwk,
        ((PyJWT.init fetchedEnv none).encode fetchedEnv [roundTripClaims] (some 0)
            (.raw (.bytes (ascii "kk"))) (.name "HS256") (some roundTripHeaders) false).2.result
          = .ok token
        ∧ (PyJWKClient.getSigningKeyFromJwt fetchedEnv (PyJWT.init fetchedEnv none) (.str token)
              0 ⟨0, .json (jwksDocument entries).toJson, 1⟩ ⟨2, .unreachable "", 3⟩
              ⟨some (.init 300)⟩).result
          = .ok jwk
        ∧ ((PyJWT.init fetchedEnv none).decode fetchedEnv (.str token) (.jwk jwk) none none none
              ⟨.none, .none, none, .seconds 0⟩ 3599).result
          = .ok (normalClaims roundTripClaims) := by
  have registered : (PyJWT.init fetchedEnv none).jws.algorithms.get? "HS256"
      = some (.hmac ⟨.sha256⟩) :=
    rfl
  have plain : PlainHeaders ((some roundTripHeaders).getD Dict.empty) := roundTripHeaders_plain
  have given : ([roundTripClaims] : PyJWT.DictHeap)[0]? = some roundTripClaims := rfl
  have inverts : JsonInverts fetchedEnv (normalClaims roundTripClaims) :=
    jsonInverts_withoutCryptography (by decide) (by decide)
  have keys : KeyPair fetchedEnv (PyJWT.init fetchedEnv none).jws (.hmac ⟨.sha256⟩)
      (.bytes (ascii "kk")) (.bytes (ascii "kk")) (.bytes (ascii "kk")) (.bytes (ascii "kk")) :=
    keyPair_kk
  obtain ⟨token, entries, jwk, encoded, _, fetched, decoded⟩ :=
    fetchedKey_decodes registered rfl keys plain rfl (by decide)
      keyedHeader_inverts given roundTripClaims_shape roundTripClaims_inRange inverts
      publishedSecret_publishes rfl rfl keys.verifyLength
  obtain ⟨⟨⟩, accepted, _⟩ := of_returnsWith
    (by decide +kernel : returnsWith (fun _ => true)
      (PyJWT.validateClaims fetchedEnv (normalClaims roundTripClaims)
        (PyJWT.mergeOptions (PyJWT.init fetchedEnv none).options none)
        ⟨.none, .none, none, .seconds 0⟩ 3599) = true)
  refine ⟨token, entries, jwk, encoded, (fetched _ _ _ _ _ _ rfl (.fetched rfl rfl)).2, ?_⟩
  rw [decoded none none none _ 3599 (fun _ listed => by cases listed), accepted]
  rfl

end PyJwt
