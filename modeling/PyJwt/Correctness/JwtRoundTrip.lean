import PyJwt.Correctness.JwsRoundTrip

/-! What claims an encode takes, a decode returns if they pass the validation: times as whole
seconds, everything else as it was.
-/

namespace PyJwt

open Foundations
open Python

-----------------------------------------------------------------------------------------
-- Normal claims
-----------------------------------------------------------------------------------------

/-- The JSON value of a claim: a time is the floor of its POSIX time in seconds. -/
def PyJWT.ClaimValue.normalized : PyJWT.ClaimValue → Json
  | .json value => value
  | .datetime value => .int value.posixFloor

/-- The claims with each time replaced, and every other entry unchanged. -/
def normalClaims (claims : Dict PyJWT.ClaimValue) : Dict Json :=
  claims.mapValues PyJWT.ClaimValue.normalized

/-- Times stand in the time claims only, and the issuer is a string. -/
structure ClaimsShape (claims : Dict PyJWT.ClaimValue) : Prop where
  times
    : ∀ key value,
        (key, .datetime value) ∈ claims.entries
        → key ∈ (["exp", "iat", "nbf"] : List PyStr)
  issuer : ∀ value, claims.get? "iss" = some value → ∃ text, value = .json (.str text)

/-- The UTC date of every aware time is one that a `datetime` can have. -/
def TimesInRange (entries : List (PyStr × PyJWT.ClaimValue)) : Prop :=
  ∀ key value,
    (key, .datetime value) ∈ entries → value.utcoffset = none ∨ value.UtcInRange

namespace PyJWT

/-- A time in range is converted to the floor of its POSIX time. -/
theorem epochSeconds_eq {value : DateTime}
    (range : value.utcoffset = none ∨ value.UtcInRange)
    : epochSeconds value = .ok value.posixFloor := by
  obtain ⟨tuple, found⟩ := Option.isSome_iff_exists.mp
    (DateTime.utctimetuple_isSome_iff.mpr range)
  simp only [epochSeconds, found, DateTime.timegm_utctimetuple found]

/-- An entry after the loop has visited `key`. -/
def settleAt (key : PyStr) (entry : PyStr × ClaimValue) : PyStr × ClaimValue :=
  if entry.1 = key then (entry.1, .json entry.2.normalized) else entry

@[simp] theorem settleAt_here (key : PyStr) (value : ClaimValue)
    : settleAt key (key, value) = (key, .json value.normalized) :=
  if_pos rfl

theorem settleAt_other {visited key : PyStr} (h : key ≠ visited) (value : ClaimValue)
    : settleAt visited (key, value) = (key, value) :=
  if_neg h

/-- A JSON value is settled already. -/
@[simp] theorem settleAt_json (visited key : PyStr) (value : Json)
    : settleAt visited (key, .json value) = (key, .json value) := by
  by_cases here : key = visited
  · subst here
    exact settleAt_here key (.json value)
  · exact settleAt_other here (.json value)

/-- Settling an entry makes no new time. -/
theorem settleAt_datetime {visited key : PyStr} {value : DateTime}
    {entry : PyStr × ClaimValue} (h : settleAt visited entry = (key, .datetime value))
    : entry = (key, .datetime value) := by
  unfold settleAt at h
  split at h
  · cases h
  · exact h

theorem timesInRange_settleAt {entries : List (PyStr × ClaimValue)}
    (range : TimesInRange entries) (visited : PyStr)
    : TimesInRange (entries.map (settleAt visited)) := by
  intro key value member
  obtain ⟨entry, member, settled⟩ := List.mem_map.mp member
  exact range key value (settleAt_datetime settled ▸ member)

/-- One turn of the loop settles exactly the entry of its claim. -/
theorem convertTimeClaim_eq {payload : Dict ClaimValue}
    (range : TimesInRange payload.entries) (key : PyStr)
    : ∃ converted,
        convertTimeClaim payload key = .ok converted
        ∧ converted.entries = payload.entries.map (settleAt key) := by
  have stored {entry : PyStr × ClaimValue} (member : entry ∈ payload.entries)
      (here : entry.1 = key)
      : payload.get? key = some entry.2 :=
    (getEntry_eq_some_iff payload.nodupKeys).mpr (here ▸ member)
  have unchanged (h : ∀ value, payload.get? key ≠ some (.datetime value))
      : payload.entries = payload.entries.map (settleAt key) := by
    refine ((List.map_congr_left (fun entry member => ?_)).trans (List.map_id _)).symm
    unfold settleAt
    split
    · rename_i here
      obtain ⟨first, value⟩ := entry
      cases value with
      | json value => rfl
      | datetime value => exact absurd (stored member here) (h value)
    · rfl
  unfold convertTimeClaim
  split
  · rename_i value found
    have member : (key, .datetime value) ∈ payload.entries :=
      (getEntry_eq_some_iff payload.nodupKeys).mp found
    rw [epochSeconds_eq (range key value member)]
    refine ⟨_, rfl, ?_⟩
    rw [Dict.set_entries_of_get? found]
    refine List.map_congr_left (fun entry member => ?_)
    unfold settleAt
    split
    · rename_i here
      obtain ⟨first, other⟩ := entry
      obtain rfl := Option.some.inj ((stored member here).symm.trans found)
      exact congrArg (·, _) here.symm
    · rfl
  · rename_i notTime
    exact ⟨payload, rfl, unchanged notTime⟩

/-- The loop turns every time into its seconds. -/
theorem convertTimeClaims_eq {claims : Dict ClaimValue} (shape : ClaimsShape claims)
    (range : TimesInRange claims.entries)
    : convertTimeClaims claims
      = .ok (claims.mapValues (fun value => .json value.normalized)) := by
  obtain ⟨first, atExp, expEntries⟩ := convertTimeClaim_eq range "exp"
  have range' := expEntries ▸ timesInRange_settleAt range "exp"
  obtain ⟨second, atIat, iatEntries⟩ := convertTimeClaim_eq range' "iat"
  have range'' := iatEntries ▸ timesInRange_settleAt range' "iat"
  obtain ⟨third, atNbf, nbfEntries⟩ := convertTimeClaim_eq range'' "nbf"
  simp only [convertTimeClaims, atExp, atIat, atNbf, outcome_ok_bind]
  refine congrArg Except.ok (Dict.ext ?_)
  rw [nbfEntries, iatEntries, expEntries, List.map_map, List.map_map]
  refine List.map_congr_left (fun entry member => ?_)
  obtain ⟨key, value⟩ := entry
  simp only [Function.comp_apply]
  cases value with
  | json value => simp only [settleAt_json, ClaimValue.normalized]
  | datetime value =>
      have times := shape.times key value member
      simp only [List.mem_cons, List.not_mem_nil, or_false] at times
      rcases times with rfl | rfl | rfl
      · rw [settleAt_here, settleAt_json, settleAt_json]
      · rw [settleAt_other (by decide : ("iat" : PyStr) ≠ "exp"), settleAt_here,
          settleAt_json]
      · rw [settleAt_other (by decide : ("nbf" : PyStr) ≠ "exp"),
          settleAt_other (by decide : ("nbf" : PyStr) ≠ "iat"), settleAt_here]

/-- Normal claims are dumped as they are, by induction on the entries. -/
theorem claimEntries_json (entries : List (PyStr × ClaimValue))
    : claimEntries (entries.map (fun entry => (entry.1, .json entry.2.normalized)))
      = .ok (entries.map (fun entry => (entry.1, entry.2.normalized))) := by
  induction entries with
  | nil => rfl
  | cons head rest ih =>
      simp only [List.map_cons, claimEntries, ClaimValue.toJson?, outcome_ok_bind, ih]
      rfl

/-- The issuer check passes on the converted claims of a caller whose issuer is a string. -/
theorem checkIssuerClaim_normal {claims : Dict ClaimValue} (shape : ClaimsShape claims)
    : checkIssuerClaim (claims.mapValues (fun value => .json value.normalized)) = .ok () := by
  unfold checkIssuerClaim
  rw [Dict.get?_mapValues]
  cases found : claims.get? "iss" with
  | none => rfl
  | some value =>
      obtain ⟨text, rfl⟩ := shape.issuer value found
      rfl

variable {env : Env} {self : PyJWT} {heap : DictHeap} {ref : Nat}
  {claims : Dict ClaimValue}

/-- Preparing the claims converts a copy of them. -/
theorem preparePayloadClaims_eq (given : heap[ref]? = some claims) (shape : ClaimsShape claims)
    (range : TimesInRange claims.entries)
    : (preparePayloadClaims heap (some ref)).2
      = .ok (claims.mapValues (fun value => .json value.normalized)) := by
  simp only [preparePayloadClaims, Option.bind_some, given, convertTimeClaims_eq shape range,
    checkIssuerClaim_normal shape]

/-- Whatever an encode does, it writes to no dictionary that existed before. -/
theorem encode_heap (payload : Option Nat) (key : KeyArg) (algorithm : AlgorithmArg)
    (headers : Option (Dict Json)) (sortHeaders : Bool) {index : Nat} (h : index < heap.length)
    : (self.encode env heap payload key algorithm headers sortHeaders).1[index]?
      = heap[index]? := by
  have appended (copy : Dict ClaimValue) : (heap ++ [copy])[index]? = heap[index]? :=
    List.getElem?_append_left h
  have copied (copy other : Dict ClaimValue)
      : ((heap ++ [copy]).set heap.length other)[index]? = heap[index]? := by
    rw [List.getElem?_set_ne (by omega), appended]
  simp only [encode, preparePayloadClaims]
  split
  · rfl
  · split
    · exact appended _
    · split
      · exact copied _ _
      · exact copied _ _

/-- What a claims encode signs is the JSON text of the normal claims. -/
theorem encode_eq (given : heap[ref]? = some claims) (shape : ClaimsShape claims)
    (range : TimesInRange claims.entries) {text : PyStr} {data : Bytes}
    (dumps : env.json.dumps true (normalClaims claims).toJson = .ok text)
    (encodes : text.encode = some data) (key : KeyArg) (algorithm : AlgorithmArg)
    (headers : Option (Dict Json)) (sortHeaders : Bool)
    : (self.encode env heap (some ref) key algorithm headers sortHeaders).2
      = self.jws.encode env data key algorithm headers false sortHeaders := by
  have payload : encodePayload env (claims.mapValues (fun value => .json value.normalized))
      = .ok data := by
    have dumped : env.json.dumps true (.dict (claims.entries.map
          (fun entry => (entry.1, entry.2.normalized))))
        = .ok text :=
      dumps
    simp only [encodePayload, Dict.mapValues, claimEntries_json, outcome_ok_bind, dumped,
      encodeStr, encodes]
  simp only [encode, preparePayloadClaims_eq given shape range, payload,
    Traced.liftM_eq_ofExcept, Traced.ofExcept_ok_bind]

/-- A token whose content reads as claims is decoded to the verdict on those claims. -/
theorem decode_of_inner {jwt : TextArg} {key : KeyArg} {algorithms : Option (List PyStr)}
    {options : Option Options} {detachedPayload : Option Bytes} {inner : PyJWS.Decoded}
    {payload : Dict Json}
    (opened : (self.jws.decodeComplete env jwt key algorithms (some (callSigOptions options))
        detachedPayload).result
      = .ok inner)
    (reads : PyJWS.ReadsObject env inner.payload payload) (expected : Expected) (now : Rat)
    : (self.decode env jwt key algorithms options detachedPayload expected now).result
      = (validateClaims env payload (mergeOptions self.options options) expected now).map
          (fun _ => payload) := by
  cases verdict : validateClaims env payload (mergeOptions self.options options) expected
      now with
  | ok accepted =>
      refine decode_eq_ok.mpr ⟨⟨payload, inner.header, inner.signature⟩, ?_, rfl⟩
      exact decodeComplete_eq_ok.mpr ⟨inner, opened, reads, verdict, rfl, rfl⟩
  | error error =>
      simp only [decode, decodeComplete, decodePayload, Traced.liftM_eq_ofExcept, Except.map,
        Traced.bind_result_eq_error]
      exact Or.inl (Or.inr ⟨inner, opened, Or.inr ⟨payload, PyJWS.loadObject_eq_ok.mpr reads,
        Or.inl verdict⟩⟩)

end PyJWT

-----------------------------------------------------------------------------------------
-- The round trip
-----------------------------------------------------------------------------------------

variable {env : Env} {self : PyJWT} {heap : PyJWT.DictHeap} {ref : Nat}
  {claims : Dict PyJWT.ClaimValue} {name : PyStr} {handler : Algorithm}
  {headers : Option (Dict Json)} {sortHeaders : Bool}

/-- Claims whose times are in range are encoded, every dictionary of the caller is left as it
was, and a decode returns exactly the normal claims where the validation accepts them, and
raises where it rejects them.
-/
theorem decode_encode_claims (registered : self.jws.algorithms.get? name = some handler)
    (nonempty : name ≠ "") {signKey verifyKey signPrepared verifyPrepared : Key}
    (keys : KeyPair env self.jws handler signKey verifyKey signPrepared verifyPrepared)
    (plain : PlainHeaders (headers.getD Dict.empty))
    (headerInverts : JsonInverts env
      ((PyJWS.adjustHeader (PyJWS.mergedHeader (.str name) headers) false).dumped sortHeaders))
    (given : heap[ref]? = some claims) (shape : ClaimsShape claims)
    (range : TimesInRange claims.entries) (inverts : JsonInverts env (normalClaims claims))
    : (∀ (index : Nat) (original : Dict PyJWT.ClaimValue),
        heap[index]? = some original
        → (self.encode env heap (some ref) (.raw signKey) (.name name) headers
              sortHeaders).1[index]?
          = some original)
      ∧ ∃ token,
        (self.encode env heap (some ref) (.raw signKey) (.name name) headers
            sortHeaders).2.result
          = .ok token
        ∧ ∀ (options : Option Options) (detachedPayload : Option Bytes)
            (expected : PyJWT.Expected) (now : Rat),
          (PyJWT.validateClaims env (normalClaims claims)
                (PyJWT.mergeOptions self.options options) expected now
              = .ok ()
            → (self.decode env (.str token) (.raw verifyKey) (some [name]) options
                  detachedPayload expected now).result
              = .ok (normalClaims claims))
          ∧ ∀ error,
              PyJWT.validateClaims env (normalClaims claims)
                  (PyJWT.mergeOptions self.options options) expected now
                = .error error
              → (self.decode env (.str token) (.raw verifyKey) (some [name]) options
                    detachedPayload expected now).result
                = .error error := by
  obtain ⟨text, data, dumps, encodes, loads⟩ := inverts
  obtain ⟨msg, signature, token, encoded, _, _, decoded⟩ :=
    PyJWS.decode_encode registered nonempty keys plain headerInverts data
  refine ⟨?_, token, ?_, fun options detachedPayload expected now => ?_⟩
  · intro index original present
    obtain ⟨bound, _⟩ := List.getElem?_eq_some_iff.mp present
    rw [PyJWT.encode_heap _ _ _ _ _ bound, present]
  · rw [PyJWT.encode_eq given shape range dumps encodes]
    exact encoded
  · have opened := decoded (some (PyJWT.callSigOptions options)) detachedPayload
    rw [if_neg Bool.false_ne_true] at opened
    have reads : PyJWS.ReadsObject env data (normalClaims claims) :=
      ⟨_, loads, Dict.asDict?_toJson _⟩
    have verdict := PyJWT.decode_of_inner opened reads expected now
    constructor
    · intro accepted
      rw [verdict, accepted]
      rfl
    · intro error rejected
      rw [verdict, rejected]
      rfl

-----------------------------------------------------------------------------------------
-- Claims with an aware time
-----------------------------------------------------------------------------------------

/-- Half a second past two on the first day of 1970, an hour east of UTC. -/
def roundTripTime : DateTime where
  year := 1970
  month := 1
  day := 1
  hour := 2
  minute := 0
  second := 0
  microsecond := 500000
  utcoffset := some 3600000000
  yearRange := by decide
  monthRange := by decide
  dayRange := by decide
  timeRange := by decide
  offsetRange := by decide

def roundTripClaims : Dict PyJWT.ClaimValue :=
  .ofEntries [("iss", .json (.str "joe")), ("exp", .datetime roundTripTime)]

/-- The HMAC-SHA256 of the token's signing input under the key `kk`. -/
def claimsDigest : Bytes :=
  [
    15, 196, 132, 60, 12, 19, 104, 164, 241, 233, 211, 156, 9, 59, 29, 42, 251, 161, 51,
    247, 117, 15, 202, 163, 196, 186, 122, 71, 165, 53, 79, 143
  ]

def claimsEnv : Env := .withoutCryptography (fun _ _ _ => claimsDigest)

/-- Any header of a caller who gives none comes back. -/
theorem bareHeader_inverts
    : JsonInverts claimsEnv
        ((PyJWS.adjustHeader (PyJWS.mergedHeader (.str "HS256") none) false).dumped true) :=
  jsonInverts_withoutCryptography (by decide) (by decide)

theorem emptyHeaders_plain : PlainHeaders ((none : Option (Dict Json)).getD Dict.empty) where
  alg := rfl
  b64 := rfl
  crit := rfl
  kid _ h := by cases h

theorem roundTripClaims_entries
    : roundTripClaims.entries
      = [((("iss" : String) : PyStr), .json (.str "joe")), ("exp", .datetime roundTripTime)] :=
  rfl

theorem roundTripClaims_shape : ClaimsShape roundTripClaims where
  times key value member := by
    simp only [roundTripClaims_entries, List.mem_cons, List.not_mem_nil, or_false,
      Prod.mk.injEq, reduceCtorEq, and_false, false_or] at member
    simp [member.1]
  issuer value found := ⟨"joe", (Option.some.inj found).symm⟩

theorem roundTripClaims_inRange : TimesInRange roundTripClaims.entries := by
  intro key value member
  simp only [roundTripClaims_entries, List.mem_cons, List.not_mem_nil, or_false,
    Prod.mk.injEq, reduceCtorEq, and_false, false_or, PyJWT.ClaimValue.datetime.injEq]
    at member
  rw [member.2]
  exact Or.inr (by decide)

/-- The expiry comes back as `3600`: a second before it the claims are returned, and at it
they are rejected.
-/
theorem decode_encode_claims_expiring
    : ∃ token error,
        ((PyJWT.init claimsEnv none).encode claimsEnv [roundTripClaims] (some 0)
            (.raw (.bytes (ascii "kk"))) (.name "HS256") none true).2.result
          = .ok token
        ∧ ((PyJWT.init claimsEnv none).decode claimsEnv (.str token)
              (.raw (.bytes (ascii "kk"))) (some ["HS256"]) none none
              ⟨.none, .none, none, .seconds 0⟩ 3599).result
          = .ok (normalClaims roundTripClaims)
        ∧ ((PyJWT.init claimsEnv none).decode claimsEnv (.str token)
              (.raw (.bytes (ascii "kk"))) (some ["HS256"]) none none
              ⟨.none, .none, none, .seconds 0⟩ 3600).result
          = .error error
        ∧ error.cls = .expiredSignatureError
        ∧ ((PyJWT.init claimsEnv none).encode claimsEnv [roundTripClaims] (some 0)
            (.raw (.bytes (ascii "kk"))) (.name "HS256") none true).1[0]?
          = some roundTripClaims := by
  have registered : (PyJWT.init claimsEnv none).jws.algorithms.get? "HS256"
      = some (.hmac ⟨.sha256⟩) :=
    rfl
  have given : ([roundTripClaims] : PyJWT.DictHeap)[0]? = some roundTripClaims := rfl
  have inverts : JsonInverts claimsEnv (normalClaims roundTripClaims) :=
    jsonInverts_withoutCryptography (by decide) (by decide)
  obtain ⟨unchanged, token, encoded, decoded⟩ :=
    decode_encode_claims registered (by decide) keyPair_kk emptyHeaders_plain
      bareHeader_inverts given roundTripClaims_shape roundTripClaims_inRange inverts
  obtain ⟨⟨⟩, accepted, _⟩ := of_returnsWith
    (by decide +kernel : returnsWith (fun _ => true)
      (PyJWT.validateClaims claimsEnv (normalClaims roundTripClaims)
        (PyJWT.mergeOptions (PyJWT.init claimsEnv none).options none)
        ⟨.none, .none, none, .seconds 0⟩ 3599) = true)
  obtain ⟨error, rejected, expired⟩ := of_raisesWith
    (by decide +kernel : raisesWith (fun error => error.cls = .expiredSignatureError)
      (PyJWT.validateClaims claimsEnv (normalClaims roundTripClaims)
        (PyJWT.mergeOptions (PyJWT.init claimsEnv none).options none)
        ⟨.none, .none, none, .seconds 0⟩ 3600) = true)
  exact ⟨token, error, encoded, (decoded none none _ 3599).1 accepted,
    (decoded none none _ 3600).2 error rejected, of_decide_eq_true expired,
    unchanged 0 roundTripClaims rfl⟩

/-- The first hour of the year 1, an hour east of UTC: its UTC date is in the year 0. -/
def earlyTime : DateTime where
  year := 1
  month := 1
  day := 1
  hour := 0
  minute := 0
  second := 0
  microsecond := 0
  utcoffset := some 3600000000
  yearRange := by decide
  monthRange := by decide
  dayRange := by decide
  timeRange := by decide
  offsetRange := by decide

def earlyClaims : Dict PyJWT.ClaimValue := .ofEntries [("exp", .datetime earlyTime)]

/-- Claims of the right shape, with a key that signs and verifies, are not encoded: the UTC
date of their time is out of range.
-/
theorem encode_earlyTime
    : ∃ error,
        ((PyJWT.init claimsEnv none).encode claimsEnv [earlyClaims] (some 0)
            (.raw (.bytes (ascii "kk"))) (.name "HS256") none true).2.result
          = .error error
        ∧ error.cls = .overflowError
        ∧ ClaimsShape earlyClaims
        ∧ (PyJWT.init claimsEnv none).jws.algorithms.get? "HS256" = some (.hmac ⟨.sha256⟩)
        ∧ KeyPair claimsEnv (PyJWT.init claimsEnv none).jws (.hmac ⟨.sha256⟩)
          (.bytes (ascii "kk")) (.bytes (ascii "kk")) (.bytes (ascii "kk"))
          (.bytes (ascii "kk"))
        ∧ JsonInverts claimsEnv (normalClaims earlyClaims) := by
  obtain ⟨error, raised, overflow⟩ := of_raisesWith
    (by decide : raisesWith (fun error => error.cls = .overflowError)
      ((PyJWT.init claimsEnv none).encode claimsEnv [earlyClaims] (some 0)
        (.raw (.bytes (ascii "kk"))) (.name "HS256") none true).2.result = true)
  have entries : earlyClaims.entries
      = [((("exp" : String) : PyStr), .datetime earlyTime)] :=
    rfl
  refine ⟨error, raised, of_decide_eq_true overflow, ⟨?_, ?_⟩, rfl, keyPair_kk,
    jsonInverts_withoutCryptography (by decide) (by decide)⟩
  · intro key value member
    simp only [entries, List.mem_cons, List.not_mem_nil, or_false, Prod.mk.injEq] at member
    simp [member.1]
  · intro value found
    cases found

end PyJwt
