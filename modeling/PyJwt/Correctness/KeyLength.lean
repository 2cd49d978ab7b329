import PyJwt.Correctness.EncodeStages
import PyJwt.Correctness.VerifiedDecoding

/-! Which keys reach `sign` and `verify`. A short key is refused by the options of the signature
layer's own instance; the option of a call is merged but never read.
-/

namespace PyJwt

open Foundations
open Python

variable {env : Env} {α β : Type}

/-- The algorithm reports the prepared key as too short. -/
structure ShortKey (handler : Algorithm) (prepared : Key) (message : List MessagePart)
    : Prop where
  reported : handler.checkKeyLength prepared = .ok (some message)
  truthy : message ≠ []

/-- The event is a call of the algorithm's `sign` or `verify` with the key. -/
def Event.Uses (handler : Algorithm) (prepared : Key) : Event → Prop
  | insecureKeyLength _ => False
  | sign algorithm _ key | verify algorithm _ key _ => algorithm = handler ∧ key = prepared

/-- A short key never reaches `sign` or `verify`: where the run selects one, it raises. -/
structure KeepsShortKeysOut (run : Run α) (selects : Algorithm → Key → Prop) : Prop where
  calls : ∀ event ∈ run.log, ∀ handler prepared message,
    event.Uses handler prepared → ¬ShortKey handler prepared message
  raises : ∀ handler prepared message,
    selects handler prepared
    → ShortKey handler prepared message
    → run.result = .error ⟨.invalidKeyError, message⟩

/-- The run selects no short key. -/
def SelectsNoShortKey (selects : Algorithm → Key → Prop) : Prop :=
  ∀ handler prepared message, selects handler prepared → ¬ShortKey handler prepared message

/-- What a run does with the key it selects: the algorithm is called with it exactly where the
instance accepts its length.
-/
structure PreparesKeys (jws : PyJWS) (run : Run α) (selects : Algorithm → Key → Prop)
    : Prop where
  calls : ∀ event ∈ run.log, ∀ handler prepared,
    event.Uses handler prepared
    → selects handler prepared ∧ jws.AcceptsLength handler prepared
  uses : ∀ handler prepared,
    selects handler prepared
    → jws.AcceptsLength handler prepared
    → ∃ event ∈ run.log, event.Uses handler prepared
  refuses : ∀ handler prepared message,
    jws.options.enforceMinimumKeyLength = true
    → selects handler prepared
    → ShortKey handler prepared message
    → run.result = .error ⟨.invalidKeyError, message⟩

/-- A short key is accepted only by an instance that does not enforce the length. -/
theorem ShortKey.acceptsLength_iff {jws : PyJWS} {handler : Algorithm} {prepared : Key}
    {message : List MessagePart} (short : ShortKey handler prepared message)
    : jws.AcceptsLength handler prepared ↔ jws.options.enforceMinimumKeyLength = false := by
  unfold PyJWS.AcceptsLength
  simp [short.reported, short.truthy]

/-- Short keys are kept out precisely by the instance's own option, unless none is selected. -/
theorem PreparesKeys.keepsShortKeysOut_iff {jws : PyJWS} {run : Run α}
    {selects : Algorithm → Key → Prop} (h : PreparesKeys jws run selects)
    : KeepsShortKeysOut run selects
      ↔ jws.options.enforceMinimumKeyLength = true ∨ SelectsNoShortKey selects := by
  constructor
  · intro keeps
    by_contra escapes
    simp only [not_or, Bool.not_eq_true, SelectsNoShortKey, not_forall, not_not] at escapes
    obtain ⟨lenient, handler, prepared, message, selected, short⟩ := escapes
    obtain ⟨event, member, used⟩ :=
      h.uses handler prepared selected (short.acceptsLength_iff.mpr lenient)
    exact keeps.calls event member handler prepared message used short
  · intro enforced
    constructor
    · intro event member handler prepared message used short
      obtain ⟨selected, accepted⟩ := h.calls event member handler prepared used
      rcases enforced with strict | none
      · rw [short.acceptsLength_iff, strict] at accepted
        cases accepted
      · exact none handler prepared message selected short
    · intro handler prepared message selected short
      rcases enforced with strict | none
      · exact h.refuses handler prepared message strict selected short
      · exact absurd short (none handler prepared message selected)

/-- A last stage that logs nothing changes nothing. -/
theorem PreparesKeys.bind_silent {jws : PyJWS} {run : Run α} {selects : Algorithm → Key → Prop}
    (h : PreparesKeys jws run selects) {next : α → Run β} (silent : ∀ value, (next value).log = [])
    : PreparesKeys jws (run >>= next) selects := by
  refine ⟨?_, ?_, ?_⟩
  · rw [Traced.bind_log_of_silent silent]
    exact h.calls
  · rw [Traced.bind_log_of_silent silent]
    exact h.uses
  · intro handler prepared message strict selected short
    rw [Traced.bind_of_error (h.refuses handler prepared message strict selected short)]

/-- After a first stage that calls no algorithm, a key is selected where that stage returns. -/
theorem PreparesKeys.after {jws : PyJWS} {outcome : Outcome β} {next : β → Run α}
    {selects : Algorithm → Key → Prop} (h : ∀ value, PreparesKeys jws (next value) selects)
    : PreparesKeys jws (Traced.ofExcept outcome >>= next)
        (fun handler prepared => (∃ value, outcome = .ok value) ∧ selects handler prepared) := by
  cases outcome with
  | ok value =>
      rw [Traced.ofExcept_ok_bind]
      have same : (fun handler prepared =>
          (∃ other, (Except.ok value : Outcome β) = .ok other) ∧ selects handler prepared)
          = selects := by
        simp
      rw [same]
      exact h value
  | error error =>
      refine ⟨?_, ?_, ?_⟩ <;> simp

/-- An instance that enforces the length refuses a short key. -/
theorem prepareSigningKey_of_short {jws : PyJWS} {handler : Algorithm} {key : KeyArg}
    {prepared : Key} {message : List MessagePart}
    (prepares : handler.prepareKey env key.unwrap = .ok prepared)
    (short : ShortKey handler prepared message)
    (strict : jws.options.enforceMinimumKeyLength = true)
    : jws.prepareSigningKey env handler key = Traced.raise ⟨.invalidKeyError, message⟩ := by
  unfold PyJWS.prepareSigningKey
  simp only [Traced.liftM_eq_ofExcept, prepares, short.reported, Traced.ofExcept_ok_bind]
  have present : (some message).filter (fun message => !message.isEmpty) = some message := by
    simp [short.truthy]
  simp only [present, strict, if_true, Traced.raise_bind]

-----------------------------------------------------------------------------------------
-- Signing
-----------------------------------------------------------------------------------------

namespace PyJWS

/-- The key that an encode hands to the algorithm it settles on. -/
def SignsWith (env : Env) (jws : PyJWS) (key : KeyArg) (algorithm : AlgorithmArg)
    (headers : Option (Dict Json)) (isPayloadDetached sortHeaders : Bool)
    (handler : Algorithm) (prepared : Key)
    : Prop :=
  handler.prepareKey env key.unwrap = .ok prepared
  ∧ ∃ alg detached header data,
      Settles env jws key algorithm headers isPayloadDetached sortHeaders alg detached header
        data handler

/-- Once the header is settled, an encode prepares the key and signs. -/
theorem Settles.encode_eq {jws : PyJWS} {key : KeyArg} {algorithm : AlgorithmArg}
    {headers : Option (Dict Json)} {isPayloadDetached sortHeaders : Bool} {alg : Json}
    {detached : Bool} {header : Dict Json} {data : Bytes} {handler : Algorithm}
    (h : Settles env jws key algorithm headers isPayloadDetached sortHeaders alg detached header
      data handler)
    (payload : Bytes)
    : ∃ rest : Key → Run PyStr,
        jws.encode env payload key algorithm headers isPayloadDetached sortHeaders
          = jws.prepareSigningKey env handler key >>= rest := by
  unfold encode
  simp only [h.resolved, h.built, h.dumped, h.chosen, Traced.liftM_eq_ofExcept,
    Traced.ofExcept_ok_bind]
  exact ⟨_, rfl⟩

theorem preparesKeys_encode (jws : PyJWS) (payload : Bytes) (key : KeyArg)
    (algorithm : AlgorithmArg) (headers : Option (Dict Json))
    (isPayloadDetached sortHeaders : Bool)
    : PreparesKeys jws
        (jws.encode env payload key algorithm headers isPayloadDetached sortHeaders)
        (SignsWith env jws key algorithm headers isPayloadDetached sortHeaders) := by
  refine ⟨?_, ?_, ?_⟩
  · intro event member handler prepared used
    obtain ⟨alg, detached, header, data, settled, settles, warned | signed⟩ :=
      mem_encode_log.mp member
    · obtain ⟨message, rfl⟩ := prepareSigningKey_logs jws settled key event warned
      cases used
    · obtain ⟨found, prepares, accepted, rfl⟩ := signed
      obtain ⟨rfl, rfl⟩ := used
      exact ⟨⟨prepares, alg, detached, header, data, settles⟩, accepted⟩
  · intro handler prepared selected accepted
    obtain ⟨prepares, alg, detached, header, data, settles⟩ := selected
    exact ⟨
      .sign handler (signedBytes data detached payload) prepared,
      mem_encode_log.mpr ⟨alg, detached, header, data, handler, settles,
        Or.inr ⟨prepared, prepares, accepted, rfl⟩⟩,
      rfl, rfl
    ⟩
  · intro handler prepared message strict selected short
    obtain ⟨prepares, alg, detached, header, data, settles⟩ := selected
    obtain ⟨rest, same⟩ := settles.encode_eq payload
    rw [same, prepareSigningKey_of_short prepares short strict, Traced.raise_bind,
      Traced.raise_result]

-----------------------------------------------------------------------------------------
-- Verifying
-----------------------------------------------------------------------------------------

/-- The key that a verifying decode hands to the algorithm it chooses. -/
def VerifiesWith (env : Env) (jws : PyJWS) (jwt : TextArg) (key : KeyArg)
    (algorithms : Option (List PyStr)) (detachedPayload : Option Bytes)
    (handler : Algorithm) (prepared : Key)
    : Prop :=
  handler.prepareKey env key.unwrap = .ok prepared
  ∧ NamesAlgorithms key algorithms
  ∧ ∃ segments loaded payload signingInput alg,
      Opens env jwt detachedPayload segments loaded payload signingInput
      ∧ allowedAlg loaded.header (effectiveAlgorithms key algorithms) = .ok alg
      ∧ jws.verifyingAlgorithm env alg key = .ok handler

theorem preparesKeys_decodeComplete {jws : PyJWS} {options : Option SigOptions}
    (verifying : (jws.options.merge options).verifySignature = true) (jwt : TextArg)
    (key : KeyArg) (algorithms : Option (List PyStr)) (detachedPayload : Option Bytes)
    : PreparesKeys jws
        (jws.decodeComplete env jwt key algorithms options detachedPayload)
        (VerifiesWith env jws jwt key algorithms detachedPayload) := by
  refine ⟨?_, ?_, ?_⟩
  · intro event member handler prepared used
    obtain ⟨_, named, segments, loaded, payload, signingInput, opens, verified⟩ :=
      mem_decodeComplete_log.mp member
    obtain ⟨alg, chosen, allowed, chooses, warned | called⟩ :=
      mem_verifySignature_log.mp verified
    · obtain ⟨message, rfl⟩ := prepareSigningKey_logs jws chosen key event warned
      cases used
    · obtain ⟨found, prepares, accepted, rfl⟩ := called
      obtain ⟨rfl, rfl⟩ := used
      exact ⟨
        ⟨prepares, named, segments, loaded, payload, signingInput, alg, opens, allowed, chooses⟩,
        accepted
      ⟩
  · intro handler prepared selected accepted
    obtain ⟨prepares, named, segments, loaded, payload, signingInput, alg, opens, allowed,
      chooses⟩ := selected
    refine ⟨.verify handler signingInput prepared loaded.signature, ?_, rfl, rfl⟩
    refine mem_decodeComplete_log.mpr
      ⟨verifying, named, segments, loaded, payload, signingInput, opens, ?_⟩
    exact mem_verifySignature_log.mpr
      ⟨alg, handler, allowed, chooses, Or.inr ⟨prepared, prepares, accepted, rfl⟩⟩
  · intro handler prepared message strict selected short
    obtain ⟨prepares, named, segments, loaded, payload, signingInput, alg, opens, allowed,
      chooses⟩ := selected
    rw [decodeComplete_verified verifying named]
    simp only [load_eq_ok_iff.mpr ⟨segments, opens.loads⟩, opens.valid, opens.content,
      Traced.ofExcept_ok_bind, verifySignature, allowed, chooses, Traced.liftM_eq_ofExcept,
      prepareSigningKey_of_short prepares short strict, Traced.raise_bind, Traced.raise_result]

end PyJWS

namespace PyJWT

/-- The key that an encode of claims hands to the algorithm. -/
def SignsWith (env : Env) (self : PyJWT) (heap : DictHeap) (payload : Option Nat) (key : KeyArg)
    (algorithm : AlgorithmArg) (headers : Option (Dict Json)) (sortHeaders : Bool)
    (handler : Algorithm) (prepared : Key)
    : Prop :=
  (∃ jsonPayload,
    ((preparePayloadClaims heap payload).2 >>= encodePayload env) = .ok jsonPayload)
  ∧ self.jws.SignsWith env key algorithm headers false sortHeaders handler prepared

theorem preparesKeys_encode (self : PyJWT) (heap : DictHeap) (payload : Option Nat)
    (key : KeyArg) (algorithm : AlgorithmArg) (headers : Option (Dict Json))
    (sortHeaders : Bool)
    : PreparesKeys self.jws
        (self.encode env heap payload key algorithm headers sortHeaders).2
        (self.SignsWith env heap payload key algorithm headers sortHeaders) := by
  have stages : (self.encode env heap payload key algorithm headers sortHeaders).2
      = (Traced.ofExcept ((preparePayloadClaims heap payload).2 >>= encodePayload env)
          >>= fun jsonPayload =>
            self.jws.encode env jsonPayload key algorithm headers false sortHeaders) := by
    unfold encode
    obtain ⟨changed, prepared⟩ := preparePayloadClaims heap payload
    cases prepared <;> rfl
  rw [stages]
  exact .after (fun jsonPayload => self.jws.preparesKeys_encode jsonPayload key algorithm
    headers false sortHeaders)

theorem preparesKeys_decodeComplete {self : PyJWT} {options : Option Options}
    (verifying : signatureFlag options = true) (jwt : TextArg) (key : KeyArg)
    (algorithms : Option (List PyStr)) (detachedPayload : Option Bytes) (expected : Expected)
    (now : Rat)
    : PreparesKeys self.jws
        (self.decodeComplete env jwt key algorithms options detachedPayload expected now)
        (self.jws.VerifiesWith env jwt key algorithms detachedPayload) := by
  have inner := @PyJWS.preparesKeys_decodeComplete env self.jws (some (callSigOptions options))
    verifying jwt key algorithms detachedPayload
  refine inner.bind_silent (fun decoded => ?_)
  simp only [Traced.liftM_eq_ofExcept]
  rw [Traced.bind_log_of_silent (fun payload => ?_), Traced.ofExcept_log]
  rw [Traced.bind_log_of_silent (fun _ => rfl), Traced.ofExcept_log]

end PyJWT

-----------------------------------------------------------------------------------------
-- The option of a call
-----------------------------------------------------------------------------------------

/-- The property asked of a run in which the length is enforced or not. -/
def EnforcesLength (enforced : Bool) (run : Run α) (selects : Algorithm → Key → Prop) : Prop :=
  enforced = true → KeepsShortKeysOut run selects

/-- The instance's own option is set where the option in force is, or no short key is selected. -/
def OptionReaches (jws : PyJWS) (enforced : Bool) (selects : Algorithm → Key → Prop) : Prop :=
  enforced = true → jws.options.enforceMinimumKeyLength = true ∨ SelectsNoShortKey selects

theorem PreparesKeys.enforces_iff {jws : PyJWS} {run : Run α}
    {selects : Algorithm → Key → Prop} (h : PreparesKeys jws run selects) (enforced : Bool)
    : EnforcesLength enforced run selects ↔ OptionReaches jws enforced selects :=
  imp_congr_right (fun _ => h.keepsShortKeysOut_iff)

/-- The option in force for a decode by the signature layer. -/
def PyJWS.enforcedBy (self : PyJWS) (options : Option SigOptions) : Bool :=
  (self.options.merge options).enforceMinimumKeyLength

/-- The option in force for a decode of claims. -/
def PyJWT.enforcedBy (self : PyJWT) (options : Option Options) : Bool :=
  (PyJWT.mergeOptions self.options options).enforceMinimumKeyLength

/-- Short keys are kept out of every call as its options ask precisely where the option of the
signature layer's own instance is set too, or no short key is selected. That option is the
constructor's: an encode has no other, and one that a decode is called with is not read.
-/
theorem enforcesLength_iff (env : Env)
    : (∀ (jws : PyJWS) (payload : Bytes) (key : KeyArg) (algorithm : AlgorithmArg)
        (headers : Option (Dict Json)) (isPayloadDetached sortHeaders : Bool),
        EnforcesLength jws.options.enforceMinimumKeyLength
          (jws.encode env payload key algorithm headers isPayloadDetached sortHeaders)
          (jws.SignsWith env key algorithm headers isPayloadDetached sortHeaders))
      ∧ (∀ (jws : PyJWS) (jwt : TextArg) (key : KeyArg) (algorithms : Option (List PyStr))
          (options : Option SigOptions) (detachedPayload : Option Bytes),
          (jws.options.merge options).verifySignature = true
          → (EnforcesLength (jws.enforcedBy options)
                (jws.decodeComplete env jwt key algorithms options detachedPayload)
                (jws.VerifiesWith env jwt key algorithms detachedPayload)
              ↔ OptionReaches jws (jws.enforcedBy options)
                  (jws.VerifiesWith env jwt key algorithms detachedPayload))
            ∧ (EnforcesLength (jws.enforcedBy options)
                (jws.decode env jwt key algorithms options detachedPayload)
                (jws.VerifiesWith env jwt key algorithms detachedPayload)
              ↔ OptionReaches jws (jws.enforcedBy options)
                  (jws.VerifiesWith env jwt key algorithms detachedPayload)))
      ∧ (∀ (self : PyJWT) (heap : PyJWT.DictHeap) (payload : Option Nat) (key : KeyArg)
          (algorithm : AlgorithmArg) (headers : Option (Dict Json)) (sortHeaders : Bool),
          EnforcesLength self.options.enforceMinimumKeyLength
              (self.encode env heap payload key algorithm headers sortHeaders).2
              (self.SignsWith env heap payload key algorithm headers sortHeaders)
            ↔ OptionReaches self.jws self.options.enforceMinimumKeyLength
                (self.SignsWith env heap payload key algorithm headers sortHeaders))
      ∧ (∀ (self : PyJWT) (jwt : TextArg) (key : KeyArg) (algorithms : Option (List PyStr))
          (options : Option Options) (detachedPayload : Option Bytes)
          (expected : PyJWT.Expected) (now : Rat),
          PyJWT.signatureFlag options = true
          → (EnforcesLength (self.enforcedBy options)
                (self.decodeComplete env jwt key algorithms options detachedPayload expected now)
                (self.jws.VerifiesWith env jwt key algorithms detachedPayload)
              ↔ OptionReaches self.jws (self.enforcedBy options)
                  (self.jws.VerifiesWith env jwt key algorithms detachedPayload))
            ∧ (EnforcesLength (self.enforcedBy options)
                (self.decode env jwt key algorithms options detachedPayload expected now)
                (self.jws.VerifiesWith env jwt key algorithms detachedPayload)
              ↔ OptionReaches self.jws (self.enforcedBy options)
                  (self.jws.VerifiesWith env jwt key algorithms detachedPayload)))
      ∧ ∀ constructed : Option Options,
          (PyJWT.init env constructed).jws.options.enforceMinimumKeyLength
            = (PyJWT.init env constructed).options.enforceMinimumKeyLength := by
  refine ⟨?_, ?_, ?_, ?_, fun _ => rfl⟩
  · intro jws payload key algorithm headers isPayloadDetached sortHeaders
    exact ((jws.preparesKeys_encode payload key algorithm headers isPayloadDetached
      sortHeaders).enforces_iff _).mpr Or.inl
  · intro jws jwt key algorithms options detachedPayload verifying
    have prepares := @PyJWS.preparesKeys_decodeComplete env jws options verifying jwt key
      algorithms detachedPayload
    exact ⟨prepares.enforces_iff _,
      (prepares.bind_silent (fun _ => rfl)).enforces_iff _⟩
  · intro self heap payload key algorithm headers sortHeaders
    exact (self.preparesKeys_encode heap payload key algorithm headers
      sortHeaders).enforces_iff _
  · intro self jwt key algorithms options detachedPayload expected now verifying
    have prepares := @PyJWT.preparesKeys_decodeComplete env self options verifying jwt key
      algorithms detachedPayload expected now
    exact ⟨prepares.enforces_iff _,
      (prepares.bind_silent (fun _ => rfl)).enforces_iff _⟩

/-- The constructor's option keeps the two bytes `kk` from verifying under HS256. -/
theorem enforcesLength_iff_constructed
    : let jws := PyJWS.init digestEnv none (some { enforceMinimumKeyLength := some true })
      let run := jws.decodeComplete digestEnv (.bytes signedToken) (.raw (.bytes (ascii "kk")))
        (some ["HS256"]) none none
      KeepsShortKeysOut run
          (jws.VerifiesWith digestEnv (.bytes signedToken) (.raw (.bytes (ascii "kk")))
            (some ["HS256"]) none)
        ∧ ∃ error, run.result = .error error ∧ error.cls = .invalidKeyError := by
  intro jws run
  obtain ⟨error, raised, isKeyError⟩ := of_raisesWith
    (by decide +kernel : raisesWith (fun error => error.cls = .invalidKeyError) run.result = true)
  have enforces := ((enforcesLength_iff digestEnv).2.1 jws (.bytes signedToken)
    (.raw (.bytes (ascii "kk"))) (some ["HS256"]) none none rfl).1
  exact ⟨enforces.mpr (fun _ => Or.inl rfl) rfl, error, raised, of_decide_eq_true isKeyError⟩

/-- The event calls an algorithm with a key that the algorithm reports as too short. -/
def Event.isShort : Event → Bool
  | insecureKeyLength _ => false
  | sign algorithm _ key | verify algorithm _ key _ =>
      returnsWith (fun message => message.any (fun message => !message.isEmpty))
        (algorithm.checkKeyLength key)

theorem Event.uses_of_isShort {event : Event} (h : event.isShort = true)
    : ∃ handler prepared message,
        event.Uses handler prepared ∧ ShortKey handler prepared message := by
  cases event with
  | insecureKeyLength message => cases h
  | sign handler _ prepared | verify handler _ prepared _ =>
      obtain ⟨reported, found, truthy⟩ := of_returnsWith h
      cases reported with
      | none => cases truthy
      | some message =>
          exact ⟨handler, prepared, message, ⟨rfl, rfl⟩, found, by simpa using truthy⟩

/-- The option given to a call does not: the same key verifies the token. -/
theorem enforcesLength_called
    : let jwt := PyJWT.init digestEnv none
      let options : Options := { enforceMinimumKeyLength := some true }
      let run := jwt.decode digestEnv (.bytes signedToken) (.raw (.bytes (ascii "kk")))
        (some ["HS256"]) (some options) none ⟨.none, .none, none, .seconds 0⟩ 0
      jwt.enforcedBy (some options) = true
      ∧ (∃ payload, run.result = .ok payload)
      ∧ ¬EnforcesLength (jwt.enforcedBy (some options)) run
          (jwt.jws.VerifiesWith digestEnv (.bytes signedToken) (.raw (.bytes (ascii "kk")))
            (some ["HS256"]) none) := by
  intro jwt options run
  obtain ⟨payload, returned, _⟩ := of_returnsWith
    (by decide +kernel : returnsWith (fun _ => true) run.result = true)
  have called : run.log.any Event.isShort = true := by decide +kernel
  obtain ⟨event, member, isShort⟩ := List.any_eq_true.mp called
  obtain ⟨handler, prepared, message, used, short⟩ := Event.uses_of_isShort isShort
  refine ⟨rfl, ⟨payload, returned⟩, fun enforces => ?_⟩
  exact (enforces rfl).calls event member handler prepared message used short

end PyJwt
