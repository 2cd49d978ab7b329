import PyJwt.Correctness.TokenErrors

/-! Which errors leave the validation of claims, and which values of the time claims are named
by an error of their own.
-/

namespace PyJwt

open Foundations
open Python

variable {env : Env}

-----------------------------------------------------------------------------------------
-- Validating claims
-----------------------------------------------------------------------------------------

/-- `int()` of the value returns or raises a `ValueError`: it is a boolean, a string or a
number that is not infinite.
-/
def IntReadable : Json → Prop
  | .bool _ | .int _ | .str _ | .float (.finite _) | .float .nan => True
  | .null | .list _ | .dict _ | .float .posInf | .float .negInf => False

/-- The leeway can be added to a clock reading. -/
def LeewayFits : PyJWT.Leeway → Prop
  | .int value => PyJWT.fitsFloat value = true
  | .seconds _ | .timedelta _ => True

namespace PyJWT

theorem failsOnly_pyInt {value : Json}
    : FailsOnly [.valueError] (pyInt env value) ↔ IntReadable value := by
  have escapes {cls : ExcClass} {message : List MessagePart}
      (raised : pyInt env value = .error ⟨cls, message⟩)
      (foreign : ¬([ExcClass.valueError].any cls.isSubclass = true
        ∨ cls.isSubclass .pyJWTError = true))
      : ¬FailsOnly [.valueError] (pyInt env value) :=
    fun h => foreign (h _ raised)
  cases value with
  | null => exact iff_of_false (escapes rfl (by decide)) id
  | list items => exact iff_of_false (escapes rfl (by decide)) id
  | dict entries => exact iff_of_false (escapes rfl (by decide)) id
  | bool value => exact iff_of_true nofun trivial
  | int value => exact iff_of_true nofun trivial
  | float value =>
      cases value with
      | finite value => exact iff_of_true nofun trivial
      | posInf => exact iff_of_false (escapes rfl (by decide)) id
      | negInf => exact iff_of_false (escapes rfl (by decide)) id
      | nan =>
          refine iff_of_true (fun error failed => ?_) trivial
          cases failed
          exact Or.inl rfl
  | str text =>
      refine iff_of_true (fun error failed => ?_) trivial
      simp only [pyInt] at failed
      split at failed
      · cases failed
      · cases failed
        exact Or.inl rfl

theorem clean_toFloat {leeway : Leeway} : Clean leeway.toFloat ↔ LeewayFits leeway := by
  cases leeway with
  | seconds value => exact iff_of_true (failsWith_ok _) trivial
  | timedelta micros => exact iff_of_true (failsWith_ok _) trivial
  | int value =>
      unfold Leeway.toFloat LeewayFits
      rw [clean_ite]
      by_cases fits : fitsFloat value = true
      · simp [fits]
      · refine iff_of_false (fun h => ?_) fits
        exact absurd (failsWith_error.mp (h.2 fits)) (by decide)

/-- The check of a time claim. -/
def validateTime (env : Env) (payload : Dict Json) (now : Rat) (leeway : Leeway)
    : TimeClaim → Outcome Unit
  | .iat => validateIat env payload now leeway
  | .nbf => validateNbf env payload now leeway
  | .exp => validateExp env payload now leeway

def TimeClaim.check : TimeClaim → ClaimCheck
  | .iat => .iat
  | .nbf => .nbf
  | .exp => .exp

/-- A check that is made only when the flag is set. -/
def checkWhen (flag : Bool) (check : Outcome Unit) : Outcome Unit :=
  if flag then check else .ok ()

/-- A conditional check is a stage of its own. -/
theorem checkWhen_bind (flag : Bool) (check : Outcome Unit) (next : Unit → Outcome Unit)
    : (checkWhen flag check >>= next) = if flag then check >>= next else next () := by
  cases flag <;> rfl

/-- One check after another passes when both do. -/
theorem check_bind_eq_ok {first : Outcome Unit} {next : Unit → Outcome Unit}
    : (first >>= next) = .ok () ↔ first = .ok () ∧ next () = .ok () := by
  cases first <;> simp

theorem checkWhen_eq_ok {flag : Bool} {check : Outcome Unit}
    : checkWhen flag check = .ok () ↔ (flag = true → check = .ok ()) := by
  cases flag <;> simp [checkWhen]

theorem failsWith_checkWhen {expected : PyError → Prop} {flag : Bool} {check : Outcome Unit}
    (h : FailsWith expected check)
    : FailsWith expected (checkWhen flag check) :=
  failsWith_ite.mpr ⟨fun _ => h, fun _ => failsWith_ok _⟩

/-- The check of a time claim where it is present and checked. -/
def timeStage (env : Env) (payload : Dict Json) (options : FullOptions) (now : Rat)
    (leeway : Leeway) (claim : TimeClaim)
    : Outcome Unit :=
  checkWhen (payload.contains claim.claimName && options.verify claim.check)
    (validateTime env payload now leeway claim)

/-- A time claim that is checked has a value that `int()` reads, and where that value is a
number the leeway fits.
-/
def TimeHandled (env : Env) (payload : Dict Json) (options : FullOptions)
    (leeway : Leeway) (claim : TimeClaim)
    : Prop :=
  ∀ value,
    payload.get? claim.claimName = some value
    → options.verify claim.check = true
    → IntReadable value ∧ ((∃ number, pyInt env value = .ok number) → LeewayFits leeway)

theorem intClaimError_own (claim : TimeClaim) : claim.intClaimError.isPyJWTError := by
  cases claim <;> rfl

/-- Reading a claim that is present converts it, or raises the claim's own error. -/
theorem coerceIntClaim_of_get? {payload : Dict Json} {claim : TimeClaim} {value : Json}
    (found : payload.get? claim.claimName = some value)
    : coerceIntClaim env payload claim
      = tryExcept (pyInt env value) [.valueError] (fun _ => .error claim.intClaimError) := by
  unfold coerceIntClaim getItem
  rw [found]
  rfl

/-- Reading, converting and comparing a present claim is clean exactly when its value is
readable and the leeway fits where it is added.
-/
theorem clean_compared {payload : Dict Json} {claim : TimeClaim} {value : Json}
    (found : payload.get? claim.claimName = some value) {leeway : Leeway}
    {verdict : Int → Rat → Outcome Unit} (h : ∀ number seconds, Clean (verdict number seconds))
    : Clean (do
          let number ← coerceIntClaim env payload claim
          let seconds ← leeway.toFloat
          verdict number seconds)
      ↔ IntReadable value ∧ ((∃ number, pyInt env value = .ok number) → LeewayFits leeway) := by
  have added (number : Int)
      : Clean (do
            let seconds ← leeway.toFloat
            verdict number seconds)
        ↔ LeewayFits leeway := by
    rw [clean_bind, clean_toFloat]
    exact and_iff_left (fun seconds _ => h number seconds)
  rw [coerceIntClaim_of_get? found, clean_bind,
    clean_tryExcept_raise (fun _ => intClaimError_own claim), failsOnly_pyInt]
  refine and_congr_right (fun _ => ?_)
  simp only [tryExcept_raise_eq_ok, added, forall_exists_index]

/-- A time claim is checked cleanly exactly when it is handled. -/
theorem clean_timeStage {payload : Dict Json} {options : FullOptions} {now : Rat}
    {leeway : Leeway} {claim : TimeClaim}
    : Clean (timeStage env payload options now leeway claim)
      ↔ TimeHandled env payload options leeway claim := by
  unfold timeStage checkWhen TimeHandled Dict.contains
  cases found : payload.get? claim.claimName with
  | none => simp
  | some value =>
      cases checked : options.verify claim.check with
      | false => simp
      | true =>
          simp only [Option.isSome_some, Bool.and_self, if_true, Option.some.injEq,
            forall_eq', true_imp_iff]
          cases claim with
          | iat =>
              exact clean_compared found (fun number seconds =>
                failsWith_ite.mpr ⟨fun _ => failsWith_error.mpr rfl, fun _ => failsWith_ok _⟩)
          | nbf =>
              exact clean_compared found (fun number seconds =>
                failsWith_ite.mpr ⟨fun _ => failsWith_error.mpr rfl, fun _ => failsWith_ok _⟩)
          | exp =>
              exact clean_compared found (fun number seconds =>
                failsWith_ite.mpr ⟨fun _ => failsWith_error.mpr rfl, fun _ => failsWith_ok _⟩)

-----------------------------------------------------------------------------------------
-- The claims that are no times
-----------------------------------------------------------------------------------------

/-- Looking for the required claims is clean, by induction on the list. -/
theorem clean_validateRequiredClaims (payload : Dict Json) (claims : List PyStr)
    : Clean (validateRequiredClaims payload claims) := by
  induction claims with
  | nil => exact failsWith_ok _
  | cons claim rest ih =>
      unfold validateRequiredClaims
      split
      · exact failsWith_error.mpr rfl
      · exact failsWith_error.mpr rfl
      · exact ih

/-- The errors of the claims that are no times. -/
def identityErrors : List ExcClass :=
  [
    .missingRequiredClaimError, .invalidIssuerError, .invalidAudienceError,
    .invalidSubjectError, .invalidJTIError
  ]

def IdentityFailure (error : PyError) : Prop := identityErrors.contains error.cls = true

theorem IdentityFailure.own {error : PyError} (h : IdentityFailure error)
    : error.isPyJWTError := by
  have own : ∀ cls ∈ identityErrors, cls.isSubclass .pyJWTError = true := by decide
  exact own error.cls (List.contains_iff_mem.mp h)

/-- Before the issuer is compared, it must be there and be a string. -/
theorem failsWith_presentIss (payload : Dict Json) {check : PyStr → Outcome Unit}
    (h : ∀ iss, FailsWith IdentityFailure (check iss))
    : FailsWith IdentityFailure (match payload.get? "iss" with
        | none => .error (validateRequiredClaims.missingRequiredClaim "iss")
        | some iss =>
            match iss.asStr? with
            | none =>
                .error
                  ⟨.invalidIssuerError, [.text "Payload Issuer (iss) must be a string"]⟩
            | some iss => check iss) := by
  split
  · exact failsWith_error.mpr rfl
  · split
    · exact failsWith_error.mpr rfl
    · exact h _

theorem failsWith_validateIss (payload : Dict Json) (issuer : IssuerArg)
    : FailsWith IdentityFailure (validateIss payload issuer) := by
  unfold validateIss
  cases issuer with
  | none => exact failsWith_ok _
  | str issuer =>
      exact failsWith_presentIss payload (fun _ =>
        failsWith_ite.mpr ⟨fun _ => failsWith_error.mpr rfl, fun _ => failsWith_ok _⟩)
  | container issuers =>
      exact failsWith_presentIss payload (fun _ =>
        failsWith_ite.mpr ⟨fun _ => failsWith_error.mpr rfl, fun _ => failsWith_ok _⟩)
  | other => exact failsWith_presentIss payload (fun _ => failsWith_error.mpr rfl)

theorem failsWith_validateAudStrict (audienceClaims : Json) (audience : Option PyStr)
    : FailsWith IdentityFailure (validateAudStrict audienceClaims audience) := by
  unfold validateAudStrict
  split
  · exact failsWith_error.mpr rfl
  · split
    · exact failsWith_ite.mpr ⟨fun _ => failsWith_error.mpr rfl, fun _ => failsWith_ok _⟩
    · exact failsWith_error.mpr rfl

/-- An audience that can be iterated is compared. -/
theorem failsWith_validateAudLenient (audienceClaims : Json) (audience : List PyStr)
    : FailsWith IdentityFailure (validateAudLenient audienceClaims (some audience)) := by
  have compared (claims : List PyStr)
      : FailsWith IdentityFailure (matchAudience (some audience) claims) :=
    failsWith_ite.mpr ⟨fun _ => failsWith_error.mpr rfl, fun _ => failsWith_ok _⟩
  unfold validateAudLenient
  split
  · exact compared _
  · split
    · exact compared _
    · exact failsWith_error.mpr rfl
  · exact failsWith_error.mpr rfl

theorem failsWith_validateAud (payload : Dict Json) {audience : AudienceArg}
    (accepted : audience ≠ .other) (strict : Bool)
    : FailsWith IdentityFailure (validateAud payload audience strict) := by
  have compared (audience : AudienceArg) {values : List PyStr}
      (isList : audience.values? = some values)
      : FailsWith IdentityFailure (if !(getOrNull payload "aud").truthy then
            .error (validateRequiredClaims.missingRequiredClaim "aud")
          else if strict then validateAudStrict (getOrNull payload "aud") audience.asStr?
          else validateAudLenient (getOrNull payload "aud") audience.values?) := by
    refine failsWith_ite.mpr ⟨fun _ => failsWith_error.mpr rfl, fun _ => ?_⟩
    refine failsWith_ite.mpr ⟨fun _ => failsWith_validateAudStrict _ _, fun _ => ?_⟩
    rw [isList]
    exact failsWith_validateAudLenient _ values
  cases audience with
  | none => exact failsWith_ite.mpr ⟨fun _ => failsWith_ok _, fun _ => failsWith_error.mpr rfl⟩
  | str value => exact compared (.str value) rfl
  | iterable values => exact compared (.iterable values) rfl
  | other => exact absurd rfl accepted

theorem failsWith_validateSub (payload : Dict Json) (subject : Option PyStr)
    : FailsWith IdentityFailure (validateSub payload subject) := by
  unfold validateSub
  split
  · exact failsWith_ok _
  · split
    · exact failsWith_error.mpr rfl
    · exact failsWith_ite.mpr ⟨fun _ => failsWith_error.mpr rfl, fun _ => failsWith_ok _⟩

theorem failsWith_validateJti (payload : Dict Json)
    : FailsWith IdentityFailure (validateJti payload) := by
  unfold validateJti
  split
  · exact failsWith_ok _
  · exact failsWith_ite.mpr ⟨fun _ => failsWith_error.mpr rfl, fun _ => failsWith_ok _⟩

/-- The checks that follow the time claims. -/
def identityStages (payload : Dict Json) (options : FullOptions) (expected : Expected)
    : Outcome Unit := do
  checkWhen (options.verify .iss) (validateIss payload expected.issuer)
  checkWhen (options.verify .aud) (validateAud payload expected.audience options.strictAud)
  checkWhen (options.verify .sub) (validateSub payload expected.subject)
  checkWhen (options.verify .jti) (validateJti payload)

theorem failsWith_identityStages {payload : Dict Json} {options : FullOptions}
    {expected : Expected} (accepted : expected.audience ≠ .other)
    : FailsWith IdentityFailure (identityStages payload options expected) := by
  refine failsWith_bind.mpr ⟨failsWith_checkWhen (failsWith_validateIss _ _), fun _ _ => ?_⟩
  refine failsWith_bind.mpr
    ⟨failsWith_checkWhen (failsWith_validateAud _ accepted _), fun _ _ => ?_⟩
  refine failsWith_bind.mpr ⟨failsWith_checkWhen (failsWith_validateSub _ _), fun _ _ => ?_⟩
  exact failsWith_checkWhen (failsWith_validateJti _)

/-- The validation, stage by stage. -/
theorem validateClaims_eq (payload : Dict Json) (options : FullOptions) (expected : Expected)
    (now : Rat)
    : validateClaims env payload options expected now
      = (do
          checkAudienceArg expected.audience
          validateRequiredClaims payload options.require
          timeStage env payload options now expected.leeway .iat
          timeStage env payload options now expected.leeway .nbf
          timeStage env payload options now expected.leeway .exp
          identityStages payload options expected) := by
  simp only [timeStage, identityStages, checkWhen_bind]
  rfl

/-- What passes before a time claim is checked: the required claims are there, and the claims
checked earlier are accepted.
-/
def PriorPass (env : Env) (payload : Dict Json) (options : FullOptions) (leeway : Leeway)
    (now : Rat)
    : TimeClaim → Prop
  | .iat => validateRequiredClaims payload options.require = .ok ()
  | .nbf =>
      validateRequiredClaims payload options.require = .ok ()
      ∧ timeStage env payload options now leeway .iat = .ok ()
  | .exp =>
      validateRequiredClaims payload options.require = .ok ()
      ∧ timeStage env payload options now leeway .iat = .ok ()
      ∧ timeStage env payload options now leeway .nbf = .ok ()

/-- Every time claim whose check is reached is handled. -/
def ClaimsHandled (env : Env) (payload : Dict Json) (options : FullOptions)
    (leeway : Leeway) (now : Rat)
    : Prop :=
  ∀ claim,
    PriorPass env payload options leeway now claim
    → TimeHandled env payload options leeway claim

/-- A `str`, an iterable or no audience passes the first test. -/
theorem checkAudienceArg_ok {audience : AudienceArg} (accepted : audience ≠ .other)
    : checkAudienceArg audience = .ok () := by
  cases audience with
  | other => exact absurd rfl accepted
  | none | str _ | iterable _ => rfl

/-- Claims are validated cleanly exactly when the time claims are handled. -/
theorem clean_validateClaims {payload : Dict Json} {options : FullOptions}
    {expected : Expected} {now : Rat} (accepted : expected.audience ≠ .other)
    : Clean (validateClaims env payload options expected now)
      ↔ ClaimsHandled env payload options expected.leeway now := by
  have identity : Clean (identityStages payload options expected) :=
    fun error failed => (failsWith_identityStages accepted error failed).own
  rw [validateClaims_eq, checkAudienceArg_ok accepted, outcome_ok_bind]
  simp only [clean_bind, clean_validateRequiredClaims, true_and, clean_timeStage, identity,
    implies_true, and_true]
  constructor
  · intro h claim prior
    cases claim with
    | iat => exact (h () prior).1
    | nbf => exact ((h () prior.1).2 () prior.2).1
    | exp => exact ((h () prior.1).2 () prior.2.1).2 () prior.2.2
  · intro h _ required
    exact ⟨h .iat required, fun _ iat => ⟨h .nbf ⟨required, iat⟩, fun _ nbf =>
      h .exp ⟨required, iat, nbf⟩⟩⟩

-----------------------------------------------------------------------------------------
-- The error of a claim that is not a number
-----------------------------------------------------------------------------------------

/-- The errors of a time claim's check, besides the one for a value that is no number. -/
def timeErrors : List ExcClass :=
  [
    .keyError, .typeError, .overflowError, .immatureSignatureError, .expiredSignatureError
  ]

def TimeFailure (claim : TimeClaim) (error : PyError) : Prop :=
  error = claim.intClaimError ∨ timeErrors.contains error.cls = true

/-- The errors for values that are no numbers tell the claims apart. -/
theorem intClaimError_injective {claim other : TimeClaim}
    (h : claim.intClaimError = other.intClaimError)
    : claim = other := by
  cases claim <;> cases other <;> simp [TimeClaim.intClaimError] at h ⊢

theorem intClaimError_not_timeErrors (claim : TimeClaim)
    : timeErrors.contains claim.intClaimError.cls = false := by
  cases claim <;> rfl

theorem intClaimError_not_identityErrors (claim : TimeClaim)
    : identityErrors.contains claim.intClaimError.cls = false := by
  cases claim <;> rfl

/-- Adding the leeway and comparing fails as a time claim may, but not as a non-number does. -/
theorem failsWith_compare {leeway : Leeway} {verdict : Rat → Outcome Unit}
    (h : ∀ seconds, FailsWith (fun error => timeErrors.contains error.cls = true)
      (verdict seconds))
    : FailsWith (fun error => timeErrors.contains error.cls = true)
      (leeway.toFloat >>= verdict) := by
  refine failsWith_bind.mpr ⟨?_, fun seconds _ => h seconds⟩
  cases leeway with
  | seconds value => exact failsWith_ok _
  | timedelta micros => exact failsWith_ok _
  | int value =>
      simp only [Leeway.toFloat]
      split
      · exact failsWith_ok _
      · exact failsWith_error.mpr rfl

/-- What a check does once its claim is read as a number. -/
def compareTime (now : Rat) (leeway : Leeway) : TimeClaim → Int → Outcome Unit
  | .iat, number => do
      if (number : Rat) > now + (← leeway.toFloat) then
        .error ⟨.immatureSignatureError, [.text "The token is not yet valid (iat)"]⟩
  | .nbf, number => do
      if (number : Rat) > now + (← leeway.toFloat) then
        .error ⟨.immatureSignatureError, [.text "The token is not yet valid (nbf)"]⟩
  | .exp, number => do
      if (number : Rat) ≤ now - (← leeway.toFloat) then
        .error ⟨.expiredSignatureError, [.text "Signature has expired"]⟩

theorem validateTime_eq (payload : Dict Json) (now : Rat) (leeway : Leeway) (claim : TimeClaim)
    : validateTime env payload now leeway claim
      = (coerceIntClaim env payload claim >>= compareTime now leeway claim) := by
  cases claim <;> rfl

theorem failsWith_compareTime (now : Rat) (leeway : Leeway) (claim : TimeClaim) (number : Int)
    : FailsWith (fun error => timeErrors.contains error.cls = true)
      (compareTime now leeway claim number) := by
  cases claim with
  | iat | nbf | exp =>
      simp only [compareTime]
      refine failsWith_compare (fun seconds => ?_)
      exact failsWith_ite.mpr ⟨fun _ => failsWith_error.mpr rfl, fun _ => failsWith_ok _⟩

/-- Reading a claim fails with its own error, or because it is missing or no number at all. -/
theorem failsWith_coerceIntClaim (payload : Dict Json) (claim : TimeClaim)
    : FailsWith (TimeFailure claim) (coerceIntClaim env payload claim) := by
  have converted (value : Json)
      : FailsWith (TimeFailure claim)
        (tryExcept (pyInt env value) [.valueError] (fun _ => .error claim.intClaimError)) := by
    cases value with
    | null | list _ | dict _ => exact failsWith_error.mpr (Or.inr rfl)
    | bool _ | int _ => exact failsWith_ok _
    | float value =>
        cases value with
        | finite _ => exact failsWith_ok _
        | posInf | negInf => exact failsWith_error.mpr (Or.inr rfl)
        | nan => exact failsWith_error.mpr (Or.inl rfl)
    | str text =>
        simp only [pyInt]
        split
        · exact failsWith_ok _
        · exact failsWith_error.mpr (Or.inl rfl)
  unfold coerceIntClaim getItem
  refine failsWith_bind.mpr ⟨?_, fun value _ => converted value⟩
  split
  · exact failsWith_ok _
  · exact failsWith_error.mpr (Or.inr rfl)

theorem failsWith_timeStage (payload : Dict Json) (options : FullOptions) (now : Rat)
    (leeway : Leeway) (claim : TimeClaim)
    : FailsWith (TimeFailure claim) (timeStage env payload options now leeway claim) := by
  refine failsWith_checkWhen ?_
  rw [validateTime_eq]
  exact failsWith_bind.mpr ⟨failsWith_coerceIntClaim payload claim, fun number _ error failed =>
    Or.inr (failsWith_compareTime now leeway claim number error failed)⟩

/-- What follows and cannot raise an error leaves that error to the first stage. -/
theorem bind_eq_error_iff {α β : Type} {first : Outcome α} {next : α → Outcome β}
    {target : PyError} (h : ∀ value, FailsWith (· ≠ target) (next value))
    : (first >>= next) = .error target ↔ first = .error target := by
  cases first with
  | ok value =>
      simp only [outcome_ok_bind, reduceCtorEq, iff_false]
      intro failed
      exact h value target failed rfl
  | error error => simp

/-- The check of another claim does not raise this claim's error. -/
theorem ne_of_timeFailure {claim other : TimeClaim} (h : claim ≠ other) {error : PyError}
    (failed : TimeFailure other error)
    : error ≠ claim.intClaimError := by
  intro same
  subst same
  rcases failed with same | listed
  · exact h (intClaimError_injective same)
  · rw [intClaimError_not_timeErrors] at listed
    cases listed

theorem ne_of_identityFailure (claim : TimeClaim) {error : PyError}
    (failed : IdentityFailure error)
    : error ≠ claim.intClaimError := by
  intro same
  subst same
  unfold IdentityFailure at failed
  rw [intClaimError_not_identityErrors] at failed
  cases failed

/-- Where a claim is checked, the validation raises the claim's error exactly when reading the
claim does.
-/
theorem validateClaims_eq_intClaimError {payload : Dict Json} {options : FullOptions}
    {expected : Expected} {now : Rat} (accepted : expected.audience ≠ .other)
    {claim : TimeClaim} (prior : PriorPass env payload options expected.leeway now claim)
    (present : payload.contains claim.claimName = true)
    (checked : options.verify claim.check = true)
    : validateClaims env payload options expected now = .error claim.intClaimError
      ↔ coerceIntClaim env payload claim = .error claim.intClaimError := by
  have identity : FailsWith (· ≠ claim.intClaimError) (identityStages payload options expected) :=
    fun error failed => ne_of_identityFailure claim
      (failsWith_identityStages accepted error failed)
  have others {other : TimeClaim} (h : claim ≠ other)
      : FailsWith (· ≠ claim.intClaimError)
        (timeStage env payload options now expected.leeway other) :=
    fun error failed => ne_of_timeFailure h
      (failsWith_timeStage payload options now expected.leeway other error failed)
  have own : timeStage env payload options now expected.leeway claim
        = .error claim.intClaimError
      ↔ coerceIntClaim env payload claim = .error claim.intClaimError := by
    unfold timeStage checkWhen
    rw [present, checked, Bool.and_self, if_pos rfl, validateTime_eq]
    refine bind_eq_error_iff (fun number error failed same => ?_)
    have listed := failsWith_compareTime now expected.leeway claim number error failed
    subst same
    rw [intClaimError_not_timeErrors] at listed
    cases listed
  rw [← own, validateClaims_eq, checkAudienceArg_ok accepted, outcome_ok_bind]
  cases claim with
  | iat =>
      rw [show validateRequiredClaims payload options.require = .ok () from prior,
        outcome_ok_bind]
      exact bind_eq_error_iff (fun _ => failsWith_bind.mpr ⟨others (by decide), fun _ _ =>
        failsWith_bind.mpr ⟨others (by decide), fun _ _ => identity⟩⟩)
  | nbf =>
      rw [prior.1, outcome_ok_bind, prior.2, outcome_ok_bind]
      exact bind_eq_error_iff (fun _ => failsWith_bind.mpr ⟨others (by decide), fun _ _ =>
        identity⟩)
  | exp =>
      rw [prior.1, outcome_ok_bind, prior.2.1, outcome_ok_bind, prior.2.2, outcome_ok_bind]
      exact bind_eq_error_iff (fun _ => identity)

/-- The value is no number. -/
def notNumber : Json → Bool
  | .int _ | .float _ => false
  | .null | .bool _ | .str _ | .list _ | .dict _ => true

/-- Of the values that are no numbers, exactly the texts that `int()` refuses get the claim's
error.
-/
theorem coerceIntClaim_eq_intClaimError {payload : Dict Json} {claim : TimeClaim}
    {value : Json} (found : payload.get? claim.claimName = some value)
    (noNumber : notNumber value = true)
    : coerceIntClaim env payload claim = .error claim.intClaimError
      ↔ ∃ text, value = .str text ∧ env.intOfStr text = none := by
  have typeError (message : List MessagePart)
      : (⟨.typeError, message⟩ : PyError) ≠ claim.intClaimError := by
    cases claim <;> simp [TimeClaim.intClaimError]
  rw [coerceIntClaim_of_get? found]
  cases value with
  | int _ | float _ => cases noNumber
  | bool _ => simp [pyInt]
  | null =>
      simp only [reduceCtorEq, false_and, exists_false, iff_false]
      intro same
      exact typeError _ (Except.error.inj same)
  | list _ =>
      simp only [reduceCtorEq, false_and, exists_false, iff_false]
      intro same
      exact typeError _ (Except.error.inj same)
  | dict _ =>
      simp only [reduceCtorEq, false_and, exists_false, iff_false]
      intro same
      exact typeError _ (Except.error.inj same)
  | str text =>
      simp only [Json.str.injEq, pyInt, exists_eq_left']
      cases read : env.intOfStr text with
      | some number => simp
      | none => exact iff_of_true rfl rfl

end PyJWT

end PyJwt
