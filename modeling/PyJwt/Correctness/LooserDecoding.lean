import PyJwt.Correctness.IdentityClaims
import PyJwt.Correctness.IssuedClaims
import PyJwt.Correctness.Lifetime
import PyJwt.Correctness.VerifiedDecoding

/-! Stricter and looser decodes. Whoever asks for less is given the same claims: no option, no
list and no leeway makes a decode return something else, only more often.
-/

namespace PyJwt

open Foundations
open Python

variable {env : Env}

-----------------------------------------------------------------------------------------
-- Policies
-----------------------------------------------------------------------------------------

/-- What a decode is given besides the token, its key and payload, and the clock. -/
structure Policy where
  jwt : PyJWT
  algorithms : Option (List PyStr)
  options : Option Options
  expected : PyJWT.Expected

namespace Policy

def decode (env : Env) (policy : Policy) (token : TextArg) (key : KeyArg)
    (detachedPayload : Option Bytes) (now : Rat)
    : Run (Dict Json) :=
  policy.jwt.decode env token key policy.algorithms policy.options detachedPayload
    policy.expected now

/-- The options in force. -/
def merged (policy : Policy) : FullOptions :=
  PyJWT.mergeOptions policy.jwt.options policy.options

/-- The signature is verified. -/
def verifies (policy : Policy) : Bool := PyJWT.signatureFlag policy.options

/-- Whichever audience is asked for still is, among others where the comparison is lenient. -/
def LooserAudience (lenient : Prop) (audience looser : PyJWT.AudienceArg) : Prop :=
  looser = audience
  ∨ lenient
    ∧ audience ≠ .none
    ∧ ∀ name, PyJWT.AudienceAsks audience name → PyJWT.AudienceAsks looser name

/-- Whichever issuer is asked for still is, or none is. -/
def LooserIssuer (issuer looser : PyJWT.IssuerArg) : Prop :=
  looser = .none
  ∨ issuer ≠ .none
    ∧ ∀ name, PyJWT.IssuerAsks issuer name → PyJWT.IssuerAsks looser name

/-- What a looser signature check lacks: it knows more algorithms, allows more of them, and
enforces a key length only where the stricter one does.
-/
structure LooserSignature (key : KeyArg) (strict loose : Policy) : Prop where
  verifies : strict.verifies = true
  registry : ∀ name handler,
    strict.jwt.jws.algorithms.get? name = some handler
    → loose.jwt.jws.algorithms.get? name = some handler
  algorithms : ∀ names,
    PyJWS.effectiveAlgorithms key strict.algorithms = some names
    → ∃ more, PyJWS.effectiveAlgorithms key loose.algorithms = some more ∧ names ⊆ more
  length : loose.jwt.jws.options.enforceMinimumKeyLength = true
    → strict.jwt.jws.options.enforceMinimumKeyLength = true

/-- The one policy asks for nothing that the other does not. -/
structure Loosens (key : KeyArg) (strict loose : Policy) : Prop where
  signature : loose.verifies = true → LooserSignature key strict loose
  require : loose.merged.require ⊆ strict.merged.require
  checks : ∀ check, loose.merged.verify check = true → strict.merged.verify check = true
  strictAud : loose.merged.strictAud = true → strict.merged.strictAud = true
  leeway : ∀ seconds,
    strict.expected.leeway.toFloat = .ok seconds
    → ∃ longer, loose.expected.leeway.toFloat = .ok longer ∧ seconds ≤ longer
  audienceArg : strict.expected.audience ≠ .other → loose.expected.audience ≠ .other
  audience : loose.merged.verify .aud = true
    → LooserAudience (loose.merged.strictAud = false) strict.expected.audience
        loose.expected.audience
  issuer : loose.merged.verify .iss = true
    → LooserIssuer strict.expected.issuer loose.expected.issuer
  subject : ∀ asked ∈ loose.expected.subject, asked ∈ strict.expected.subject

variable {key : KeyArg} {strict loose : Policy}

-----------------------------------------------------------------------------------------
-- Claims
-----------------------------------------------------------------------------------------

theorem audienceMatches_looser {payload : Dict Json} {audience looser : PyJWT.AudienceArg}
    {strictly less : Bool} (tightens : less = true → strictly = true)
    (looserAudience : LooserAudience (less = false) audience looser)
    (h : PyJWT.AudienceMatches payload audience strictly)
    : PyJWT.AudienceMatches payload looser less := by
  rcases looserAudience with rfl | ⟨lenient, isSome, asks⟩
  · exact h.lenient tightens
  · rcases h.lenient tightens with ⟨none, _⟩ | ⟨_, name, named, asked⟩
      | ⟨name, nonempty, claim, rfl⟩
    · exact absurd none isSome
    · exact Or.inr (Or.inl ⟨lenient, name, named, asks name asked⟩)
    · exact Or.inr (Or.inl ⟨lenient, name, Or.inl ⟨claim, nonempty⟩, asks name (Or.inl rfl)⟩)

theorem issuerMatches_looser {payload : Dict Json} {issuer looser : PyJWT.IssuerArg}
    (looserIssuer : LooserIssuer issuer looser) (h : PyJWT.IssuerMatches payload issuer)
    : PyJWT.IssuerMatches payload looser := by
  rcases looserIssuer with none | ⟨isSome, asks⟩
  · exact Or.inl none
  · rcases h with none | ⟨name, claim, asked⟩
    · exact absurd none isSome
    · exact Or.inr ⟨name, claim, asks name asked⟩

/-- A time claim that passes still does under a longer leeway, or without its check. -/
theorem timeStage_looser (loosens : Loosens key strict loose) {payload : Dict Json} {now : Rat}
    {claim : PyJWT.TimeClaim}
    (passes : PyJWT.timeStage env payload strict.merged now strict.expected.leeway claim = .ok ())
    : PyJWT.timeStage env payload loose.merged now loose.expected.leeway claim = .ok () := by
  simp only [PyJWT.timeStage, PyJWT.checkWhen_eq_ok, PyJWT.validateTime_eq, Bool.and_eq_true,
    outcome_bind_eq_ok, PyJWT.compareTime_eq_ok] at passes ⊢
  intro h
  obtain ⟨present, checked⟩ := h
  obtain ⟨whole, reads, seconds, isLeeway, inside⟩ := passes ⟨present, loosens.checks _ checked⟩
  obtain ⟨longer, isLonger, le⟩ := loosens.leeway seconds isLeeway
  refine ⟨whole, reads, longer, isLonger, ?_⟩
  cases claim with
  | iat | nbf =>
      simp only [PyJWT.TimeClaim.InWindow] at inside ⊢
      linarith
  | exp =>
      simp only [PyJWT.TimeClaim.InWindow] at inside ⊢
      linarith

/-- The audience that was asked for is one that the validation accepts. -/
theorem accepted_of_checkAudienceArg {audience : PyJWT.AudienceArg}
    (h : PyJWT.checkAudienceArg audience = .ok ())
    : audience ≠ .other := by
  rintro rfl
  cases h

/-- Claims that pass the stricter validation pass the looser one. -/
theorem validateClaims_looser (loosens : Loosens key strict loose) {payload : Dict Json}
    {now : Rat}
    (passes : PyJWT.validateClaims env payload strict.merged strict.expected now = .ok ())
    : PyJWT.validateClaims env payload loose.merged loose.expected now = .ok () := by
  simp only [PyJWT.validateClaims_eq, PyJWT.check_bind_eq_ok, PyJWT.identityStages,
    PyJWT.checkWhen_eq_ok] at passes ⊢
  obtain ⟨isAudience, required, iat, nbf, exp, iss, aud, sub, jti⟩ := passes
  have accepted := accepted_of_checkAudienceArg isAudience
  refine ⟨PyJWT.checkAudienceArg_ok (loosens.audienceArg accepted), ?_,
    timeStage_looser loosens iat, timeStage_looser loosens nbf, timeStage_looser loosens exp,
    ?_, ?_, ?_, ?_⟩
  · rw [PyJWT.validateRequiredClaims_eq_ok] at required ⊢
    intro claim asked
    exact required claim (loosens.require asked)
  · intro checked
    have matched := PyJWT.validateIss_eq_ok.mp (iss (loosens.checks _ checked))
    exact PyJWT.validateIss_eq_ok.mpr (issuerMatches_looser (loosens.issuer checked) matched)
  · intro checked
    have matched := (PyJWT.validateAud_eq_ok accepted).mp (aud (loosens.checks _ checked))
    exact (PyJWT.validateAud_eq_ok (loosens.audienceArg accepted)).mpr
      (audienceMatches_looser loosens.strictAud (loosens.audience checked) matched)
  · intro checked
    have matched := PyJWT.validateSub_eq_ok.mp (sub (loosens.checks _ checked))
    refine PyJWT.validateSub_eq_ok.mpr (fun value found => ?_)
    obtain ⟨name, isName, same⟩ := matched value found
    exact ⟨name, isName, fun asked member => same asked (loosens.subject asked member)⟩
  · intro checked
    exact jti (loosens.checks _ checked)

-----------------------------------------------------------------------------------------
-- Signatures
-----------------------------------------------------------------------------------------

/-- A call lists algorithms exactly when its list is there and not empty. -/
theorem listsAlgorithms_iff {algorithms : Option (List PyStr)}
    : listsAlgorithms algorithms = true ↔ ∃ names, algorithms = some names ∧ names ≠ [] := by
  cases algorithms <;> simp [listsAlgorithms]

theorem effectiveAlgorithms_raw {arg : Key} {algorithms : Option (List PyStr)}
    : PyJWS.effectiveAlgorithms (.raw arg) algorithms = algorithms := by
  cases algorithms <;> rfl

/-- A call that names algorithms still does when it names more. -/
theorem LooserSignature.names (signature : LooserSignature key strict loose)
    (named : PyJWS.NamesAlgorithms key strict.algorithms)
    : PyJWS.NamesAlgorithms key loose.algorithms := by
  cases key with
  | jwk jwk => exact Or.inr rfl
  | raw arg =>
      rcases named with lists | impossible
      · obtain ⟨names, isNames, nonempty⟩ := listsAlgorithms_iff.mp lists
        obtain ⟨more, isMore, subset⟩ :=
          signature.algorithms names (effectiveAlgorithms_raw.trans isNames)
        rw [effectiveAlgorithms_raw] at isMore
        refine Or.inl (listsAlgorithms_iff.mpr ⟨more, isMore, ?_⟩)
        rintro rfl
        exact nonempty (List.subset_nil.mp subset)
      · cases impossible

/-- A call that names algorithms allows only listed ones. -/
theorem effectiveAlgorithms_of_names {algorithms : Option (List PyStr)}
    (named : PyJWS.NamesAlgorithms key algorithms)
    : ∃ names, PyJWS.effectiveAlgorithms key algorithms = some names := by
  cases key with
  | jwk jwk => cases algorithms <;> exact ⟨_, rfl⟩
  | raw arg =>
      rcases named with lists | impossible
      · obtain ⟨names, isNames, _⟩ := listsAlgorithms_iff.mp lists
        exact ⟨names, effectiveAlgorithms_raw.trans isNames⟩
      · cases impossible

/-- A signature that the stricter check accepts is accepted by the looser one. -/
theorem LooserSignature.accepts (signature : LooserSignature key strict loose)
    {signingInput : Bytes} {header : Dict Json} {crypto : Bytes} {alg : Json}
    {algObj : Algorithm} {prepared : Key}
    (named : PyJWS.NamesAlgorithms key strict.algorithms)
    (verified : PyJWS.Verifies env strict.jwt.jws signingInput header crypto key
      strict.algorithms alg algObj prepared)
    : PyJWS.Verifies env loose.jwt.jws signingInput header crypto key loose.algorithms alg
        algObj prepared where
  allowed := by
    obtain ⟨names, areNames⟩ := effectiveAlgorithms_of_names named
    obtain ⟨more, areMore, subset⟩ := signature.algorithms names areNames
    have allowed := verified.allowed
    rw [areNames, PyJWS.allowedAlg_eq_ok] at allowed
    obtain ⟨stated, isTrue, listed⟩ := allowed
    rw [areMore, PyJWS.allowedAlg_eq_ok]
    refine ⟨stated, isTrue, ?_⟩
    intro names' same
    cases same
    obtain ⟨name, member, isName⟩ := listed names rfl
    exact ⟨name, subset member, isName⟩
  chosen := by
    have chosen := verified.chosen
    cases key with
    | jwk jwk => exact chosen
    | raw arg =>
        obtain ⟨names, areNames⟩ := effectiveAlgorithms_of_names named
        have allowed := verified.allowed
        rw [areNames, PyJWS.allowedAlg_eq_ok] at allowed
        obtain ⟨name, _, rfl⟩ := allowed.2.2 names rfl
        simp only [PyJWS.verifyingAlgorithm, tryExcept_raise_eq_ok,
          PyJWS.getAlgorithmByName_str_eq_ok] at chosen ⊢
        exact signature.registry name algObj chosen
  prepares := verified.prepares
  length := by
    obtain ⟨message, isMessage, absent | lenient⟩ := verified.length
    · exact ⟨message, isMessage, Or.inl absent⟩
    · refine ⟨message, isMessage, Or.inr ?_⟩
      rw [← Bool.not_eq_true] at lenient ⊢
      exact mt signature.length lenient
  accepts := verified.accepts

end Policy

-----------------------------------------------------------------------------------------
-- Decodes
-----------------------------------------------------------------------------------------

/-- Whatever a decode returns, a decode that asks for less returns as well. -/
theorem Policy.Loosens.returns {key : KeyArg} {strict loose : Policy}
    (loosens : Policy.Loosens key strict loose) (env : Env) (token : TextArg)
    (detachedPayload : Option Bytes) (now : Rat) (claims : Dict Json)
    (returned : (strict.decode env token key detachedPayload now).result = .ok claims)
    : (loose.decode env token key detachedPayload now).result = .ok claims := by
  obtain ⟨inner, opened, reads, valid⟩ := PyJWT.decode_result_eq_ok.mp returned
  refine PyJWT.decode_result_eq_ok.mpr
    ⟨inner, ?_, reads, Policy.validateClaims_looser loosens valid⟩
  obtain ⟨segments, loaded, signingInput, opens, sameHeader, sameSignature, verified⟩ :=
    PyJWS.decodeComplete_eq_ok.mp opened
  refine PyJWS.decodeComplete_eq_ok.mpr
    ⟨segments, loaded, signingInput, opens, sameHeader, sameSignature, ?_⟩
  intro verifies
  have looser := loosens.signature verifies
  obtain ⟨named, alg, algObj, prepared, accepted⟩ := verified looser.verifies
  exact ⟨looser.names named, alg, algObj, prepared, looser.accepts named accepted⟩

-----------------------------------------------------------------------------------------
-- Policies that ask for less
-----------------------------------------------------------------------------------------

/-- The same call with `verify_signature` off. -/
def Policy.unverified (policy : Policy) : Policy :=
  { policy with options := some { policy.options.getD {} with verifySignature := some false } }

/-- An option that the call gives is the one in force, whether or not it verifies. -/
theorem Policy.merged_unverified (policy : Policy)
    : policy.unverified.merged.require = policy.merged.require
      ∧ policy.unverified.merged.strictAud = policy.merged.strictAud
      ∧ ∀ check,
          policy.unverified.merged.verify check = true
          → policy.merged.verify check = true := by
  obtain ⟨jwt, algorithms, options, expected⟩ := policy
  cases options with
  | none => exact ⟨rfl, rfl, nofun⟩
  | some options =>
      simp only [Policy.merged, Policy.unverified, PyJWT.mergeOptions, Option.getD_some,
        Bool.not_false, if_true, FullOptions.update, PyJWT.unverifiedDefaults, Option.getD_none]
      split
      · exact ⟨rfl, rfl, fun _ => id⟩
      · refine ⟨rfl, rfl, ?_⟩
        intro check
        dsimp only
        cases options.verify check with
        | none =>
            intro impossible
            exact absurd impossible Bool.false_ne_true
        | some given => exact id

/-- Not verifying the signature asks for less. -/
theorem Policy.loosens_unverified (key : KeyArg) (policy : Policy)
    : policy.Loosens key policy.unverified where
  signature verifies := by cases verifies
  require _ := by
    rw [policy.merged_unverified.1]
    exact id
  checks := policy.merged_unverified.2.2
  strictAud := policy.merged_unverified.2.1.symm.trans
  leeway seconds isLeeway := ⟨seconds, isLeeway, le_rfl⟩
  audienceArg := id
  audience _ := Or.inl rfl
  issuer _ := by
    by_cases none : policy.expected.issuer = .none
    · exact Or.inl none
    · exact Or.inr ⟨none, fun _ => id⟩
  subject _ := id

def strictPolicy : Policy where
  jwt := PyJWT.init claimsEnv none
  algorithms := some ["HS256"]
  options := none
  expected := ⟨.none, .str "joe", none, .seconds 0⟩

/-- Claims issued by `joe`, under whichever of two algorithms, and a minute late at most. -/
def lenientPolicy : Policy where
  jwt := PyJWT.init claimsEnv none
  algorithms := some ["HS512", "HS256"]
  options := some { verify := fun check => if check = .jti then some false else none }
  expected := ⟨.none, .container ["ann", "joe"], none, .seconds 60⟩

theorem strictPolicy_loosens
    : strictPolicy.Loosens (.raw (.bytes (ascii "kk"))) lenientPolicy where
  signature _ := {
    verifies := rfl
    registry := fun _ _ => id
    algorithms := fun names same => by
      cases same
      exact ⟨_, rfl, by simp⟩
    length := id
  }
  require _ asked := by cases asked
  checks _ _ := rfl
  strictAud strictly := by cases strictly
  leeway seconds isLeeway := by
    cases isLeeway
    exact ⟨60, rfl, by norm_num⟩
  audienceArg _ := by
    intro impossible
    cases impossible
  audience _ := Or.inl rfl
  issuer _ := by
    refine Or.inr ⟨nofun, ?_⟩
    intro name asks
    rcases asks with same | ⟨_, impossible, _⟩
    · cases same
      exact Or.inr ⟨_, rfl, by simp⟩
    · cases impossible
  subject _ asked := by cases asked

theorem strictPolicy_returns
    : ∃ claims,
        (strictPolicy.decode claimsEnv (.bytes issuedToken) (.raw (.bytes (ascii "kk"))) none
            3599).result
          = .ok claims := by
  obtain ⟨claims, returned, _⟩ := of_returnsWith
    (by decide +kernel : returnsWith (fun _ => true)
      ((PyJWT.init claimsEnv none).decode claimsEnv (.bytes issuedToken)
        (.raw (.bytes (ascii "kk"))) (some ["HS256"]) none none
        ⟨.none, .str "joe", none, .seconds 0⟩ 3599).result = true)
  exact ⟨claims, returned⟩

/-- A token that passes the strict policy passes the lenient one, and unverified. -/
theorem Policy.Loosens.returns_lenient
    : ∃ claims,
        (strictPolicy.decode claimsEnv (.bytes issuedToken) (.raw (.bytes (ascii "kk"))) none
            3599).result
          = .ok claims
        ∧ (lenientPolicy.decode claimsEnv (.bytes issuedToken) (.raw (.bytes (ascii "kk")))
            none 3599).result
          = .ok claims
        ∧ (strictPolicy.unverified.decode claimsEnv (.bytes issuedToken)
            (.raw (.bytes (ascii "kk"))) none 3599).result
          = .ok claims := by
  obtain ⟨claims, returned⟩ := strictPolicy_returns
  exact ⟨claims, returned,
    strictPolicy_loosens.returns claimsEnv (.bytes issuedToken) none 3599 claims returned,
    (strictPolicy.loosens_unverified _).returns claimsEnv (.bytes issuedToken) none 3599 claims
      returned⟩

end PyJwt
