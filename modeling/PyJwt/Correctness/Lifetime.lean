import PyJwt.Correctness.TimeWindow

/-! When a token is accepted. Whatever else a decode is given, the moments at which it returns are
one stretch of time, which the leeway widens at both ends.
-/

namespace PyJwt

open Foundations
open Python

variable {env : Env}

-----------------------------------------------------------------------------------------
-- Stretches of time
-----------------------------------------------------------------------------------------

/-- From when and until when a token is accepted, where there are bounds. -/
structure Lifetime where
  start : Option Int
  stop : Option Int

/-- A leeway of so many seconds lets the token pass at `now`. -/
structure Lifetime.Admits (lifetime : Lifetime) (seconds now : Rat) : Prop where
  begun : ∀ whole ∈ lifetime.start, (whole : Rat) ≤ now + seconds
  lasting : ∀ whole ∈ lifetime.stop, now - seconds < whole

/-- A longer leeway rejects nothing that a shorter one accepts. -/
theorem Lifetime.Admits.widen {lifetime : Lifetime} {seconds longer now : Rat}
    (h : lifetime.Admits seconds now) (le : seconds ≤ longer)
    : lifetime.Admits longer now where
  begun whole member := (h.begun whole member).trans (by linarith)
  lasting whole member := (by linarith : now - longer ≤ now - seconds).trans_lt
    (h.lasting whole member)

/-- What is accepted at two moments is accepted between them. -/
theorem Lifetime.Admits.between {lifetime : Lifetime} {seconds early now late : Rat}
    (first : lifetime.Admits seconds early) (last : lifetime.Admits seconds late)
    (after : early ≤ now) (before : now ≤ late)
    : lifetime.Admits seconds now where
  begun whole member := (first.begun whole member).trans (by linarith)
  lasting whole member := (by linarith : now - seconds ≤ late - seconds).trans_lt
    (last.lasting whole member)

-----------------------------------------------------------------------------------------
-- The time claims
-----------------------------------------------------------------------------------------

namespace PyJWT

/-- A time claim is refused at every moment, or bounds the moments at which it passes. -/
theorem timeStage_bound (env : Env) (payload : Dict Json) (options : FullOptions)
    (claim : TimeClaim)
    : (∀ now leeway, timeStage env payload options now leeway claim ≠ .ok ())
      ∨ ∃ bound : Option Int, ∀ now leeway seconds,
          leeway.toFloat = .ok seconds
          → (timeStage env payload options now leeway claim = .ok ()
            ↔ ∀ whole ∈ bound, claim.InWindow now seconds whole) := by
  cases checked : payload.contains claim.claimName && options.verify claim.check with
  | false =>
      refine Or.inr ⟨none, ?_⟩
      intro now leeway seconds _
      simp [timeStage, checked, checkWhen]
  | true =>
      simp only [timeStage, checked, checkWhen, if_true, validateTime_eq]
      cases reads : coerceIntClaim env payload claim with
      | error error =>
          refine Or.inl ?_
          intro now leeway passes
          cases passes
      | ok whole =>
          refine Or.inr ⟨some whole, ?_⟩
          intro now leeway seconds isLeeway
          simp [compareTime_eq_ok, isLeeway]

/-- The later of two bounds holds exactly when both do. -/
theorem forall_mem_later {first second : Option Int} {limit : Rat}
    : (∀ whole ∈ first.merge max second, (whole : Rat) ≤ limit)
      ↔ (∀ whole ∈ first, (whole : Rat) ≤ limit) ∧ ∀ whole ∈ second, (whole : Rat) ≤ limit := by
  cases first <;> cases second <;> simp [Option.merge]

/-- The claims are refused at every moment, or pass for a lifetime. -/
theorem validateClaims_lifetime (env : Env) (payload : Dict Json) (options : FullOptions)
    (audience : AudienceArg) (issuer : IssuerArg) (subject : Option PyStr)
    : (∀ now leeway,
        validateClaims env payload options ⟨audience, issuer, subject, leeway⟩ now ≠ .ok ())
      ∨ ∃ lifetime : Lifetime, ∀ now leeway seconds,
          leeway.toFloat = .ok seconds
          → (validateClaims env payload options ⟨audience, issuer, subject, leeway⟩ now = .ok ()
            ↔ lifetime.Admits seconds now) := by
  have stages (now : Rat) (leeway : Leeway)
      : validateClaims env payload options ⟨audience, issuer, subject, leeway⟩ now = .ok ()
        ↔ (checkAudienceArg audience = .ok ()
            ∧ validateRequiredClaims payload options.require = .ok ()
            ∧ identityStages payload options ⟨audience, issuer, subject, .int 0⟩ = .ok ())
          ∧ ∀ claim, timeStage env payload options now leeway claim = .ok () := by
    have same : identityStages payload options ⟨audience, issuer, subject, leeway⟩
        = identityStages payload options ⟨audience, issuer, subject, .int 0⟩ :=
      rfl
    rw [validateClaims_eq]
    simp only [check_bind_eq_ok, same]
    constructor
    · intro h
      obtain ⟨accepted, required, iat, nbf, exp, identity⟩ := h
      exact ⟨⟨accepted, required, identity⟩, fun claim => by cases claim <;> assumption⟩
    · intro h
      obtain ⟨⟨accepted, required, identity⟩, times⟩ := h
      exact ⟨accepted, required, times .iat, times .nbf, times .exp, identity⟩
  by_cases others : checkAudienceArg audience = .ok ()
      ∧ validateRequiredClaims payload options.require = .ok ()
      ∧ identityStages payload options ⟨audience, issuer, subject, .int 0⟩ = .ok ()
  · by_cases refused : ∃ claim, ∀ now leeway,
        timeStage env payload options now leeway claim ≠ .ok ()
    · obtain ⟨claim, never⟩ := refused
      exact Or.inl (fun now leeway passes => never now leeway (((stages now leeway).mp passes).2 claim))
    · have bounded (claim : TimeClaim) :=
        (timeStage_bound env payload options claim).resolve_left
          (fun never => refused ⟨claim, never⟩)
      obtain ⟨issuedAt, iat⟩ := bounded .iat
      obtain ⟨notBefore, nbf⟩ := bounded .nbf
      obtain ⟨expires, exp⟩ := bounded .exp
      refine Or.inr ⟨⟨issuedAt.merge max notBefore, expires⟩, ?_⟩
      intro now leeway seconds isLeeway
      rw [stages]
      constructor
      · intro h
        exact {
          begun := forall_mem_later.mpr ⟨
            (iat now leeway seconds isLeeway).mp (h.2 .iat),
            (nbf now leeway seconds isLeeway).mp (h.2 .nbf)
          ⟩
          lasting := (exp now leeway seconds isLeeway).mp (h.2 .exp)
        }
      · intro h
        obtain ⟨begunIat, begunNbf⟩ := forall_mem_later.mp h.begun
        refine ⟨others, ?_⟩
        intro claim
        cases claim with
        | iat => exact (iat now leeway seconds isLeeway).mpr begunIat
        | nbf => exact (nbf now leeway seconds isLeeway).mpr begunNbf
        | exp => exact (exp now leeway seconds isLeeway).mpr h.lasting
  · exact Or.inl (fun now leeway passes => others ((stages now leeway).mp passes).1)

end PyJWT

-----------------------------------------------------------------------------------------
-- Tokens
-----------------------------------------------------------------------------------------

/-- A decode returns exactly the claims that the signature layer lets through and that pass the
validation.
-/
theorem PyJWT.decode_result_eq_ok {jwt : PyJWT} {token : TextArg} {key : KeyArg}
    {algorithms : Option (List PyStr)} {options : Option Options}
    {detachedPayload : Option Bytes} {expected : PyJWT.Expected} {now : Rat}
    {claims : Dict Json}
    : (jwt.decode env token key algorithms options detachedPayload expected now).result
        = .ok claims
      ↔ ∃ inner,
          (jwt.jws.decodeComplete env token key algorithms
              (some (PyJWT.callSigOptions options)) detachedPayload).result
            = .ok inner
          ∧ PyJWS.ReadsObject env inner.payload claims
          ∧ PyJWT.validateClaims env claims (PyJWT.mergeOptions jwt.options options) expected now
            = .ok () := by
  rw [PyJWT.decode_eq_ok]
  constructor
  · intro h
    obtain ⟨decoded, complete, rfl⟩ := h
    obtain ⟨inner, opened, reads, valid, _⟩ := PyJWT.decodeComplete_eq_ok.mp complete
    exact ⟨inner, opened, reads, valid⟩
  · intro h
    obtain ⟨inner, opened, reads, valid⟩ := h
    exact ⟨⟨claims, inner.header, inner.signature⟩,
      PyJWT.decodeComplete_eq_ok.mpr ⟨inner, opened, reads, valid, rfl, rfl⟩, rfl⟩

/-- Whatever a decode is given besides a leeway and a clock, it never returns, or what it returns
is the same claims throughout one stretch of time. So a decode that returned at two moments
returns at each moment between them, and under every longer leeway.
-/
theorem decode_lifetime (env : Env) (jwt : PyJWT) (token : TextArg) (key : KeyArg)
    (algorithms : Option (List PyStr)) (options : Option Options)
    (detachedPayload : Option Bytes) (audience : PyJWT.AudienceArg) (issuer : PyJWT.IssuerArg)
    (subject : Option PyStr)
    : (∀ leeway now claims,
        (jwt.decode env token key algorithms options detachedPayload
            ⟨audience, issuer, subject, leeway⟩ now).result
          ≠ .ok claims)
      ∨ ∃ (lifetime : Lifetime) (claims : Dict Json),
          (∀ leeway seconds now,
            leeway.toFloat = .ok seconds
            → ∀ other,
              (jwt.decode env token key algorithms options detachedPayload
                    ⟨audience, issuer, subject, leeway⟩ now).result
                  = .ok other
                ↔ other = claims ∧ lifetime.Admits seconds now)
          ∧ ∀ seconds longer early now late,
              lifetime.Admits seconds early
              → lifetime.Admits seconds late
              → early ≤ now
              → now ≤ late
              → seconds ≤ longer
              → lifetime.Admits longer now := by
  simp only [ne_eq, PyJWT.decode_result_eq_ok]
  by_cases opens : ∃ inner claims,
      (jwt.jws.decodeComplete env token key algorithms (some (PyJWT.callSigOptions options))
          detachedPayload).result
        = .ok inner
      ∧ PyJWS.ReadsObject env inner.payload claims
  · obtain ⟨inner, claims, opened, reads⟩ := opens
    have unique {other : Dict Json} {inner' : PyJWS.Decoded}
        (opened' : (jwt.jws.decodeComplete env token key algorithms
            (some (PyJWT.callSigOptions options)) detachedPayload).result
          = .ok inner')
        (reads' : PyJWS.ReadsObject env inner'.payload other)
        : other = claims := by
      obtain rfl := Except.ok.inj (opened.symm.trans opened')
      exact reads'.unique reads
    rcases PyJWT.validateClaims_lifetime env claims (PyJWT.mergeOptions jwt.options options)
        audience issuer subject with never | ⟨lifetime, within⟩
    · refine Or.inl ?_
      intro leeway now other h
      obtain ⟨_, opened', reads', valid⟩ := h
      exact never now leeway (unique opened' reads' ▸ valid)
    · refine Or.inr ⟨lifetime, claims, ?_, ?_⟩
      · intro leeway seconds now isLeeway other
        rw [← within now leeway seconds isLeeway]
        constructor
        · intro h
          obtain ⟨_, opened', reads', valid⟩ := h
          have same := unique opened' reads'
          exact ⟨same, same ▸ valid⟩
        · intro h
          obtain ⟨rfl, valid⟩ := h
          exact ⟨inner, opened, reads, valid⟩
      · intro seconds longer early now late first last after before le
        exact (first.between last after before).widen le
  · refine Or.inl ?_
    intro leeway now claims h
    obtain ⟨inner, opened, reads, _⟩ := h
    exact opens ⟨inner, claims, opened, reads⟩

end PyJwt
