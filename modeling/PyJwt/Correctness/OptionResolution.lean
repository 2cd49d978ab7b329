import PyJwt.Correctness.VerifiedDecoding

/-! How options given to the constructor and to a call resolve to the flags of one decode.
The constructor stores its defaults as if they had been given, and the call's flag for the
signature layer ignores the constructor, so the two levels agree only for some options.
-/

namespace PyJwt

open Foundations
open Python

/-- `options["verify_signature"]`, where the options have it. -/
def givenSignature (options : Option Options) : Option Bool :=
  options.bind (·.verifySignature)

/-- `options["verify_<claim>"]`, where the options have it. -/
def givenCheck (options : Option Options) (check : ClaimCheck) : Option Bool :=
  options.bind (·.verify check)

/-- The flag that the signature layer acts on in a decode with these call options. -/
def PyJWT.verifiesSignature (self : PyJWT) (options : Option Options) : Bool :=
  (self.jws.options.merge (some (PyJWT.callSigOptions options))).verifySignature

/-- The documented resolution of `constructed` and `called` options: one `verify_signature`
for both layers, which is also the default of every check that neither level sets.
-/
structure ResolvesCoherently (env : Env) (constructed called : Option Options) : Prop where
  signature
    : (PyJWT.init env constructed).verifiesSignature called
      = effectiveSignature (givenSignature constructed) (givenSignature called)
  checks
    : ∀ check,
        (PyJWT.mergeOptions (PyJWT.init env constructed).options called).verify check
        = ((givenCheck called check).or (givenCheck constructed check)).getD
            (effectiveSignature (givenSignature constructed) (givenSignature called))

/-- No implicit choice stored by the constructor meets an explicit one of the call. -/
structure SeparatelyGiven (constructed called : Option Options) : Prop where
  /-- Only the call turns the signature off. -/
  signature : givenSignature called ≠ none ∨ givenSignature constructed ≠ some false
  /-- A call that turns the signature off overrides every check the constructor turned on. -/
  off
    : givenSignature called = some false
      → ∀ check, givenCheck called check ≠ none ∨ givenCheck constructed check ≠ some true
  /-- A call that turns the signature on again sets every check the constructor left open. -/
  on
    : givenSignature called = some true
      → givenSignature constructed = some false
      → ∀ check, givenCheck called check ≠ none ∨ givenCheck constructed check ≠ none

variable {env : Env} {constructed called : Option Options}

-----------------------------------------------------------------------------------------
-- What the three merges compute
-----------------------------------------------------------------------------------------

/-- The signature layer acts on the call's flag alone. -/
theorem PyJWT.verifiesSignature_eq (self : PyJWT)
    : self.verifiesSignature called = (givenSignature called).getD true := by
  cases called <;> rfl

/-- The constructor stores a flag for every check, its own `verify_signature` by default. -/
theorem init_verify (check : ClaimCheck)
    : (PyJWT.init env constructed).options.verify check
      = (givenCheck constructed check).getD ((givenSignature constructed).getD true) := by
  cases constructed with
  | none => rfl
  | some options =>
      show (PyJWT.mergeOptions PyJWT.getDefaultOptions (some options)).verify check = _
      cases given : options.verifySignature with
      | none => simp [PyJWT.mergeOptions, FullOptions.update, PyJWT.getDefaultOptions,
          givenCheck, givenSignature, given]
      | some flag =>
          cases flag <;> simp [PyJWT.mergeOptions, FullOptions.update,
            PyJWT.getDefaultOptions, PyJWT.unverifiedDefaults, givenCheck, givenSignature,
            given]

/-- A call that turns the signature off starts from all checks off; any other call starts
from the flags the constructor stored.
-/
theorem mergeOptions_verify (stored : FullOptions) (check : ClaimCheck)
    : (PyJWT.mergeOptions stored called).verify check
      = (givenCheck called check).getD
          (if givenSignature called = some false then false else stored.verify check) := by
  cases called with
  | none => simp [PyJWT.mergeOptions, givenCheck, givenSignature]
  | some options =>
      cases given : options.verifySignature with
      | none => simp [PyJWT.mergeOptions, FullOptions.update, givenCheck, givenSignature,
          given]
      | some flag =>
          cases flag <;> simp [PyJWT.mergeOptions, FullOptions.update,
            PyJWT.unverifiedDefaults, givenCheck, givenSignature, given]

/-- A decode that returned has called `verify` exactly when the flag is on. -/
theorem verify_called_iff {self : PyJWT} {jwt : TextArg} {key : KeyArg}
    {algorithms : Option (List PyStr)} {detachedPayload : Option Bytes}
    {expected : PyJWT.Expected} {now : Rat} {decoded : PyJWT.Decoded}
    (returned : (self.decodeComplete env jwt key algorithms called detachedPayload expected
        now).result
      = .ok decoded)
    : (∃ handler msg prepared sig,
        Event.verify handler msg prepared sig
          ∈ (self.decodeComplete env jwt key algorithms called detachedPayload expected
              now).log)
      ↔ self.verifiesSignature called = true := by
  rw [PyJWT.decodeComplete_log]
  constructor
  · intro h
    obtain ⟨handler, msg, prepared, sig, member⟩ := h
    exact (PyJWS.mem_decodeComplete_log.mp member).1
  · intro flag
    obtain ⟨inner, opened, _⟩ := PyJWT.decodeComplete_eq_ok.mp returned
    obtain ⟨segments, loaded, signingInput, opens, _, _, verified⟩ :=
      PyJWS.decodeComplete_eq_ok.mp opened
    obtain ⟨named, alg, algObj, prepared, verifies⟩ := verified flag
    exact ⟨algObj, signingInput, prepared, loaded.signature,
      PyJWS.mem_decodeComplete_log.mpr ⟨flag, named, segments, loaded, inner.payload,
        signingInput, opens, PyJWS.mem_verifySignature_log.mpr ⟨alg, algObj,
          verifies.allowed, verifies.chosen,
          Or.inr ⟨prepared, verifies.prepares, verifies.length, rfl⟩⟩⟩⟩

-----------------------------------------------------------------------------------------
-- When they agree
-----------------------------------------------------------------------------------------

/-- The signature flag is the one in force unless the constructor alone turned it off. -/
theorem signature_coherent_iff
    : (PyJWT.init env constructed).verifiesSignature called
        = effectiveSignature (givenSignature constructed) (givenSignature called)
      ↔ givenSignature called ≠ none ∨ givenSignature constructed ≠ some false := by
  rw [PyJWT.verifiesSignature_eq]
  cases givenSignature called with
  | none =>
      cases givenSignature constructed with
      | none => simp [effectiveSignature]
      | some flag => cases flag <;> simp [effectiveSignature]
  | some flag => simp [effectiveSignature]

/-- One check is resolved as documented unless it falls into one of the two gaps. -/
theorem check_coherent_iff (check : ClaimCheck)
    : (PyJWT.mergeOptions (PyJWT.init env constructed).options called).verify check
        = ((givenCheck called check).or (givenCheck constructed check)).getD
            (effectiveSignature (givenSignature constructed) (givenSignature called))
      ↔ (givenSignature called = some false
          → givenCheck called check ≠ none ∨ givenCheck constructed check ≠ some true)
        ∧ (givenSignature called = some true
          → givenSignature constructed = some false
          → givenCheck called check ≠ none ∨ givenCheck constructed check ≠ none) := by
  rw [mergeOptions_verify, init_verify]
  cases givenCheck called check with
  | some flag => simp
  | none =>
      cases givenSignature called with
      | none => simp [effectiveSignature]
      | some flag =>
          cases flag with
          | false =>
              cases givenCheck constructed check with
              | none => simp [effectiveSignature]
              | some flag => cases flag <;> simp
          | true =>
              cases givenCheck constructed check with
              | some flag => simp
              | none =>
                  cases givenSignature constructed with
                  | none => simp [effectiveSignature]
                  | some flag => cases flag <;> simp [effectiveSignature]

/-- Options resolve as documented exactly where no stored default is mistaken for a choice,
the flag for the signature being the one on which every returning decode acts.
-/
theorem resolvesCoherently_iff (env : Env) (constructed called : Option Options)
    : (∀ (jwt : TextArg) (key : KeyArg) (algorithms : Option (List PyStr))
        (detachedPayload : Option Bytes) (expected : PyJWT.Expected) (now : Rat)
        (decoded : PyJWT.Decoded),
        ((PyJWT.init env constructed).decodeComplete env jwt key algorithms called
            detachedPayload expected now).result
          = .ok decoded
        → ((∃ handler msg prepared sig,
              Event.verify handler msg prepared sig
                ∈ ((PyJWT.init env constructed).decodeComplete env jwt key algorithms called
                    detachedPayload expected now).log)
            ↔ (PyJWT.init env constructed).verifiesSignature called = true))
      ∧ (ResolvesCoherently env constructed called ↔ SeparatelyGiven constructed called) := by
  refine ⟨fun _ _ _ _ _ _ _ returned => verify_called_iff returned, ?_⟩
  constructor
  · intro h
    obtain ⟨signature, checks⟩ := h
    exact {
      signature := signature_coherent_iff.mp signature
      off := fun off check => ((check_coherent_iff check).mp (checks check)).1 off
      on := fun on off check => ((check_coherent_iff check).mp (checks check)).2 on off
    }
  · intro h
    obtain ⟨signature, off, on⟩ := h
    exact {
      signature := signature_coherent_iff.mpr signature
      checks := fun check => (check_coherent_iff check).mpr
        ⟨fun isOff => off isOff check, fun isOn wasOff => on isOn wasOff check⟩
    }

/-- Without options on either level a returning decode has verified, as documented. -/
theorem resolvesCoherently_iff_default
    : ∃ decoded,
        ((PyJWT.init digestEnv none).decodeComplete digestEnv (.bytes signedToken)
            (.raw (.bytes (ascii "kk"))) (some ["HS256"]) none none
            ⟨.none, .none, none, .seconds 0⟩ 0).result
          = .ok decoded
        ∧ (∃ handler msg prepared sig,
            Event.verify handler msg prepared sig
              ∈ ((PyJWT.init digestEnv none).decodeComplete digestEnv (.bytes signedToken)
                (.raw (.bytes (ascii "kk"))) (some ["HS256"]) none none
                ⟨.none, .none, none, .seconds 0⟩ 0).log)
        ∧ ResolvesCoherently digestEnv none none := by
  obtain ⟨decoded, returned, _⟩ := of_returnsWith
    (by decide +kernel : returnsWith (fun _ => true)
      ((PyJWT.init digestEnv none).decodeComplete digestEnv (.bytes signedToken)
        (.raw (.bytes (ascii "kk"))) (some ["HS256"]) none none
        ⟨.none, .none, none, .seconds 0⟩ 0).result = true)
  obtain ⟨runs, resolves⟩ := resolvesCoherently_iff digestEnv none none
  exact ⟨decoded, returned, (runs _ _ _ _ _ _ decoded returned).mpr rfl,
    resolves.mpr ⟨by decide, nofun, nofun⟩⟩

/-- A constructor that turned the signature off leaves `verify_exp` off for a call that turns
the signature on.
-/
theorem resolvesCoherently_reenabled
    : ¬ResolvesCoherently digestEnv (some { verifySignature := some false })
        (some { verifySignature := some true }) := by
  intro coherent
  exact absurd (coherent.checks .exp) (by decide)

end PyJwt
