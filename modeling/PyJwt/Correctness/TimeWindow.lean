import Mathlib.Data.Rat.Floor
import PyJwt.Correctness.ClaimErrors

/-! When the time claims let a token pass. Each is cut to an integer before it is compared, so
the window is exact for integers and moves by the fraction of any other number.
-/

namespace PyJwt

open Foundations
open Python

variable {env : Env}

-----------------------------------------------------------------------------------------
-- Numbers
-----------------------------------------------------------------------------------------

/-- The number that a JSON value is, when it is finite. -/
def numberOf : Json → Option Rat
  | .int value => some value
  | .float (.finite value) => some value
  | .null | .bool _ | .str _ | .list _ | .dict _ | .float .posInf | .float .negInf | .float .nan =>
      none

/-- The number without its fraction. -/
def truncate (number : Rat) : Int :=
  if 0 ≤ number then ⌊number⌋ else ⌈number⌉

@[simp] theorem truncate_intCast (whole : Int) : truncate whole = whole := by
  unfold truncate
  split <;> simp

/-- Dividing the numerator towards zero drops the fraction, by the sign of the number. -/
theorem tdiv_eq_truncate (number : Rat) : number.num.tdiv number.den = truncate number := by
  unfold truncate
  split
  · rename_i nonneg
    rw [Rat.floor_def', Int.tdiv_eq_ediv_of_nonneg (Rat.num_nonneg.mpr nonneg)]
  · rename_i negative
    have flipped : 0 ≤ -number.num :=
      Int.neg_nonneg.mpr (Rat.num_nonpos.mpr (le_of_not_ge negative))
    rw [Rat.ceil_def', ← Int.tdiv_eq_ediv_of_nonneg flipped, Int.neg_tdiv, Int.neg_neg]

namespace PyJWT

/-- A finite number is read as an integer by dropping its fraction. -/
theorem pyInt_of_numberOf {value : Json} {number : Rat} (h : numberOf value = some number)
    : pyInt env value = .ok (truncate number) := by
  cases value with
  | int whole =>
      cases h
      rw [truncate_intCast]
      rfl
  | float value =>
      cases value with
      | finite number =>
          cases h
          exact congrArg Except.ok (tdiv_eq_truncate _)
      | posInf | negInf | nan => cases h
  | null | bool _ | str _ | list _ | dict _ => cases h

-----------------------------------------------------------------------------------------
-- The window
-----------------------------------------------------------------------------------------

/-- The time that the claim sets lets a token pass at `now`. -/
def TimeClaim.InWindow (now seconds number : Rat) : TimeClaim → Prop
  | iat | nbf => number ≤ now + seconds
  | exp => number > now - seconds

theorem compareTime_eq_ok {now : Rat} {leeway : Leeway} {claim : TimeClaim} {whole : Int}
    : compareTime now leeway claim whole = .ok ()
      ↔ ∃ seconds, leeway.toFloat = .ok seconds ∧ claim.InWindow now seconds whole := by
  cases claim with
  | iat | nbf | exp =>
      simp only [compareTime, outcome_bind_eq_ok, TimeClaim.InWindow]
      refine exists_congr (fun seconds => and_congr_right (fun _ => ?_))
      split
      · rename_i outside
        exact iff_of_false (by simp) (by simpa using outside)
      · rename_i inside
        exact iff_of_true rfl (by simpa using inside)

/-- Every time claim that is present is a finite number. -/
def TimesAreNumbers (payload : Dict Json) : Prop :=
  ∀ claim : TimeClaim, ∀ value,
    payload.get? claim.claimName = some value → ∃ number, numberOf value = some number

/-- Nothing but the time claims is in the way of the validation. -/
structure NothingElse (payload : Dict Json) (options : FullOptions) (expected : Expected)
    : Prop where
  audience : expected.audience ≠ .other
  required : validateRequiredClaims payload options.require = .ok ()
  identity : identityStages payload options expected = .ok ()

/-- The claim, where it is present, lets the token pass once its fraction is dropped. -/
def PassesTruncated (payload : Dict Json) (now : Rat) (leeway : Leeway) (claim : TimeClaim)
    : Prop :=
  ∀ value number,
    payload.get? claim.claimName = some value
    → numberOf value = some number
    → ∃ seconds,
        leeway.toFloat = .ok seconds ∧ claim.InWindow now seconds (truncate number)

theorem timeStage_eq_ok {payload : Dict Json} {options : FullOptions} {now : Rat}
    {leeway : Leeway} (numbers : TimesAreNumbers payload) {claim : TimeClaim}
    (checked : options.verify claim.check = true)
    : timeStage env payload options now leeway claim = .ok ()
      ↔ PassesTruncated payload now leeway claim := by
  unfold timeStage checkWhen PassesTruncated Dict.contains
  cases found : payload.get? claim.claimName with
  | none => simp
  | some value =>
      obtain ⟨number, isNumber⟩ := numbers claim value found
      rw [checked, validateTime_eq, coerceIntClaim_of_get? found, pyInt_of_numberOf isNumber]
      simp only [Option.isSome_some, Bool.and_self, if_true, tryExcept_ok, outcome_ok_bind,
        compareTime_eq_ok, Option.some.injEq]
      constructor
      · intro passes other number' same isNumber'
        subst same
        cases isNumber.symm.trans isNumber'
        exact passes
      · intro passes
        exact passes value number rfl isNumber

/-- With the three checks on and nothing else in the way, the validation passes exactly when
every time claim that is present, without its fraction, lies in the window.
-/
theorem validateClaims_window_iff {payload : Dict Json} {options : FullOptions}
    {expected : Expected} (numbers : TimesAreNumbers payload)
    (checked : ∀ claim : TimeClaim, options.verify claim.check = true)
    (others : NothingElse payload options expected) (now : Rat)
    : validateClaims env payload options expected now = .ok ()
      ↔ ∀ claim, PassesTruncated payload now expected.leeway claim := by
  rw [validateClaims_eq, checkAudienceArg_ok others.audience, outcome_ok_bind, others.required,
    outcome_ok_bind]
  simp only [check_bind_eq_ok, timeStage_eq_ok numbers (checked _), others.identity, and_true]
  constructor
  · intro h claim
    cases claim with
    | iat => exact h.1
    | nbf => exact h.2.1
    | exp => exact h.2.2
  · intro h
    exact ⟨h .iat, h .nbf, h .exp⟩

/-- A whole number is compared as it is. -/
theorem passesTruncated_of_whole {payload : Dict Json} {now : Rat} {leeway : Leeway}
    {claim : TimeClaim} {whole : Int} {value : Json}
    (found : payload.get? claim.claimName = some value) (isWhole : numberOf value = some whole)
    : PassesTruncated payload now leeway claim
      ↔ ∃ seconds, leeway.toFloat = .ok seconds ∧ claim.InWindow now seconds whole := by
  unfold PassesTruncated
  rw [found]
  constructor
  · intro passes
    obtain ⟨seconds, isLeeway, inside⟩ := passes value whole rfl isWhole
    exact ⟨seconds, isLeeway, truncate_intCast whole ▸ inside⟩
  · intro passes other number same isNumber
    cases same
    cases isWhole.symm.trans isNumber
    rwa [truncate_intCast]

/-- `{"nbf":10,"exp":20.5}`. -/
def windowPayload : Dict Json :=
  .ofEntries [("nbf", .int 10), ("exp", .float (.finite (41 / 2)))]

/-- A decode that expects nothing of the identity claims. -/
def expectingNothing (leeway : Leeway) : Expected := ⟨.none, .none, none, leeway⟩

/-- With a leeway of one second the payload passes at 20. -/
theorem validateClaims_window_iff_passes
    : validateClaims (.withoutCryptography (fun _ _ _ => [])) windowPayload getDefaultOptions
        (expectingNothing (.timedelta 1000000)) 20
      = .ok () := by
  refine (validateClaims_window_iff ?_ (fun _ => rfl) ⟨by simp [expectingNothing], rfl, rfl⟩
    20).mpr ?_
  · intro claim value found
    cases claim with
    | iat => cases found
    | nbf =>
        cases found
        exact ⟨10, rfl⟩
    | exp =>
        cases found
        exact ⟨41 / 2, rfl⟩
  · have second : (expectingNothing (.timedelta 1000000)).leeway.toFloat = .ok 1 := by
      norm_num [expectingNothing, Leeway.toFloat]
    intro claim
    cases claim with
    | iat =>
        intro value number found
        cases found
    | nbf =>
        have isTen : numberOf (.int 10) = some ((10 : Int) : Rat) := rfl
        exact (passesTruncated_of_whole rfl isTen).mpr
          ⟨1, second, by norm_num [TimeClaim.InWindow]⟩
    | exp =>
        have cut : truncate (41 / 2) = 20 := by
          rw [truncate, if_pos (by norm_num)]
          exact Int.floor_eq_iff.mpr (by norm_num)
        intro value number found isNumber
        cases found
        cases isNumber
        exact ⟨1, second, by norm_num [cut, TimeClaim.InWindow]⟩

/-- A fraction is not compared: `nbf` passes half a second early, and `exp` is refused as long
before it ends. An integer leeway must fit a float.
-/
theorem validateClaims_fraction
    : validateClaims (.withoutCryptography (fun _ _ _ => []))
          (.ofEntries [("nbf", .float (.finite (21 / 2)))]) getDefaultOptions
          (expectingNothing (.seconds 0)) 10
        = .ok ()
      ∧ (21 / 2 : Rat) > 10 + 0
      ∧ (∃ error,
          validateClaims (.withoutCryptography (fun _ _ _ => []))
              (.ofEntries [("exp", .float (.finite (21 / 2)))]) getDefaultOptions
              (expectingNothing (.seconds 0)) 10
            = .error error)
      ∧ (21 / 2 : Rat) > 10 - 0
      ∧ ∃ error,
          validateClaims (.withoutCryptography (fun _ _ _ => []))
              (.ofEntries [("nbf", .int 10)]) getDefaultOptions
              (expectingNothing (.int (2 ^ 1024))) 10
            = .error error := by
  obtain ⟨_, passes, _⟩ := of_returnsWith
    (by decide +kernel : returnsWith (fun _ => true)
      (validateClaims (.withoutCryptography (fun _ _ _ => []))
        (.ofEntries [("nbf", .float (.finite (21 / 2)))]) getDefaultOptions
        (expectingNothing (.seconds 0)) 10) = true)
  obtain ⟨error, refused, _⟩ := of_raisesWith
    (by decide +kernel : raisesWith (fun _ => true)
      (validateClaims (.withoutCryptography (fun _ _ _ => []))
        (.ofEntries [("exp", .float (.finite (21 / 2)))]) getDefaultOptions
        (expectingNothing (.seconds 0)) 10) = true)
  obtain ⟨overflow, raised, _⟩ := of_raisesWith
    (by decide +kernel : raisesWith (fun _ => true)
      (validateClaims (.withoutCryptography (fun _ _ _ => []))
        (.ofEntries [("nbf", .int 10)]) getDefaultOptions
        (expectingNothing (.int (2 ^ 1024))) 10) = true)
  exact ⟨passes, by norm_num, ⟨error, refused⟩, by norm_num, overflow, raised⟩

end PyJWT

end PyJwt
