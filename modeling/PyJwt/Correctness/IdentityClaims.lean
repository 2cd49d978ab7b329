import Mathlib.Data.Set.List
import PyJwt.Correctness.ClaimErrors

/-! Which identity claims pass. What is expected and what is claimed are compared as sets of
whole strings, so neither substrings nor the order of a list can make a difference.
-/

namespace PyJwt

open Foundations
open Python

variable {env : Env}

namespace PyJWT

-----------------------------------------------------------------------------------------
-- What the checks ask for
-----------------------------------------------------------------------------------------

/-- Every required claim is present and not null. -/
def HasRequired (payload : Dict Json) (require : List PyStr) : Prop :=
  ∀ claim ∈ require, ∃ value, payload.get? claim = some value ∧ value ≠ .null

/-- The issuer is among the ones asked for. -/
def IssuerAsks (issuer : IssuerArg) (name : PyStr) : Prop :=
  issuer = .str name ∨ ∃ names, issuer = .container names ∧ name ∈ names

/-- No issuer is asked for, or the claim is one that is. -/
def IssuerMatches (payload : Dict Json) (issuer : IssuerArg) : Prop :=
  issuer = .none ∨ ∃ name, payload.get? "iss" = some (.str name) ∧ IssuerAsks issuer name

/-- The audience is among the ones asked for. -/
def AudienceAsks (audience : AudienceArg) (name : PyStr) : Prop :=
  audience = .str name ∨ ∃ names, audience = .iterable names ∧ name ∈ names

/-- The claim names the audience: it is that string, and not empty, or a list of strings with
it.
-/
def AudienceNames (claim : Json) (name : PyStr) : Prop :=
  (claim = .str name ∧ name ≠ "") ∨ ∃ names : List PyStr, claim = .list (names.map .str) ∧ name ∈ names

/-- No audience is asked for and none is claimed, or the claim names one that is asked for. A
strict comparison is of one string with one string.
-/
def AudienceMatches (payload : Dict Json) (audience : AudienceArg) (strict : Bool) : Prop :=
  audience = .none ∧ (getOrNull payload "aud").truthy = false
  ∨ (strict = false
    ∧ ∃ name, AudienceNames (getOrNull payload "aud") name ∧ AudienceAsks audience name)
  ∨ ∃ name : PyStr, name ≠ "" ∧ getOrNull payload "aud" = .str name ∧ audience = .str name

/-- The subject, where it is present, is a string, and the one asked for. -/
def SubjectMatches (payload : Dict Json) (subject : Option PyStr) : Prop :=
  ∀ value, payload.get? "sub" = some value → ∃ name, value = .str name ∧ ∀ asked ∈ subject, name = asked

/-- The token identifier, where it is present, is a string. -/
def IdentifierIsText (payload : Dict Json) : Prop :=
  ∀ value, payload.get? "jti" = some value → ∃ text, value = .str text

/-- The identity claims match what is expected of them. -/
structure IdentityMatches (payload : Dict Json) (options : FullOptions) (expected : Expected)
    : Prop where
  required : HasRequired payload options.require
  issuer : options.verify .iss = true → IssuerMatches payload expected.issuer
  audience
    : options.verify .aud = true
      → AudienceMatches payload expected.audience options.strictAud
  subject : options.verify .sub = true → SubjectMatches payload expected.subject
  identifier : options.verify .jti = true → IdentifierIsText payload

-----------------------------------------------------------------------------------------
-- One check at a time
-----------------------------------------------------------------------------------------

/-- The required claims are looked for one by one, by induction on the list. -/
theorem validateRequiredClaims_eq_ok {payload : Dict Json} {require : List PyStr}
    : validateRequiredClaims payload require = .ok () ↔ HasRequired payload require := by
  induction require with
  | nil => simp [validateRequiredClaims, HasRequired]
  | cons claim rest ih =>
      unfold validateRequiredClaims HasRequired
      rw [List.forall_mem_cons]
      split
      · rename_i absent
        simp [absent]
      · rename_i null
        simp [null]
      · rename_i value notNull found
        rw [ih, found]
        exact (and_iff_right ⟨value, rfl, notNull⟩).symm

theorem validateIss_eq_ok {payload : Dict Json} {issuer : IssuerArg}
    : validateIss payload issuer = .ok () ↔ IssuerMatches payload issuer := by
  unfold validateIss IssuerMatches IssuerAsks
  cases found : payload.get? "iss" with
  | none => cases issuer <;> simp
  | some value =>
      cases value with
      | str iss =>
          cases issuer with
          | none => simp
          | str asked => simp [Json.asStr?, eq_comm]
          | container asked => simp [Json.asStr?]
          | other => simp [Json.asStr?]
      | null | bool _ | int _ | float _ | list _ | dict _ => cases issuer <;> simp [Json.asStr?]

theorem validateSub_eq_ok {payload : Dict Json} {subject : Option PyStr}
    : validateSub payload subject = .ok () ↔ SubjectMatches payload subject := by
  unfold validateSub SubjectMatches
  cases found : payload.get? "sub" with
  | none => simp
  | some value =>
      cases value with
      | str sub =>
          cases subject with
          | none => simp [Json.asStr?]
          | some asked => simp [Json.asStr?]
      | null | bool _ | int _ | float _ | list _ | dict _ => simp [Json.asStr?]

theorem validateJti_eq_ok {payload : Dict Json}
    : validateJti payload = .ok () ↔ IdentifierIsText payload := by
  unfold validateJti IdentifierIsText
  cases found : payload.get? "jti" with
  | none => simp
  | some value => cases value <;> simp [Json.asStr?]

-----------------------------------------------------------------------------------------
-- The audience
-----------------------------------------------------------------------------------------

/-- All items are strings exactly when the list is one of strings, by induction on the items. -/
theorem allStrings_eq_some {items : List Json} {names : List PyStr}
    : allStrings items = some names ↔ items = names.map .str := by
  induction items generalizing names with
  | nil => cases names <;> simp [allStrings]
  | cons head rest ih =>
      cases names with
      | nil => cases head <;> simp [allStrings, Json.asStr?, Option.bind_eq_some_iff]
      | cons name more =>
          cases head with
          | str text =>
              simp [allStrings, Json.asStr?, Option.bind_eq_some_iff, ih, and_comm]
          | null | bool _ | int _ | float _ | list _ | dict _ => simp [allStrings, Json.asStr?]

theorem matchAudience_eq_ok {audience claims : List PyStr}
    : matchAudience (some audience) claims = .ok () ↔ ∃ name ∈ claims, name ∈ audience := by
  unfold matchAudience
  simp only
  split
  · rename_i disjoint
    simp only [List.all_eq_true, decide_eq_true_eq] at disjoint
    refine iff_of_false nofun (fun shared => ?_)
    obtain ⟨name, claimed, asked⟩ := shared
    exact disjoint name asked claimed
  · rename_i shared
    simp only [List.all_eq_true, decide_eq_true_eq, not_forall, not_not] at shared
    obtain ⟨name, asked, claimed⟩ := shared
    exact iff_of_true rfl ⟨name, claimed, asked⟩

theorem truthy_of_audienceNames {claim : Json} {name : PyStr} (h : AudienceNames claim name)
    : claim.truthy = true := by
  rcases h with ⟨rfl, nonempty⟩ | ⟨names, rfl, member⟩
  · exact decide_eq_true nonempty
  · have nonempty : names ≠ [] := List.ne_nil_of_mem member
    simp [Json.truthy, nonempty]

/-- A claim that is true is compared leniently by the names it holds. -/
theorem validateAudLenient_eq_ok {claim : Json} (isTrue : claim.truthy = true)
    {audience : List PyStr}
    : validateAudLenient claim (some audience) = .ok ()
      ↔ ∃ name, AudienceNames claim name ∧ name ∈ audience := by
  unfold validateAudLenient AudienceNames
  cases claim with
  | str text =>
      have nonempty : text ≠ "" := of_decide_eq_true isTrue
      simp [matchAudience_eq_ok, nonempty]
  | list items =>
      dsimp only
      cases read : allStrings items with
      | some names =>
          obtain rfl := allStrings_eq_some.mp read
          simp only [matchAudience_eq_ok, reduceCtorEq, false_and, false_or]
          constructor
          · intro shared
            obtain ⟨name, claimed, asked⟩ := shared
            exact ⟨name, ⟨names, rfl, claimed⟩, asked⟩
          · intro shared
            obtain ⟨name, ⟨names', same, claimed⟩, asked⟩ := shared
            have sameNames : names = names' := by
              rw [Json.list.injEq, ← allStrings_eq_some, read] at same
              exact Option.some.inj same
            exact ⟨name, sameNames ▸ claimed, asked⟩
      | none =>
          refine iff_of_false nofun (fun shared => ?_)
          obtain ⟨name, ⟨impossible, _⟩ | ⟨names, same, _⟩, _⟩ := shared
          · cases impossible
          · rw [Json.list.injEq, ← allStrings_eq_some, read] at same
            cases same
  | null | bool _ | int _ | float _ | dict _ => simp

theorem validateAudStrict_eq_ok {claim : Json} {audience : AudienceArg}
    : validateAudStrict claim audience.asStr? = .ok ()
      ↔ ∃ name, claim = .str name ∧ audience = .str name := by
  unfold validateAudStrict
  cases audience with
  | str asked =>
      cases claim with
      | str name => simp [AudienceArg.asStr?, eq_comm]
      | null | bool _ | int _ | float _ | list _ | dict _ => simp [AudienceArg.asStr?]
  | none | iterable _ | other => simp [AudienceArg.asStr?]

/-- A claim that is true is compared with the audience that is asked for. -/
theorem compareAud_eq_ok {claim : Json} (isTrue : claim.truthy = true) {audience : AudienceArg}
    {values : List PyStr} (isList : audience.values? = some values) (strict : Bool)
    : (if strict then validateAudStrict claim audience.asStr?
        else validateAudLenient claim audience.values?) = .ok ()
      ↔ (strict = false ∧ ∃ name, AudienceNames claim name ∧ AudienceAsks audience name)
        ∨ ∃ name : PyStr, name ≠ "" ∧ claim = .str name ∧ audience = .str name := by
  have asks (name : PyStr) : AudienceAsks audience name ↔ name ∈ values := by
    cases audience with
    | str value =>
        cases isList
        simp [AudienceAsks, eq_comm]
    | iterable values =>
        cases isList
        simp [AudienceAsks]
    | none | other => cases isList
  cases strict with
  | true =>
      simp only [if_true, validateAudStrict_eq_ok, Bool.true_eq_false, false_and, false_or]
      refine exists_congr (fun name => ?_)
      constructor
      · intro h
        obtain ⟨rfl, asked⟩ := h
        exact ⟨of_decide_eq_true isTrue, rfl, asked⟩
      · exact And.right
  | false =>
      simp only [Bool.false_eq_true, if_false, isList, validateAudLenient_eq_ok isTrue, asks,
        true_and]
      refine (or_iff_left_of_imp (fun strictly => ?_)).symm
      obtain ⟨name, nonempty, rfl, rfl⟩ := strictly
      exact ⟨name, Or.inl ⟨rfl, nonempty⟩, (asks name).mp (Or.inl rfl)⟩

theorem validateAud_eq_ok {payload : Dict Json} {audience : AudienceArg} {strict : Bool}
    (accepted : audience ≠ .other)
    : validateAud payload audience strict = .ok () ↔ AudienceMatches payload audience strict := by
  have compared (audience : AudienceArg) {values : List PyStr}
      (isList : audience.values? = some values) (isSome : audience ≠ .none)
      : (if !(getOrNull payload "aud").truthy then
            .error (validateRequiredClaims.missingRequiredClaim "aud")
          else if strict then validateAudStrict (getOrNull payload "aud") audience.asStr?
          else validateAudLenient (getOrNull payload "aud") audience.values?) = .ok ()
        ↔ AudienceMatches payload audience strict := by
    unfold AudienceMatches
    simp only [isSome, false_and, false_or]
    cases claimed : (getOrNull payload "aud").truthy with
    | true =>
        rw [← compareAud_eq_ok claimed isList strict]
        simp
    | false =>
        refine iff_of_false (by simp) (fun shared => ?_)
        have isTrue : (getOrNull payload "aud").truthy = true := by
          rcases shared with ⟨_, name, named, _⟩ | ⟨name, nonempty, isName, _⟩
          · exact truthy_of_audienceNames named
          · exact truthy_of_audienceNames (Or.inl ⟨isName, nonempty⟩)
        rw [claimed] at isTrue
        cases isTrue
  cases audience with
  | none => 
      unfold validateAud AudienceMatches AudienceAsks
      cases claimed : (getOrNull payload "aud").truthy <;> simp [claimed]
  | str value => exact compared (.str value) rfl nofun
  | iterable values => exact compared (.iterable values) rfl nofun
  | other => exact absurd rfl accepted

-----------------------------------------------------------------------------------------
-- All checks
-----------------------------------------------------------------------------------------

/-- The payload has no time claims. -/
def NoTimes (payload : Dict Json) : Prop :=
  ∀ claim : TimeClaim, payload.get? claim.claimName = none

theorem timeStage_of_absent {payload : Dict Json} {claim : TimeClaim}
    (absent : payload.get? claim.claimName = none) (options : FullOptions) (now : Rat)
    (leeway : Leeway)
    : timeStage env payload options now leeway claim = .ok () := by
  simp [timeStage, checkWhen, Dict.contains, absent]

/-- Without time claims the validation passes exactly when the identity claims match. -/
theorem validateClaims_eq_ok {payload : Dict Json} (noTimes : NoTimes payload)
    {expected : Expected} (accepted : expected.audience ≠ .other) (options : FullOptions)
    (now : Rat)
    : validateClaims env payload options expected now = .ok ()
      ↔ IdentityMatches payload options expected := by
  rw [validateClaims_eq, checkAudienceArg_ok accepted, outcome_ok_bind]
  simp only [check_bind_eq_ok, timeStage_of_absent (noTimes _), identityStages, checkWhen_eq_ok,
    validateRequiredClaims_eq_ok, validateIss_eq_ok, validateAud_eq_ok accepted,
    validateSub_eq_ok, validateJti_eq_ok, true_and]
  constructor
  · intro h
    obtain ⟨required, issuer, audience, subject, identifier⟩ := h
    exact ⟨required, issuer, audience, subject, identifier⟩
  · intro h
    exact ⟨h.required, h.issuer, h.audience, h.subject, h.identifier⟩

-----------------------------------------------------------------------------------------
-- What makes no difference, and what can only refuse
-----------------------------------------------------------------------------------------

/-- `strict_aud` and the flags of the checks are at least as strict. -/
structure Tightens (options tighter : FullOptions) : Prop where
  require : tighter.require = options.require
  strictAud : options.strictAud = true → tighter.strictAud = true
  verify : ∀ check, options.verify check = true → tighter.verify check = true

/-- A strict match is a lenient one. -/
theorem AudienceMatches.lenient {payload : Dict Json} {audience : AudienceArg}
    {strict tighter : Bool} (tightens : strict = true → tighter = true)
    (h : AudienceMatches payload audience tighter)
    : AudienceMatches payload audience strict := by
  rcases h with unclaimed | ⟨isLenient, shared⟩ | equal
  · exact Or.inl unclaimed
  · refine Or.inr (Or.inl ⟨?_, shared⟩)
    rw [← Bool.not_eq_true]
    intro isStrict
    rw [tightens isStrict] at isLenient
    cases isLenient
  · exact Or.inr (Or.inr equal)

theorem IdentityMatches.of_tightens {payload : Dict Json} {options tighter : FullOptions}
    {expected : Expected} (tightens : Tightens options tighter)
    (h : IdentityMatches payload tighter expected)
    : IdentityMatches payload options expected where
  required := tightens.require ▸ h.required
  issuer := fun checked => h.issuer (tightens.verify .iss checked)
  audience := fun checked =>
    (h.audience (tightens.verify .aud checked)).lenient tightens.strictAud
  subject := fun checked => h.subject (tightens.verify .sub checked)
  identifier := fun checked => h.identifier (tightens.verify .jti checked)

/-- The two lists have the same members, in any order and number. -/
def SameMembers {α : Type} (left right : List α) : Prop :=
  ∀ member, member ∈ left ↔ member ∈ right

/-- The claim is the same, up to the order and the repetitions of a list. -/
inductive SameClaim : Json → Json → Prop
  | refl (claim : Json) : SameClaim claim claim
  | list {left right : List Json} (same : SameMembers left right)
    : SameClaim (.list left) (.list right)

inductive SameAudience : AudienceArg → AudienceArg → Prop
  | refl (audience : AudienceArg) : SameAudience audience audience
  | iterable {left right : List PyStr} (same : SameMembers left right)
    : SameAudience (.iterable left) (.iterable right)

inductive SameIssuer : IssuerArg → IssuerArg → Prop
  | refl (issuer : IssuerArg) : SameIssuer issuer issuer
  | container {left right : List PyStr} (same : SameMembers left right)
    : SameIssuer (.container left) (.container right)

/-- A list names an audience exactly when it is one of strings and has it. -/
theorem audienceNames_list {items : List Json} {name : PyStr}
    : AudienceNames (.list items) name
      ↔ (∀ item ∈ items, ∃ text, item = .str text) ∧ .str name ∈ items := by
  constructor
  · intro h
    rcases h with ⟨impossible, _⟩ | ⟨names, same, member⟩
    · cases impossible
    · cases same
      simp only [List.mem_map, forall_exists_index, and_imp, forall_apply_eq_imp_iff₂]
      exact ⟨fun text _ => ⟨text, rfl⟩, name, member, rfl⟩
  · intro h
    obtain ⟨texts, member⟩ := h
    have listed : items ∈ Set.range (List.map Json.str) := by
      rw [Set.range_list_map]
      intro item isItem
      obtain ⟨text, rfl⟩ := texts item isItem
      exact ⟨text, rfl⟩
    obtain ⟨names, rfl⟩ := listed
    obtain ⟨found, isName, same⟩ := List.mem_map.mp member
    cases same
    exact Or.inr ⟨names, rfl, isName⟩

/-- The same claim names the same audiences. -/
theorem SameClaim.audienceNames {left right : Json} (h : SameClaim left right) {name : PyStr}
    (names : AudienceNames left name)
    : AudienceNames right name := by
  cases h with
  | refl => exact names
  | list same =>
      rw [audienceNames_list] at names ⊢
      exact ⟨fun item member => names.1 item ((same item).mpr member), (same _).mp names.2⟩

theorem SameClaim.symm {left right : Json} (h : SameClaim left right) : SameClaim right left := by
  cases h with
  | refl => exact .refl _
  | list same => exact .list (fun member => (same member).symm)

theorem SameClaim.truthy {left right : Json} (h : SameClaim left right)
    (isFalse : left.truthy = false)
    : right.truthy = false := by
  cases h with
  | refl => exact isFalse
  | @list items items' same =>
      have none : items = [] := by simpa [Json.truthy] using isFalse
      subst none
      have none' : items' = [] :=
        List.eq_nil_iff_forall_not_mem.mpr (fun member => (same member).not.mp List.not_mem_nil)
      simp [Json.truthy, none']

theorem SameClaim.eq_str {left right : Json} (h : SameClaim left right) {name : PyStr}
    (isName : left = .str name)
    : right = .str name := by
  cases h with
  | refl => exact isName
  | list => cases isName

theorem SameClaim.ne_null {left right : Json} (h : SameClaim left right) (some : left ≠ .null)
    : right ≠ .null := by
  cases h with
  | refl => exact some
  | list => exact Json.noConfusion

theorem SameAudience.symm {left right : AudienceArg} (h : SameAudience left right)
    : SameAudience right left := by
  cases h with
  | refl => exact .refl _
  | iterable same => exact .iterable (fun member => (same member).symm)

theorem SameAudience.eq_none {left right : AudienceArg} (h : SameAudience left right)
    (none : left = .none)
    : right = .none := by
  cases h with
  | refl => exact none
  | iterable => cases none

theorem SameAudience.eq_str {left right : AudienceArg} (h : SameAudience left right)
    {name : PyStr} (isName : left = .str name)
    : right = .str name := by
  cases h with
  | refl => exact isName
  | iterable => cases isName

theorem SameAudience.asks {left right : AudienceArg} (h : SameAudience left right)
    {name : PyStr} (asks : AudienceAsks left name)
    : AudienceAsks right name := by
  cases h with
  | refl => exact asks
  | iterable same =>
      rcases asks with impossible | ⟨names, equal, member⟩
      · cases impossible
      · cases equal
        exact Or.inr ⟨_, rfl, (same name).mp member⟩

theorem SameIssuer.symm {left right : IssuerArg} (h : SameIssuer left right)
    : SameIssuer right left := by
  cases h with
  | refl => exact .refl _
  | container same => exact .container (fun member => (same member).symm)

theorem SameIssuer.eq_none {left right : IssuerArg} (h : SameIssuer left right)
    (none : left = .none)
    : right = .none := by
  cases h with
  | refl => exact none
  | container => cases none

theorem SameIssuer.asks {left right : IssuerArg} (h : SameIssuer left right) {name : PyStr}
    (asks : IssuerAsks left name)
    : IssuerAsks right name := by
  cases h with
  | refl => exact asks
  | container same =>
      rcases asks with impossible | ⟨names, equal, member⟩
      · cases impossible
      · cases equal
        exact Or.inr ⟨_, rfl, (same name).mp member⟩

/-- The payload, the options and what is expected are the same up to the order and the
repetitions of their lists: the `aud` claim, the required claims, the audience and the issuer.
-/
structure SameUpToOrder (payload payload' : Dict Json) (options options' : FullOptions)
    (expected expected' : Expected)
    : Prop where
  others : ∀ name : PyStr, name ≠ "aud" → payload'.get? name = payload.get? name
  claim : SameClaim (getOrNull payload "aud") (getOrNull payload' "aud")
  require : SameMembers options.require options'.require
  strictAud : options'.strictAud = options.strictAud
  verify : options'.verify = options.verify
  audience : SameAudience expected.audience expected'.audience
  issuer : SameIssuer expected.issuer expected'.issuer
  subject : expected'.subject = expected.subject

variable {payload payload' : Dict Json} {options options' : FullOptions}
  {expected expected' : Expected}

theorem SameUpToOrder.symm
    (h : SameUpToOrder payload payload' options options' expected expected')
    : SameUpToOrder payload' payload options' options expected' expected where
  others := fun name other => (h.others name other).symm
  claim := h.claim.symm
  require := fun name => (h.require name).symm
  strictAud := h.strictAud.symm
  verify := h.verify.symm
  audience := h.audience.symm
  issuer := h.issuer.symm
  subject := h.subject.symm

/-- A value is there and not null exactly when reading it with a default does not give null. -/
theorem getOrNull_ne_null {name : PyStr}
    : getOrNull payload name ≠ .null
      ↔ ∃ value, payload.get? name = some value ∧ value ≠ .null := by
  unfold getOrNull
  cases payload.get? name <;> simp

theorem SameUpToOrder.hasRequired
    (h : SameUpToOrder payload payload' options options' expected expected')
    (required : HasRequired payload options.require)
    : HasRequired payload' options'.require := by
  intro claim asked
  have present := required claim ((h.require claim).mpr asked)
  by_cases isAud : claim = "aud"
  · subst isAud
    exact getOrNull_ne_null.mp (h.claim.ne_null (getOrNull_ne_null.mpr present))
  · rwa [h.others claim isAud]

/-- Nothing that matches depends on the order of a list or on its repetitions. -/
theorem SameUpToOrder.identityMatches
    (h : SameUpToOrder payload payload' options options' expected expected')
    (matched : IdentityMatches payload options expected)
    : IdentityMatches payload' options' expected' where
  required := h.hasRequired matched.required
  issuer := by
    intro checked
    rw [h.verify] at checked
    unfold IssuerMatches
    rw [h.others "iss" (by decide)]
    rcases matched.issuer checked with none | ⟨name, found, asks⟩
    · exact Or.inl (h.issuer.eq_none none)
    · exact Or.inr ⟨name, found, h.issuer.asks asks⟩
  audience := by
    intro checked
    rw [h.verify] at checked
    unfold AudienceMatches
    rw [h.strictAud]
    rcases matched.audience checked with ⟨none, unclaimed⟩ | ⟨lenient, name, names, asks⟩
      | ⟨name, nonempty, isName, asked⟩
    · exact Or.inl ⟨h.audience.eq_none none, h.claim.truthy unclaimed⟩
    · exact Or.inr (Or.inl ⟨lenient, name, h.claim.audienceNames names, h.audience.asks asks⟩)
    · exact Or.inr (Or.inr
        ⟨name, nonempty, h.claim.eq_str isName, h.audience.eq_str asked⟩)
  subject := by
    intro checked
    rw [h.verify] at checked
    unfold SubjectMatches
    rw [h.others "sub" (by decide), h.subject]
    exact matched.subject checked
  identifier := by
    intro checked
    rw [h.verify] at checked
    unfold IdentifierIsText
    rw [h.others "jti" (by decide)]
    exact matched.identifier checked

theorem SameAudience.accepted {left right : AudienceArg} (h : SameAudience left right)
    (accepted : left ≠ .other)
    : right ≠ .other := by
  cases h with
  | refl => exact accepted
  | iterable => exact AudienceArg.noConfusion

/-- A text that is claimed passes for a text that is asked for only where they are equal. -/
theorem AudienceMatches.eq_of_texts {claimed asked : PyStr} {strict : Bool}
    (isText : getOrNull payload "aud" = .str claimed)
    (h : AudienceMatches payload (.str asked) strict)
    : claimed = asked := by
  rcases h with ⟨impossible, _⟩ | ⟨_, name, names, asks⟩ | ⟨name, _, isName, same⟩
  · cases impossible
  · rw [isText] at names
    rcases names with ⟨same, _⟩ | ⟨_, impossible, _⟩
    · cases same
      rcases asks with same | ⟨_, impossible, _⟩
      · cases same
        rfl
      · cases impossible
    · cases impossible
  · cases same
    cases isText.symm.trans isName
    rfl

theorem IssuerMatches.eq_of_texts {claimed asked : PyStr}
    (isText : payload.get? "iss" = some (.str claimed)) (h : IssuerMatches payload (.str asked))
    : claimed = asked := by
  rcases h with impossible | ⟨name, found, same | ⟨_, impossible, _⟩⟩
  · cases impossible
  · cases same
    cases isText.symm.trans found
    rfl
  · cases impossible

/-- Without time claims the validation passes exactly when the identity claims match. So more
checks never let more pass, the order and the repetitions of lists make no difference, and a
text passes for a text only when it equals it.
-/
theorem validateClaims_identity_iff (env : Env) (noTimes : NoTimes payload)
    (accepted : expected.audience ≠ .other) (options : FullOptions) (now : Rat)
    : (validateClaims env payload options expected now = .ok ()
        ↔ IdentityMatches payload options expected)
      ∧ (∀ tighter,
          Tightens options tighter
          → validateClaims env payload tighter expected now = .ok ()
          → validateClaims env payload options expected now = .ok ())
      ∧ (∀ payload' options' expected',
          SameUpToOrder payload payload' options options' expected expected'
          → (validateClaims env payload options expected now = .ok ()
            ↔ validateClaims env payload' options' expected' now = .ok ()))
      ∧ (validateClaims env payload options expected now = .ok ()
        → (∀ claimed asked : PyStr,
            options.verify .aud = true
            → getOrNull payload "aud" = .str claimed
            → expected.audience = .str asked
            → claimed = asked)
          ∧ ∀ claimed asked : PyStr,
              options.verify .iss = true
              → payload.get? "iss" = some (.str claimed)
              → expected.issuer = .str asked
              → claimed = asked) := by
  refine ⟨validateClaims_eq_ok noTimes accepted options now, ?_, ?_, ?_⟩
  · intro tighter tightens passes
    rw [validateClaims_eq_ok noTimes accepted] at passes ⊢
    exact passes.of_tightens tightens
  · intro payload' options' expected' same
    have noTimes' : NoTimes payload' := by
      intro claim
      rw [same.others claim.claimName (by cases claim <;> decide)]
      exact noTimes claim
    rw [validateClaims_eq_ok noTimes accepted,
      validateClaims_eq_ok noTimes' (same.audience.accepted accepted)]
    exact ⟨same.identityMatches, same.symm.identityMatches⟩
  · intro passes
    have matched := (validateClaims_eq_ok noTimes accepted options now).mp passes
    constructor
    · intro claimed asked checked isText asks
      exact (asks ▸ matched.audience checked).eq_of_texts isText
    · intro claimed asked checked isText asks
      exact (asks ▸ matched.issuer checked).eq_of_texts isText

/-- `{"aud":["b","a"],"iss":"i"}` passes for the audience `a` and the issuers `j` and `i`. -/
theorem validateClaims_identity_iff_passes
    : validateClaims (.withoutCryptography (fun _ _ _ => []))
        (.ofEntries [("aud", .list [.str "b", .str "a"]), ("iss", .str "i")]) getDefaultOptions
        ⟨.str "a", .container ["j", "i"], none, .seconds 0⟩ 0
      = .ok () := by
  refine (validateClaims_identity_iff (.withoutCryptography (fun _ _ _ => [])) ?_ (by simp)
    getDefaultOptions 0).1.mpr ?_
  · intro claim
    cases claim <;> rfl
  · exact {
      required := nofun
      issuer := fun _ => Or.inr ⟨"i", rfl, Or.inr ⟨_, rfl, by simp⟩⟩
      audience := fun _ => Or.inr (Or.inl
        ⟨rfl, "a", Or.inr ⟨["b", "a"], rfl, by simp⟩, Or.inl rfl⟩)
      subject := fun _ => nofun
      identifier := fun _ => nofun
    }

end PyJWT

end PyJwt
