import PyJwt.Python.Json

/-! The exception classes of `jwt/exceptions.py` and the ones of Python and `cryptography`
that the library catches, raises or lets through.
-/

namespace PyJwt

open Python

/-- Exception classes. `other` is any class the library does not name. -/
inductive ExcClass
  | exception
  | typeError
  | attributeError
  | valueError
  | unicodeEncodeError
  | unicodeDecodeError
  | jsonDecodeError
  | binasciiError
  | keyError
  | overflowError
  | runtimeError
  | notImplementedError
  | recursionError
  | unsupportedAlgorithm
  | invalidSignature
  | other (name : String)
  | pyJWTError
  | invalidTokenError
  | decodeError
  | invalidSignatureError
  | expiredSignatureError
  | invalidAudienceError
  | invalidIssuerError
  | invalidIssuedAtError
  | immatureSignatureError
  | invalidKeyError
  | invalidAlgorithmError
  | missingRequiredClaimError
  | pyJWKError
  | missingCryptographyError
  | pyJWKSetError
  | pyJWKClientError
  | pyJWKClientConnectionError
  | invalidSubjectError
  | invalidJTIError
  deriving DecidableEq

namespace ExcClass

/-- The direct base class. -/
def base : ExcClass → Option ExcClass
  | exception => none
  | unicodeEncodeError | unicodeDecodeError | jsonDecodeError | binasciiError =>
      some valueError
  | notImplementedError | recursionError => some runtimeError
  | typeError | attributeError | valueError | keyError | overflowError | runtimeError
  | unsupportedAlgorithm | invalidSignature | other _ | pyJWTError => some exception
  | invalidTokenError | invalidKeyError | pyJWKError | pyJWKSetError | pyJWKClientError =>
      some pyJWTError
  | decodeError | expiredSignatureError | invalidAudienceError | invalidIssuerError
  | invalidIssuedAtError | immatureSignatureError | invalidAlgorithmError
  | missingRequiredClaimError | invalidSubjectError | invalidJTIError =>
      some invalidTokenError
  | invalidSignatureError => some decodeError
  | missingCryptographyError => some pyJWKError
  | pyJWKClientConnectionError => some pyJWKClientError

/-- The class and up to `steps` of its bases. -/
def lineage : Nat → ExcClass → List ExcClass
  | 0, cls => [cls]
  | steps + 1, cls =>
      match cls.base with
      | none => [cls]
      | some parent => cls :: lineage steps parent

/-- `issubclass(cls, parent)`. No class has more than four proper bases. -/
def isSubclass (cls parent : ExcClass) : Bool :=
  parent ∈ lineage 4 cls

end ExcClass

/-- A piece of an error message: literal text or an interpolated value. -/
inductive MessagePart
  | text (literal : String)
  | str (value : PyStr)
  | int (value : Int)
  | json (value : Json)

/-- A raised exception. -/
structure PyError where
  cls : ExcClass
  message : List MessagePart

/-- `isinstance(error, cls)`. -/
def PyError.isA (error : PyError) (cls : ExcClass) : Bool :=
  error.cls.isSubclass cls

/-- One of the library's own errors: the contract callers of the library rely on. -/
def PyError.isPyJWTError (error : PyError) : Prop :=
  error.isA .pyJWTError = true

instance (error : PyError) : Decidable error.isPyJWTError :=
  inferInstanceAs (Decidable (_ = true))

/-- Outcome of a function of the library: a value or the exception it raised. -/
abbrev Outcome (α : Type) := Except PyError α

/-- `try: attempt except classes as error: handler(error)`. -/
def tryExcept {α : Type} (attempt : Outcome α) (classes : List ExcClass)
    (handler : PyError → Outcome α)
    : Outcome α :=
  match attempt with
  | .ok value => .ok value
  | .error error => if classes.any error.isA then handler error else .error error

@[simp] theorem tryExcept_ok {α : Type} (value : α) (classes : List ExcClass)
    (handler : PyError → Outcome α)
    : tryExcept (.ok value) classes handler = .ok value :=
  rfl

theorem tryExcept_error {α : Type} (error : PyError) (classes : List ExcClass)
    (handler : PyError → Outcome α)
    : tryExcept (.error error) classes handler
      = if classes.any error.isA then handler error else .error error :=
  rfl

/-- A handler that only raises does not change what is returned. -/
theorem tryExcept_raise_eq_ok {α : Type} {attempt : Outcome α} {classes : List ExcClass}
    {translate : PyError → PyError} {value : α}
    : tryExcept attempt classes (fun error => .error (translate error)) = .ok value
      ↔ attempt = .ok value := by
  cases attempt with
  | ok returned => simp
  | error error =>
      rw [tryExcept_error]
      split <;> simp

/-- A guarded attempt returns what it returned, or what the handler made of its error. -/
theorem tryExcept_eq_ok {α : Type} {attempt : Outcome α} {classes : List ExcClass}
    {handler : PyError → Outcome α} {value : α}
    : tryExcept attempt classes handler = .ok value
      ↔ attempt = .ok value
        ∨ ∃ error,
            attempt = .error error
            ∧ classes.any error.isA = true
            ∧ handler error = .ok value := by
  cases attempt with
  | ok returned => simp
  | error error =>
      rw [tryExcept_error]
      constructor
      · intro returned
        rcases ite_eq_iff.mp returned with ⟨caught, handled⟩ | ⟨_, impossible⟩
        · exact Or.inr ⟨error, rfl, caught, handled⟩
        · cases impossible
      · intro h
        rcases h with impossible | ⟨_, same, caught, handled⟩
        · cases impossible
        · cases same
          rw [if_pos caught]
          exact handled

/-- A sequence of outcomes returns exactly when both stages do. -/
theorem outcome_bind_eq_ok {α β : Type} {first : Outcome α} {next : α → Outcome β}
    {output : β}
    : (first >>= next) = .ok output
      ↔ ∃ value, first = .ok value ∧ next value = .ok output := by
  cases first <;> simp [Bind.bind, Except.bind]

@[simp] theorem outcome_ok_bind {α β : Type} (value : α) (next : α → Outcome β)
    : ((Except.ok value : Outcome α) >>= next) = next value :=
  rfl

@[simp] theorem outcome_error_bind {α β : Type} (error : PyError) (next : α → Outcome β)
    : ((Except.error error : Outcome α) >>= next) = .error error :=
  rfl

/-- Every error of the outcome satisfies `expected`. -/
def FailsWith {α : Type} (expected : PyError → Prop) (outcome : Outcome α) : Prop :=
  ∀ error, outcome = .error error → expected error

@[simp] theorem failsWith_ok {α : Type} {expected : PyError → Prop} (value : α)
    : FailsWith expected (.ok value : Outcome α) :=
  nofun

@[simp] theorem failsWith_error {α : Type} {expected : PyError → Prop} {error : PyError}
    : FailsWith expected (.error error : Outcome α) ↔ expected error := by
  constructor
  · intro h
    exact h error rfl
  · intro h other same
    cases same
    exact h

/-- A conditional fails as expected when each branch does where it is taken. -/
theorem failsWith_ite {α : Type} {expected : PyError → Prop} {condition : Prop}
    [Decidable condition] {yes no : Outcome α}
    : FailsWith expected (if condition then yes else no)
      ↔ (condition → FailsWith expected yes) ∧ (¬condition → FailsWith expected no) := by
  by_cases h : condition <;> simp [h]

/-- A sequence fails as expected exactly when its first stage does, and its second does
wherever it is reached.
-/
theorem failsWith_bind {α β : Type} {expected : PyError → Prop} {first : Outcome α}
    {next : α → Outcome β}
    : FailsWith expected (first >>= next)
      ↔ FailsWith expected first
        ∧ ∀ value, first = .ok value → FailsWith expected (next value) := by
  cases first <;> simp [FailsWith, Bind.bind, Except.bind]

/-- A guarded attempt fails as expected exactly when what escapes the guard does, and the
handler does wherever it takes over.
-/
theorem failsWith_tryExcept {α : Type} {expected : PyError → Prop} {attempt : Outcome α}
    {classes : List ExcClass} {handler : PyError → Outcome α}
    : FailsWith expected (tryExcept attempt classes handler)
      ↔ FailsWith (fun error => classes.any error.isA = true ∨ expected error) attempt
        ∧ ∀ error,
            attempt = .error error
            → classes.any error.isA = true
            → FailsWith expected (handler error) := by
  cases attempt with
  | ok value => simp
  | error error =>
      rw [tryExcept_error, failsWith_ite, failsWith_error, failsWith_error]
      simp only [Except.error.injEq, forall_eq']
      constructor
      · intro h
        refine ⟨?_, h.1⟩
        by_cases caught : classes.any error.isA = true
        · exact Or.inl caught
        · exact Or.inr (h.2 caught)
      · intro h
        exact ⟨h.2, fun escaped => h.1.resolve_left escaped⟩

/-- An outcome with no expected error at all fails as expected only by returning. -/
theorem failsWith_iff_returns {α : Type} {expected : PyError → Prop} {outcome : Outcome α}
    (h : FailsWith (fun error => ¬expected error) outcome)
    : FailsWith expected outcome ↔ ∃ value, outcome = .ok value := by
  cases outcome with
  | ok value => simp
  | error error =>
      rw [failsWith_error]
      exact iff_of_false (failsWith_error.mp h) (by simp)

/-- A stage with no expected error, followed by a second. -/
theorem failsWith_bind_of_returns {α β : Type} {expected : PyError → Prop}
    {first : Outcome α} {next : α → Outcome β} {condition : α → Prop}
    (returns : FailsWith expected first ↔ ∃ value, first = .ok value)
    (h : ∀ value, FailsWith expected (next value) ↔ condition value)
    : FailsWith expected (first >>= next) ↔ ∃ value, first = .ok value ∧ condition value := by
  rw [failsWith_bind, returns]
  constructor
  · intro whole
    obtain ⟨value, returned⟩ := whole.1
    exact ⟨value, returned, (h value).mp (whole.2 value returned)⟩
  · intro whole
    obtain ⟨value, returned, holds⟩ := whole
    refine ⟨⟨value, returned⟩, fun other same => ?_⟩
    cases returned.symm.trans same
    exact (h _).mpr holds

/-- The outcome is a value that `accepts` holds of. -/
def returnsWith {α : Type} (accepts : α → Bool) (outcome : Outcome α) : Bool :=
  match outcome with
  | .ok value => accepts value
  | .error _ => false

theorem of_returnsWith {α : Type} {accepts : α → Bool} {outcome : Outcome α}
    (h : returnsWith accepts outcome = true)
    : ∃ value, outcome = .ok value ∧ accepts value = true := by
  cases outcome with
  | ok value => exact ⟨value, rfl, h⟩
  | error error => cases h

/-- The outcome is an error that `accepts` holds of. -/
def raisesWith {α : Type} (accepts : PyError → Bool) (outcome : Outcome α) : Bool :=
  match outcome with
  | .ok _ => false
  | .error error => accepts error

theorem of_raisesWith {α : Type} {accepts : PyError → Bool} {outcome : Outcome α}
    (h : raisesWith accepts outcome = true)
    : ∃ error, outcome = .error error ∧ accepts error = true := by
  cases outcome with
  | ok value => cases h
  | error error => exact ⟨error, rfl, h⟩

end PyJwt
