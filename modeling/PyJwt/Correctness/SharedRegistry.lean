import PyJwt.Correctness.JwtRoundTrip
import PyJwt.Correctness.RegisteredHandlers
import PyJwt.Foundations.Objects
import PyJwt.Implementation.JwksClient
import PyJwt.Implementation.Package

/-! Who shares a registry. The module functions for tokens and for claims use one; every other
instance has its own, and the client for keys uses none.
-/

namespace PyJwt

open Foundations
open Python

variable {env : Env}

namespace Package

-----------------------------------------------------------------------------------------
-- Instances as objects
-----------------------------------------------------------------------------------------

/-- The registry call that the statement makes on the `PyJWS` at the reference. -/
def registryCall? (jws : Nat) : Statement → Option RegistryCall
  | .registerAlgorithm target algId algObj =>
      if target = jws then some (.register algId algObj) else none
  | .unregisterAlgorithm target algId =>
      if target = jws then some (.unregister algId) else none
  | _ => none

def registryCalls (jws : Nat) (program : List Statement) : List RegistryCall :=
  program.filterMap (registryCall? jws)

/-- What the statement does to the `PyJWS` instances. -/
def Statement.action (env : Env) : Statement → ObjectAction PyJWS RegistryCall
  | .pyJws algorithms options => .make (PyJWS.init env algorithms options)
  | .pyJwt options => .make (PyJWT.init env options).jws
  | .registerAlgorithm jws algId algObj => .send jws (.register algId algObj)
  | .unregisterAlgorithm jws algId => .send jws (.unregister algId)

theorem message?_action (jws : Nat) (statement : Statement)
    : (statement.action env).message? jws = registryCall? jws statement := by
  cases statement <;> rfl

theorem received_actions (jws : Nat) (program : List Statement)
    : ObjectAction.received jws (program.map (Statement.action env))
      = registryCalls jws program := by
  unfold ObjectAction.received registryCalls
  rw [List.filterMap_map]
  exact List.filterMap_congr (fun statement _ => message?_action jws statement)

theorem execute_jws (package : Package) (statement : Statement)
    : (package.execute env statement).jws
      = (statement.action env).apply RegistryCall.apply package.jws := by
  cases statement <;> rfl

/-- A program runs on the `PyJWS` instances as actions do, by induction on the program. -/
theorem foldl_execute_jws (package : Package) (program : List Statement)
    : (program.foldl (execute env) package).jws
      = (program.map (Statement.action env)).foldl (ObjectAction.apply RegistryCall.apply)
          package.jws := by
  induction program generalizing package with
  | nil => rfl
  | cons statement rest ih =>
      rw [List.foldl_cons, ih, execute_jws, List.map_cons, List.foldl_cons]

/-- A statement makes at most one more `PyJWT`, and changes none. -/
theorem execute_jwt (package : Package) (statement : Statement)
    : ∃ made, (package.execute env statement).jwt = package.jwt ++ made := by
  cases statement with
  | pyJwt options => exact ⟨_, rfl⟩
  | pyJws _ _ | registerAlgorithm _ _ _ | unregisterAlgorithm _ _ =>
      exact ⟨[], (List.append_nil _).symm⟩

/-- A `PyJWT` keeps its options and its `PyJWS`, by induction on the program. -/
theorem foldl_execute_jwt {package : Package} {jwt : Nat} {object : JwtObject}
    (h : package.jwt[jwt]? = some object) (program : List Statement)
    : (program.foldl (execute env) package).jwt[jwt]? = some object := by
  induction program generalizing package with
  | nil => exact h
  | cons statement rest ih =>
      obtain ⟨made, isMade⟩ := @execute_jwt env package statement
      obtain ⟨bound, _⟩ := List.getElem?_eq_some_iff.mp h
      refine ih ?_
      rw [isMade, List.getElem?_append_left bound, h]

-----------------------------------------------------------------------------------------
-- One instance over a program
-----------------------------------------------------------------------------------------

/-- Every `PyJWS` a program makes comes after the two of the import. -/
theorem two_le_length_jws (program : List Statement) : 2 ≤ (run env program).jws.length := by
  unfold run
  rw [foldl_execute_jws]
  exact ObjectAction.length_le_length_foldl (imported env).jws _

theorem run_jws_global (program : List Statement)
    : (run env program).jws[jwsGlobalObj]?
      = some (instanceAfter env none none (registryCalls jwsGlobalObj program)) := by
  unfold run
  rw [foldl_execute_jws,
    ObjectAction.getElem?_foldl (show (imported env).jws[jwsGlobalObj]? = _ from rfl),
    received_actions]
  rfl

theorem pyJwt?_of_get? {package : Package} {jwt : Nat} {object : JwtObject} {jws : PyJWS}
    (isObject : package.jwt[jwt]? = some object) (isJws : package.jws[object.jws]? = some jws)
    : package.pyJwt? jwt = some { options := object.options, jws } := by
  simp [pyJwt?, isObject, isJws]

theorem run_pyJwt?_global (program : List Statement)
    : (run env program).pyJwt? jwtGlobalObj
      = some {
          options := PyJWT.getDefaultOptions
          jws := instanceAfter env none none (registryCalls jwsGlobalObj program)
        } := by
  have object : (run env program).jwt[jwtGlobalObj]?
      = some ⟨PyJWT.getDefaultOptions, jwsGlobalObj⟩ :=
    foldl_execute_jwt rfl program
  exact pyJwt?_of_get? object (run_jws_global program)

/-- A `PyJWS` that a program makes is what later calls on it have made of it. -/
theorem run_jws_made {statement : Statement} {made : PyJWS}
    (makes : statement.action env = .make made) (before after : List Statement)
    : (run env (before ++ statement :: after)).jws[(run env before).jws.length]?
      = some ((registryCalls (run env before).jws.length after).foldl RegistryCall.apply made) := by
  have sameLength : (run env before).jws.length
      = ((before.map (Statement.action env)).foldl (ObjectAction.apply RegistryCall.apply)
          (imported env).jws).length := by
    unfold run
    rw [foldl_execute_jws]
  rw [← @received_actions env, sameLength]
  unfold run
  rw [foldl_execute_jws, List.map_append, List.map_cons, makes]
  exact ObjectAction.getElem?_made _ _ _ _

/-- A `PyJWT` that a program makes has the options it was given and the `PyJWS` it made. -/
theorem run_pyJwt?_made (before : List Statement) (options : Option Options)
    (after : List Statement)
    : (run env (before ++ .pyJwt options :: after)).pyJwt? (run env before).jwt.length
      = some ((PyJWT.init env options).withJws
          ((registryCalls (run env before).jws.length after).foldl RegistryCall.apply
            (PyJWT.init env options).jws)) := by
  have object : (run env (before ++ .pyJwt options :: after)).jwt[(run env before).jwt.length]?
      = some ⟨(PyJWT.init env options).options, (run env before).jws.length⟩ := by
    have split : run env (before ++ .pyJwt options :: after)
        = after.foldl (execute env) ((run env before).execute env (.pyJwt options)) := by
      unfold run
      rw [List.foldl_append, List.foldl_cons]
    rw [split]
    refine foldl_execute_jwt ?_ after
    exact List.getElem?_concat_length
  exact pyJwt?_of_get? object (run_jws_made rfl before after)

end Package

-----------------------------------------------------------------------------------------
-- Key lookups
-----------------------------------------------------------------------------------------

/-- A decode that does not verify uses no registry. -/
theorem PyJWT.decodeComplete_withJws (self : PyJWT) (jws : PyJWS) (jwt : TextArg) (key : KeyArg)
    (algorithms : Option (List PyStr)) {options : Option Options}
    (unverified : PyJWT.signatureFlag options = false) (detachedPayload : Option Bytes)
    (expected : PyJWT.Expected) (now : Rat)
    : (self.withJws jws).decodeComplete env jwt key algorithms options detachedPayload expected
        now
      = self.decodeComplete env jwt key algorithms options detachedPayload expected now := by
  have opened (jws : PyJWS) := @PyJWS.decodeComplete_unverified env jws jwt key algorithms
    (some { verifySignature := some (PyJWT.signatureFlag options) }) detachedPayload unverified
  simp only [PyJWT.decodeComplete, PyJWT.withJws, opened]

/-- Looking up the key of a token uses no registry. -/
theorem PyJWKClient.getSigningKeyFromJwt_withJws (decoder : PyJWT) (jws : PyJWS)
    (token : TextArg) (now : Rat) (first second : Turn)
    : getSigningKeyFromJwt env (decoder.withJws jws) token now first second
      = getSigningKeyFromJwt env decoder token now first second := by
  unfold getSigningKeyFromJwt
  rw [decoder.decodeComplete_withJws jws token (.raw (.str "")) none rfl]

-----------------------------------------------------------------------------------------
-- Programs
-----------------------------------------------------------------------------------------

/-- In every program the module functions for tokens and for claims use one registry, which only
calls on it change. Every other instance is what it was constructed as and what the calls on its
own registry have made of it, and looking up a key uses no registry at all.
-/
theorem Package.run_instances (env : Env) (program : List Package.Statement)
    : (∃ shared,
        (Package.run env program).jws[Package.jwsGlobalObj]? = some shared
        ∧ (Package.run env program).pyJwt? Package.jwtGlobalObj
          = some { options := PyJWT.getDefaultOptions, jws := shared }
        ∧ shared
          = instanceAfter env none none (Package.registryCalls Package.jwsGlobalObj program))
      ∧ (∀ before algorithms options after own,
          program = before ++ .pyJws algorithms options :: after
          → own = (Package.run env before).jws.length
          → own ≠ Package.jwsGlobalObj
            ∧ (Package.run env program).jws[own]?
              = some (instanceAfter env algorithms options (Package.registryCalls own after)))
      ∧ (∀ before options after own,
          program = before ++ .pyJwt options :: after
          → own = (Package.run env before).jws.length
          → own ≠ Package.jwsGlobalObj
            ∧ (Package.run env program).pyJwt? (Package.run env before).jwt.length
              = some ((PyJWT.init env options).withJws
                  ((Package.registryCalls own after).foldl RegistryCall.apply
                    (PyJWT.init env options).jws)))
      ∧ ∀ decoder token now first second,
          (Package.run env program).pyJwt? Package.jwtGlobalObj = some decoder
          → PyJWKClient.getSigningKeyFromJwt env decoder token now first second
            = PyJWKClient.getSigningKeyFromJwt env (PyJWT.init env none) token now first
                second := by
  have apart (before : List Package.Statement)
      : (Package.run env before).jws.length ≠ Package.jwsGlobalObj :=
    (Nat.lt_of_lt_of_le Nat.two_pos (Package.two_le_length_jws before)).ne'
  refine ⟨⟨_, Package.run_jws_global program, Package.run_pyJwt?_global program, rfl⟩, ?_, ?_, ?_⟩
  · intro before algorithms options after own split isOwn
    subst split isOwn
    exact ⟨apart before, Package.run_jws_made rfl before after⟩
  · intro before options after own split isOwn
    subst split isOwn
    exact ⟨apart before, Package.run_pyJwt?_made before options after⟩
  · intro decoder token now first second isDecoder
    cases (Package.run_pyJwt?_global program).symm.trans isDecoder
    exact PyJWKClient.getSigningKeyFromJwt_withJws (PyJWT.init env none) _ token now first second

/-- A program that registers `AAA`, makes a `PyJWT` and removes `HS256`. -/
def sharingProgram : List Package.Statement :=
  [
    .registerAlgorithm Package.jwsGlobalObj "AAA" (some .none),
    .pyJwt none,
    .unregisterAlgorithm Package.jwsGlobalObj "HS256"
  ]

/-- The module functions for claims have `AAA` and not `HS256`; the `PyJWT` is like any other. -/
theorem Package.run_instances_sharing
    : (∃ shared,
        (Package.run claimsEnv sharingProgram).pyJwt? Package.jwtGlobalObj = some shared
        ∧ shared.jws.algorithms.contains "AAA" = true
        ∧ shared.jws.algorithms.contains "HS256" = false)
      ∧ (Package.run claimsEnv sharingProgram).pyJwt? 1 = some (PyJWT.init claimsEnv none) := by
  obtain ⟨⟨shared, _, isShared, rfl⟩, _, made, _⟩ :=
    Package.run_instances claimsEnv sharingProgram
  refine ⟨⟨_, isShared, by decide, by decide⟩, ?_⟩
  exact (made [_] none [_] 2 rfl rfl).2

end PyJwt
