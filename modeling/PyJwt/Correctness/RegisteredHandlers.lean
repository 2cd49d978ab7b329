import Mathlib.Logic.Function.Basic
import PyJwt.Correctness.EncodeStages
import PyJwt.Correctness.JwkAlgorithm

/-! Which handler signs and verifies after any sequence of registry calls. Signing looks up the
name of the algorithm whatever the key is; verifying under a `PyJWK` never asks the registry.
-/

namespace PyJwt

open Foundations
open Python

variable {env : Env}

-----------------------------------------------------------------------------------------
-- The registry as a function of the calls
-----------------------------------------------------------------------------------------

/-- What a call makes of the handlers: the first one registered under a name stays until the
name is removed.
-/
def RegistryCall.effect (handlers : PyStr → Option Algorithm)
    : RegistryCall → PyStr → Option Algorithm
  | register algId algObj => Function.update handlers algId ((handlers algId).or algObj)
  | unregister algId => Function.update handlers algId none

/-- The default handlers that the constructor keeps. -/
def constructedHandlers (env : Env) (names : Option (List PyStr)) (name : PyStr)
    : Option Algorithm :=
  if names.all (fun names => name ∈ names) then (getDefaultAlgorithms env).get? name else none

/-- The handlers after the constructor and the calls. -/
def handlersAfter (env : Env) (names : Option (List PyStr)) (calls : List RegistryCall)
    : PyStr → Option Algorithm :=
  calls.foldl RegistryCall.effect (constructedHandlers env names)

/-- The instance after the constructor and the calls, whether they succeed or raise. -/
def instanceAfter (env : Env) (names : Option (List PyStr)) (options : Option SigOptions)
    (calls : List RegistryCall)
    : PyJWS :=
  calls.foldl RegistryCall.apply (PyJWS.init env names options)

/-- Each call has its effect on the table of the instance. -/
theorem RegistryCall.get?_apply (jws : PyJWS) (call : RegistryCall)
    : (call.apply jws).algorithms.get? = call.effect jws.algorithms.get? := by
  funext name
  cases call with
  | register algId algObj =>
      show (jws.registerAlgorithm algId algObj).1.algorithms.get? name = _
      rw [effect, Function.update_apply]
      unfold PyJWS.registerAlgorithm Dict.contains
      by_cases here : name = algId
      · subst here
        cases stored : jws.algorithms.get? name with
        | some handler => simp [stored]
        | none => cases algObj <;> simp [stored]
      · rw [if_neg here]
        split
        · rfl
        · cases algObj with
          | none => rfl
          | some handler => simp [here]
  | unregister algId =>
      show (jws.unregisterAlgorithm algId).1.algorithms.get? name = _
      rw [effect, Function.update_apply]
      unfold PyJWS.unregisterAlgorithm Dict.contains
      by_cases here : name = algId
      · subst here
        cases stored : jws.algorithms.get? name with
        | none => simp [stored]
        | some handler =>
            simp only [Option.isSome_some, Bool.not_true, Bool.false_eq_true, if_false, if_true]
            split <;> simp
      · rw [if_neg here]
        split
        · rfl
        · split <;> simp [here]

/-- The constructor's table. -/
theorem get?_init (names : Option (List PyStr)) (options : Option SigOptions)
    : (PyJWS.init env names options).algorithms.get? = constructedHandlers env names := by
  funext name
  unfold PyJWS.init constructedHandlers
  rw [Dict.get?_filterKeys]
  cases names with
  | some names => simp
  | none =>
      have listed : (if name ∈ (getDefaultAlgorithms env).keys then
            (getDefaultAlgorithms env).get? name else none)
          = (getDefaultAlgorithms env).get? name := by
        split
        · rfl
        · rename_i absent
          rw [← Dict.contains_iff_mem_keys, Dict.contains, Option.not_isSome_iff_eq_none]
            at absent
          exact absent.symm
      simpa using listed

/-- The table of the instance after every sequence of calls, by induction on the calls. -/
theorem get?_instanceAfter (names : Option (List PyStr)) (options : Option SigOptions)
    (calls : List RegistryCall)
    : (instanceAfter env names options calls).algorithms.get? = handlersAfter env names calls := by
  unfold instanceAfter handlersAfter
  rw [← get?_init names options]
  generalize PyJWS.init env names options = jws
  induction calls generalizing jws with
  | nil => rfl
  | cons call rest ih => rw [List.foldl_cons, List.foldl_cons, ih, call.get?_apply]

-----------------------------------------------------------------------------------------
-- Which handler was called
-----------------------------------------------------------------------------------------

/-- The one handler that verified is registered under the name that the header states. -/
def VerifiedByRegistered (handlers : PyStr → Option Algorithm) (header : Dict Json)
    (log : List Event)
    : Prop :=
  ∃ name handler,
    header.get? "alg" = some (.str name)
    ∧ handlers name = some handler
    ∧ (∃ msg prepared sig, Event.verify handler msg prepared sig ∈ log)
    ∧ ∀ other msg prepared sig, Event.verify other msg prepared sig ∈ log → other = handler

/-- The one handler that signed is registered under the resolved name. -/
def SignedByRegistered (handlers : PyStr → Option Algorithm) (algorithm : Json)
    (log : List Event)
    : Prop :=
  ∃ name handler,
    algorithm = .str name
    ∧ handlers name = some handler
    ∧ (∃ msg prepared, Event.sign handler msg prepared ∈ log)
    ∧ ∀ other msg prepared, Event.sign other msg prepared ∈ log → other = handler

/-- A key that brings an algorithm brings the one registered under the name that the token's
header states.
-/
def BringsRegistered (env : Env) (handlers : PyStr → Option Algorithm) (jwt : TextArg)
    : KeyArg → Prop
  | .raw _ => True
  | .jwk jwk =>
      ∀ loaded name,
        PyJWS.load env jwt = .ok loaded
        → loaded.header.get? "alg" = some (.str name)
        → handlers name = some jwk.algorithm

variable {jws : PyJWS} {jwt : TextArg} {key : KeyArg} {algorithms : Option (List PyStr)}
  {options : Option SigOptions} {detachedPayload : Option Bytes}

/-- A verification that accepted states a name. -/
theorem PyJWS.Verifies.stated {signingInput signature : Bytes} {header : Dict Json} {alg : Json}
    {algObj : Algorithm} {prepared : Key} (named : NamesAlgorithms key algorithms)
    (h : Verifies env jws signingInput header signature key algorithms alg algObj prepared)
    : ∃ name, alg = .str name ∧ header.get? "alg" = some (.str name) := by
  have stated := (allowedAlg_eq_ok.mp h.allowed).1
  cases key with
  | raw key =>
      obtain ⟨names, name, _, _, found, _⟩ := listed_of_verifies named h
      exact ⟨name, Option.some.inj (stated.symm.trans found), found⟩
  | jwk jwk =>
      obtain ⟨name, found, _⟩ := allowedAlg_jwk h.allowed
      exact ⟨name, Option.some.inj (stated.symm.trans found), found⟩

/-- A verifying decode that returned called one handler, the one chosen for the stated name. -/
theorem chosen_of_decodeComplete {decoded : PyJWS.Decoded}
    (verifying : (jws.options.merge options).verifySignature = true)
    (returned : (jws.decodeComplete env jwt key algorithms options detachedPayload).result
      = .ok decoded)
    : ∃ loaded name handler,
        PyJWS.load env jwt = .ok loaded
        ∧ decoded.header = loaded.header
        ∧ loaded.header.get? "alg" = some (.str name)
        ∧ jws.verifyingAlgorithm env (.str name) key = .ok handler
        ∧ (∃ msg prepared sig, Event.verify handler msg prepared sig
          ∈ (jws.decodeComplete env jwt key algorithms options detachedPayload).log)
        ∧ ∀ other msg prepared sig,
            Event.verify other msg prepared sig
              ∈ (jws.decodeComplete env jwt key algorithms options detachedPayload).log
            → other = handler := by
  obtain ⟨segments, loaded, signingInput, opens, header, _, verified⟩ :=
    PyJWS.decodeComplete_eq_ok.mp returned
  obtain ⟨named, alg, handler, prepared, verifies⟩ := verified verifying
  obtain ⟨name, rfl, stated⟩ := verifies.stated named
  refine ⟨loaded, name, handler, PyJWS.load_eq_ok_iff.mpr ⟨segments, opens.loads⟩, header,
    stated, verifies.chosen, ⟨signingInput, prepared, loaded.signature, ?_⟩, ?_⟩
  · refine PyJWS.mem_decodeComplete_log.mpr
      ⟨verifying, named, segments, loaded, _, signingInput, opens, ?_⟩
    exact PyJWS.mem_verifySignature_log.mpr ⟨.str name, handler, verifies.allowed,
      verifies.chosen, Or.inr ⟨prepared, verifies.prepares, verifies.length, rfl⟩⟩
  · intro other msg key' sig called
    obtain ⟨_, _, segments', loaded', payload', signingInput', opens', member⟩ :=
      PyJWS.mem_decodeComplete_log.mp called
    obtain ⟨_, rfl, _, _⟩ := opens.unique opens'
    obtain ⟨alg, algObj, allowed, chosen, warned | ⟨_, _, _, same⟩⟩ :=
      PyJWS.mem_verifySignature_log.mp member
    · obtain ⟨message, impossible⟩ := PyJWS.prepareSigningKey_logs jws algObj key _ warned
      cases impossible
    · cases same
      have sameAlg := Except.ok.inj (verifies.allowed.symm.trans allowed)
      subst sameAlg
      exact Except.ok.inj (chosen.symm.trans verifies.chosen)

/-- A name that is found is a registered string. -/
theorem getAlgorithmByName_eq_ok {alg : Json} {handler : Algorithm}
    : jws.getAlgorithmByName env alg = .ok handler
      ↔ ∃ name, alg = .str name ∧ jws.algorithms.get? name = some handler := by
  cases alg with
  | str name => simp [PyJWS.getAlgorithmByName_str_eq_ok]
  | list _ | dict _ => simp [PyJWS.getAlgorithmByName, requireHashable]
  | null | bool _ | int _ | float _ =>
      simp [PyJWS.getAlgorithmByName, requireHashable, Json.asStr?]

/-- An encode that returned signed with the handler registered under the resolved name. -/
theorem signedByRegistered_of_encode {payload : Bytes} {algorithm : AlgorithmArg}
    {headers : Option (Dict Json)} {isPayloadDetached sortHeaders : Bool} {token : PyStr}
    (returned : (jws.encode env payload key algorithm headers isPayloadDetached
        sortHeaders).result
      = .ok token)
    : SignedByRegistered jws.algorithms.get?
        (PyJWS.resolveAlgorithm algorithm key headers isPayloadDetached).1
        (jws.encode env payload key algorithm headers isPayloadDetached sortHeaders).log := by
  obtain ⟨alg, detached, header, data, handler, prepared, signature, settles, prepares, length,
    _, _⟩ := PyJWS.encode_eq_ok.mp returned
  obtain ⟨name, rfl, registered⟩ := getAlgorithmByName_eq_ok.mp settles.chosen
  refine ⟨name, handler, congrArg Prod.fst settles.resolved, registered,
    ⟨_, prepared, PyJWS.mem_encode_log.mpr ⟨_, _, _, _, _, settles,
      Or.inr ⟨prepared, prepares, length, rfl⟩⟩⟩, ?_⟩
  intro other msg key' called
  obtain ⟨_, _, _, _, chosen, settles', warned | ⟨_, _, _, same⟩⟩ :=
    PyJWS.mem_encode_log.mp called
  · obtain ⟨message, impossible⟩ := PyJWS.prepareSigningKey_logs jws chosen key _ warned
    cases impossible
  · cases same
    exact (settles.unique settles').2.2.2.2.symm

/-- After any calls of the registry, what signs is registered at that moment, and so is what
verifies under a raw key. Under a `PyJWK` that is so precisely when the handler registered
under the stated name is the key's own.
-/
theorem registered_iff (env : Env) (names : Option (List PyStr))
    (constructed : Option SigOptions) (calls : List RegistryCall)
    : (∀ (jwt : TextArg) (key : KeyArg) (algorithms : Option (List PyStr))
        (options : Option SigOptions) (detachedPayload : Option Bytes)
        (decoded : PyJWS.Decoded),
        ((instanceAfter env names constructed calls).options.merge options).verifySignature = true
        → ((instanceAfter env names constructed calls).decodeComplete env jwt key algorithms
            options detachedPayload).result
          = .ok decoded
        → (VerifiedByRegistered (handlersAfter env names calls) decoded.header
              ((instanceAfter env names constructed calls).decodeComplete env jwt key algorithms
                options detachedPayload).log
            ↔ BringsRegistered env (handlersAfter env names calls) jwt key))
      ∧ ∀ (payload : Bytes) (key : KeyArg) (algorithm : AlgorithmArg)
          (headers : Option (Dict Json)) (isPayloadDetached sortHeaders : Bool) (token : PyStr),
          ((instanceAfter env names constructed calls).encode env payload key algorithm headers
            isPayloadDetached sortHeaders).result
          = .ok token
          → SignedByRegistered (handlersAfter env names calls)
              (PyJWS.resolveAlgorithm algorithm key headers isPayloadDetached).1
              ((instanceAfter env names constructed calls).encode env payload key algorithm
                headers isPayloadDetached sortHeaders).log := by
  have table := @get?_instanceAfter env names constructed calls
  generalize instanceAfter env names constructed calls = jws at table ⊢
  constructor
  · intro jwt key algorithms options detachedPayload decoded verifying returned
    obtain ⟨loaded, name, handler, loads, header, stated, chosen, called, only⟩ :=
      chosen_of_decodeComplete verifying returned
    cases key with
    | raw key =>
        refine iff_of_true ⟨name, handler, header ▸ stated, ?_, called, only⟩ trivial
        rw [← table]
        simp only [PyJWS.verifyingAlgorithm, tryExcept_raise_eq_ok] at chosen
        exact PyJWS.getAlgorithmByName_str_eq_ok.mp chosen
    | jwk jwk =>
        obtain rfl := Except.ok.inj chosen
        constructor
        · intro verified loaded' name' loads' stated'
          obtain ⟨name'', handler, found, registered, ⟨msg, prepared, sig, member⟩, _⟩ :=
            verified
          cases loads'.symm.trans loads
          cases stated'.symm.trans (header ▸ found)
          rw [registered, only handler msg prepared sig member]
        · intro brings
          exact ⟨name, jwk.algorithm, header ▸ stated, brings loaded name loads stated, called,
            only⟩
  · intro payload key algorithm headers isPayloadDetached sortHeaders token returned
    rw [← table]
    exact signedByRegistered_of_encode returned

/-- A `PyJWK` for a registered algorithm verifies with the registered handler. -/
theorem registered_iff_default
    : ∃ jwk decoded,
        PyJWK.init digestEnv (octJwk "HS256") none = .ok jwk
        ∧ ((PyJWS.init digestEnv none none).decodeComplete digestEnv (.bytes signedToken)
            (.jwk jwk) none none none).result
          = .ok decoded
        ∧ VerifiedByRegistered (handlersAfter digestEnv none []) decoded.header
            ((PyJWS.init digestEnv none none).decodeComplete digestEnv (.bytes signedToken)
              (.jwk jwk) none none none).log := by
  obtain ⟨jwk, made, returns⟩ := of_returnsWith
    (by decide +kernel : returnsWith
      (fun jwk =>
        returnsWith (fun _ => true)
            ((PyJWS.init digestEnv none none).decodeComplete digestEnv (.bytes signedToken)
              (.jwk jwk) none none none).result
          && returnsWith
            (fun loaded =>
              (loaded.header.get? "alg").bind Json.asStr? = some jwk.algorithmName)
            (PyJWS.load digestEnv (.bytes signedToken)))
      (PyJWK.init digestEnv (octJwk "HS256") none) = true)
  rw [Bool.and_eq_true] at returns
  obtain ⟨decoded, returned, _⟩ := of_returnsWith returns.1
  obtain ⟨opened, opens, isName⟩ := of_returnsWith returns.2
  refine ⟨jwk, decoded, made, returned, ?_⟩
  refine ((registered_iff digestEnv none none []).1 (.bytes signedToken) (.jwk jwk) none none none
    decoded rfl returned).mpr ?_
  intro loaded name loads stated
  cases opens.symm.trans loads
  have named : name = jwk.algorithmName := by
    simpa [stated, Json.asStr?] using isName
  rw [named]
  exact PyJWK.init_algorithm made

/-- Once `HS256` is removed, a `PyJWK` for it still verifies. -/
theorem registered_removed
    : ∃ jwk decoded,
        PyJWK.init digestEnv (octJwk "HS256") none = .ok jwk
        ∧ ((instanceAfter digestEnv none none [.unregister "HS256"]).decodeComplete digestEnv
            (.bytes signedToken) (.jwk jwk) none none none).result
          = .ok decoded
        ∧ decoded.header.get? "alg" = some (.str "HS256")
        ∧ handlersAfter digestEnv none [.unregister "HS256"] "HS256" = none
        ∧ ¬VerifiedByRegistered (handlersAfter digestEnv none [.unregister "HS256"])
            decoded.header
            ((instanceAfter digestEnv none none [.unregister "HS256"]).decodeComplete digestEnv
              (.bytes signedToken) (.jwk jwk) none none none).log := by
  obtain ⟨jwk, made, returns⟩ := of_returnsWith
    (by decide +kernel : returnsWith
      (fun jwk => returnsWith
        (fun decoded =>
          (decoded.header.get? "alg").bind Json.asStr? = some (PyStr.ofString "HS256"))
        ((instanceAfter digestEnv none none [.unregister "HS256"]).decodeComplete digestEnv
          (.bytes signedToken) (.jwk jwk) none none none).result)
      (PyJWK.init digestEnv (octJwk "HS256") none) = true)
  obtain ⟨decoded, returned, stated⟩ := of_returnsWith returns
  obtain ⟨alg, found, isName⟩ := Option.bind_eq_some_iff.mp (of_decide_eq_true stated)
  rw [Json.asStr?_eq_some.mp isName] at found
  have removed : handlersAfter digestEnv none [.unregister "HS256"] "HS256" = none := by
    simp [handlersAfter, RegistryCall.effect]
  refine ⟨jwk, decoded, made, returned, found, removed, fun verified => ?_⟩
  obtain ⟨name, handler, stated, registered, _⟩ := verified
  cases found.symm.trans stated
  cases removed.symm.trans registered

end PyJwt
