import PyJwt.Implementation.ApiJws

/-! The algorithm registry over whole runs: from any constructor call, through any sequence
of registrations and removals, whether they succeed or raise.
-/

namespace PyJwt

open Python

/-- A call that changes the registry. -/
inductive RegistryCall
  | register (algId : PyStr) (algObj : Option Algorithm)
  | unregister (algId : PyStr)

/-- The instance after the call, also when the call raised. -/
def RegistryCall.apply (jws : PyJWS) : RegistryCall → PyJWS
  | register algId algObj => (jws.registerAlgorithm algId algObj).1
  | unregister algId => (jws.unregisterAlgorithm algId).1

namespace PyJWS

variable {env : Env} {names : Option (List PyStr)} {options : Option SigOptions}

/-- The instances a constructor call and later registry calls lead to. -/
inductive Reachable (env : Env) (names : Option (List PyStr)) (options : Option SigOptions)
    : PyJWS → Prop
  | init : Reachable env names options (PyJWS.init env names options)
  | step {jws : PyJWS} (call : RegistryCall) (h : Reachable env names options jws)
    : Reachable env names options (call.apply jws)

/-- What holds of the constructed instance and survives every call holds of every
reachable one, by induction on the calls.
-/
theorem Reachable.invariant (holds : PyJWS → Prop) {jws : PyJWS}
    (h : jws.Reachable env names options)
    (initial : holds (PyJWS.init env names options))
    (preserved : ∀ jws call, holds jws → holds (RegistryCall.apply jws call))
    : holds jws := by
  induction h with
  | init => exact initial
  | step call _ ih => exact preserved _ call ih

/-- What a registration does: it raises and changes nothing, or the name was free and now
has the handler.
-/
theorem registerAlgorithm_cases (jws : PyJWS) (algId : PyStr) (algObj : Option Algorithm)
    : (jws.registerAlgorithm algId algObj).1 = jws
      ∨ ∃ handler,
          algObj = some handler
          ∧ jws.algorithms.contains algId = false
          ∧ jws.registerAlgorithm algId algObj
            = (
              {
                jws with
                algorithms := jws.algorithms.set algId handler
                validAlgs := jws.validAlgs.insert algId
              },
              .ok ()
            ) := by
  unfold registerAlgorithm
  split
  · exact Or.inl rfl
  · rename_i free
    cases algObj with
    | none => exact Or.inl rfl
    | some handler => exact Or.inr ⟨handler, rfl, by simpa using free, rfl⟩

/-- What a removal does to the two tables. -/
theorem unregisterAlgorithm_cases (jws : PyJWS) (algId : PyStr)
    : (jws.unregisterAlgorithm algId).1 = jws
      ∨ jws.algorithms.contains algId = true
        ∧ (jws.unregisterAlgorithm algId).1
          = {
              jws with
              algorithms := jws.algorithms.erase algId
              validAlgs := jws.validAlgs.erase algId
            } := by
  unfold unregisterAlgorithm
  split
  · exact Or.inl rfl
  · rename_i present
    refine Or.inr ⟨by simpa using present, ?_⟩
    split
    · rfl
    · rename_i unlisted
      simp only [List.erase_of_not_mem unlisted]

-----------------------------------------------------------------------------------------
-- Options
-----------------------------------------------------------------------------------------

/-- No registry call changes the options. -/
theorem apply_options (jws : PyJWS) (call : RegistryCall)
    : (call.apply jws).options = jws.options := by
  cases call with
  | register algId algObj =>
      show (jws.registerAlgorithm algId algObj).1.options = jws.options
      rcases jws.registerAlgorithm_cases algId algObj with same | ⟨_, _, _, changed⟩
      · rw [same]
      · rw [changed]
  | unregister algId =>
      show (jws.unregisterAlgorithm algId).1.options = jws.options
      rcases jws.unregisterAlgorithm_cases algId with same | ⟨_, changed⟩
      · rw [same]
      · rw [changed]

/-- The options of a reachable instance are the constructor's. -/
theorem Reachable.options_eq {jws : PyJWS} (h : jws.Reachable env names options)
    : jws.options = getDefaultOptions.merge options :=
  h.invariant (fun jws => jws.options = getDefaultOptions.merge options) rfl
    (fun jws call same => (apply_options jws call).trans same)

-----------------------------------------------------------------------------------------
-- Listed names
-----------------------------------------------------------------------------------------

/-- Every registered name is listed, and no name is listed twice. -/
structure Listed (jws : PyJWS) : Prop where
  registered : ∀ name, jws.algorithms.contains name = true → name ∈ jws.validAlgs
  distinct : jws.validAlgs.Nodup

theorem listed_init : (PyJWS.init env names options).Listed := by
  have kept {name : PyStr} {keep : PyStr → Bool}
      (h : ((getDefaultAlgorithms env).filterKeys keep).contains name = true)
      : keep name = true := by
    rw [Dict.contains_iff_mem_keys] at h
    obtain ⟨entry, member, rfl⟩ := List.mem_map.mp h
    exact (List.mem_filter.mp member).2
  refine ⟨fun name registered => of_decide_eq_true (kept registered), ?_⟩
  cases names with
  | none => exact (getDefaultAlgorithms env).nodupKeys
  | some names => exact List.nodup_dedup names

/-- Every registry call keeps the two tables in step. -/
theorem listed_apply {jws : PyJWS} (h : jws.Listed) (call : RegistryCall)
    : (call.apply jws).Listed := by
  cases call with
  | register algId algObj =>
      show (jws.registerAlgorithm algId algObj).1.Listed
      rcases jws.registerAlgorithm_cases algId algObj with same | ⟨handler, _, _, changed⟩
      · rwa [same]
      · rw [changed]
        refine ⟨fun name registered => ?_, h.distinct.insert⟩
        simp only [Dict.contains, Dict.get?_set] at registered
        by_cases here : name = algId
        · exact here ▸ List.mem_insert_self
        · rw [if_neg here] at registered
          exact List.mem_insert_of_mem (h.registered name registered)
  | unregister algId =>
      show (jws.unregisterAlgorithm algId).1.Listed
      rcases jws.unregisterAlgorithm_cases algId with same | ⟨_, changed⟩
      · rwa [same]
      · rw [changed]
        refine ⟨fun name registered => ?_, h.distinct.erase algId⟩
        simp only [Dict.contains, Dict.get?_erase] at registered
        by_cases here : name = algId
        · rw [if_pos here] at registered
          cases registered
        · rw [if_neg here] at registered
          exact (List.mem_erase_of_ne here).mpr (h.registered name registered)

theorem Reachable.listed {jws : PyJWS} (h : jws.Reachable env names options) : jws.Listed :=
  h.invariant Listed listed_init (fun _ call listed => listed_apply listed call)

/-- A removal succeeds exactly when the name is registered, where every handler's name is
listed: the second table then has the name too.
-/
theorem unregisterAlgorithm_eq_ok {jws : PyJWS} (listed : jws.Listed) (algId : PyStr)
    : (jws.unregisterAlgorithm algId).2 = .ok () ↔ jws.algorithms.contains algId = true := by
  unfold unregisterAlgorithm
  cases present : jws.algorithms.contains algId with
  | false => simp
  | true => simp [listed.registered algId present]

end PyJWS

end PyJwt
