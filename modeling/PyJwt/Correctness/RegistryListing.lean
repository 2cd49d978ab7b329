import PyJwt.Correctness.RegisteredHandlers

/-! The two tables of the registry. Every call keeps them in step, and a call that raises
changes neither; the constructor alone can set them apart, with a name it has no handler for.
-/

namespace PyJwt

open Python

variable {env : Env} {names : Option (List PyStr)} {options : Option SigOptions}

/-- What the call returns or raises. -/
def RegistryCall.outcome (jws : PyJWS) : RegistryCall → Outcome Unit
  | register algId algObj => (jws.registerAlgorithm algId algObj).2
  | unregister algId => (jws.unregisterAlgorithm algId).2

namespace PyJWS

/-- The name leads to a handler. -/
def Finds (env : Env) (jws : PyJWS) (name : PyStr) : Prop :=
  ∃ handler, jws.getAlgorithmByName env (.str name) = .ok handler

/-- The listed names are the ones that lead to a handler. -/
def Consistent (env : Env) (jws : PyJWS) : Prop :=
  ∀ name, name ∈ jws.getAlgorithms ↔ jws.Finds env name

/-- The instances list the same names and have the same handlers. -/
structure SameRegistry (jws other : PyJWS) : Prop where
  listed : ∀ name, name ∈ jws.getAlgorithms ↔ name ∈ other.getAlgorithms
  handlers : ∀ name, jws.algorithms.get? name = other.algorithms.get? name

/-- A name without a handler can be registered and removed again, and nothing has changed. -/
def Restores (env : Env) (jws : PyJWS) : Prop :=
  ∀ name handler,
    ¬jws.Finds env name
    → (jws.registerAlgorithm name (some handler)).2 = .ok ()
      ∧ ((jws.registerAlgorithm name (some handler)).1.unregisterAlgorithm name).2 = .ok ()
      ∧ SameRegistry ((jws.registerAlgorithm name (some handler)).1.unregisterAlgorithm name).1
          jws

variable {jws : PyJWS}

theorem finds_iff {name : PyStr}
    : jws.Finds env name ↔ jws.algorithms.contains name = true := by
  unfold Finds Dict.contains
  simp only [getAlgorithmByName_str_eq_ok]
  exact Option.isSome_iff_exists.symm

-----------------------------------------------------------------------------------------
-- Calls
-----------------------------------------------------------------------------------------

/-- A call that raises leaves the instance as it was, where every handler's name is listed: a
removal then finds its name in both tables or in neither.
-/
theorem apply_of_raises (listed : jws.Listed) {call : RegistryCall} {error : PyError}
    (raises : call.outcome jws = .error error)
    : call.apply jws = jws := by
  cases call with
  | register algId algObj =>
      rcases jws.registerAlgorithm_cases algId algObj with same | ⟨_, _, _, changed⟩
      · exact same
      · change (jws.registerAlgorithm algId algObj).2 = _ at raises
        rw [changed] at raises
        cases raises
  | unregister algId =>
      change (jws.unregisterAlgorithm algId).2 = _ at raises
      rcases jws.unregisterAlgorithm_cases algId with same | ⟨present, _⟩
      · exact same
      · rw [(unregisterAlgorithm_eq_ok listed algId).mpr present] at raises
        cases raises

/-- Every call keeps listed names and handlers in step. -/
theorem consistent_apply (listed : jws.Listed) (h : jws.Consistent env) (call : RegistryCall)
    : (call.apply jws).Consistent env := by
  simp only [Consistent, finds_iff, getAlgorithms] at h ⊢
  cases call with
  | register algId algObj =>
      show ∀ name, name ∈ (jws.registerAlgorithm algId algObj).1.validAlgs ↔ _
      rcases jws.registerAlgorithm_cases algId algObj with same | ⟨handler, _, _, changed⟩
      · intro name
        show _ ↔ (jws.registerAlgorithm algId algObj).1.algorithms.contains name = true
        rw [same]
        exact h name
      · intro name
        show _ ↔ (jws.registerAlgorithm algId algObj).1.algorithms.contains name = true
        rw [changed]
        simp only [List.mem_insert_iff, Dict.contains, Dict.get?_set]
        by_cases here : name = algId
        · simp [here]
        · rw [if_neg here, or_iff_right here]
          exact h name
  | unregister algId =>
      show ∀ name, name ∈ (jws.unregisterAlgorithm algId).1.validAlgs ↔ _
      rcases jws.unregisterAlgorithm_cases algId with same | ⟨_, changed⟩
      · intro name
        show _ ↔ (jws.unregisterAlgorithm algId).1.algorithms.contains name = true
        rw [same]
        exact h name
      · intro name
        show _ ↔ (jws.unregisterAlgorithm algId).1.algorithms.contains name = true
        rw [changed]
        simp only [listed.distinct.mem_erase_iff, Dict.contains, Dict.get?_erase]
        by_cases here : name = algId
        · simp [here]
        · rw [if_neg here, and_iff_right here]
          exact h name

/-- A registration and a removal of one free name give back the handlers, and list what was
listed before but for that name.
-/
theorem unregister_register (listed : jws.Listed) {name : PyStr} (handler : Algorithm)
    (free : ¬jws.Finds env name)
    : (jws.registerAlgorithm name (some handler)).2 = .ok ()
      ∧ ((jws.registerAlgorithm name (some handler)).1.unregisterAlgorithm name).2 = .ok ()
      ∧ (∀ other,
          other ∈ ((jws.registerAlgorithm name
              (some handler)).1.unregisterAlgorithm name).1.getAlgorithms
          ↔ other ≠ name ∧ other ∈ jws.getAlgorithms)
      ∧ ∀ other,
          ((jws.registerAlgorithm name
            (some handler)).1.unregisterAlgorithm name).1.algorithms.get? other
          = jws.algorithms.get? other := by
  have absent : jws.algorithms.contains name = false :=
    Bool.eq_false_iff.mpr (fun present => free (finds_iff.mpr present))
  have registered : jws.registerAlgorithm name (some handler)
      = (
        {
          jws with
          algorithms := jws.algorithms.set name handler
          validAlgs := jws.validAlgs.insert name
        },
        .ok ()
      ) := by
    simp [registerAlgorithm, absent]
  have present : (jws.algorithms.set name handler).contains name = true := by
    simp [Dict.contains]
  have member : name ∈ jws.validAlgs.insert name := List.mem_insert_self
  have removed : ({
        jws with
        algorithms := jws.algorithms.set name handler
        validAlgs := jws.validAlgs.insert name
      } : PyJWS).unregisterAlgorithm name
      = (
        {
          jws with
          algorithms := (jws.algorithms.set name handler).erase name
          validAlgs := (jws.validAlgs.insert name).erase name
        },
        .ok ()
      ) := by
    unfold unregisterAlgorithm
    simp only [present, Bool.not_true, Bool.false_eq_true, if_false, if_pos member]
  rw [registered, removed]
  refine ⟨rfl, rfl, fun other => ?_, fun other => ?_⟩
  · simp only [getAlgorithms, listed.distinct.insert.mem_erase_iff, List.mem_insert_iff]
    refine and_congr_right (fun different => or_iff_right different)
  · simp only [Dict.get?_erase, Dict.get?_set]
    by_cases here : other = name
    · rw [if_pos here, here]
      exact (Option.not_isSome_iff_eq_none.mp (by simpa [Dict.contains] using absent)).symm
    · rw [if_neg here, if_neg here]

/-- A registration is undone by the removal exactly where no free name is listed. -/
theorem restores_iff (listed : jws.Listed) : jws.Restores env ↔ jws.Consistent env := by
  constructor
  · intro restores name
    refine ⟨fun member => ?_, fun found => listed.registered name (finds_iff.mp found)⟩
    by_contra free
    obtain ⟨_, _, same⟩ := restores name .none free
    obtain ⟨_, _, names, _⟩ := unregister_register listed .none free
    exact ((names name).mp ((same.listed name).mpr member)).1 rfl
  · intro consistent name handler free
    obtain ⟨registered, removed, names, handlers⟩ := unregister_register listed handler free
    refine ⟨registered, removed, fun other => ?_, handlers⟩
    rw [names other]
    refine and_iff_right_of_imp (fun member same => ?_)
    exact free ((consistent name).mp (same ▸ member))

end PyJWS

-----------------------------------------------------------------------------------------
-- Runs
-----------------------------------------------------------------------------------------

/-- The constructor is given no list, or only names of default algorithms that it has. -/
def ListsDefaults (env : Env) (names : Option (List PyStr)) : Prop :=
  ∀ listed,
    names = some listed
    → ∀ name ∈ listed, (getDefaultAlgorithms env).contains name = true

theorem reachable_instanceAfter (calls : List RegistryCall)
    : (instanceAfter env names options calls).Reachable env names options := by
  induction calls using List.reverseRecOn with
  | nil => exact .init
  | append_singleton calls call ih =>
      unfold instanceAfter at ih ⊢
      rw [List.foldl_append]
      exact .step call ih

/-- A constructed instance is consistent exactly when it is given no other name. -/
theorem consistent_init_iff
    : (PyJWS.init env names options).Consistent env ↔ ListsDefaults env names := by
  have found (name : PyStr)
      : (PyJWS.init env names options).Finds env name
        ↔ (constructedHandlers env names name).isSome = true := by
    rw [PyJWS.finds_iff, Dict.contains, get?_init]
  unfold PyJWS.Consistent ListsDefaults
  simp only [found, constructedHandlers, Dict.contains]
  cases names with
  | none =>
      refine iff_of_true (fun name => ?_) (by simp)
      show name ∈ (getDefaultAlgorithms env).keys ↔ _
      rw [← Dict.contains_iff_mem_keys]
      rfl
  | some listed =>
      have shown (name : PyStr)
          : name ∈ (PyJWS.init env (some listed) options).getAlgorithms ↔ name ∈ listed :=
        List.mem_dedup
      simp only [shown, Option.all_some, decide_eq_true_eq, Option.some.injEq, forall_eq']
      refine forall_congr' (fun name => ?_)
      by_cases member : name ∈ listed
      · simp [member]
      · simp [member]

/-- Consistency is the constructor's affair: every later point of a run is consistent if its
first is.
-/
theorem consistent_instanceAfter (lists : ListsDefaults env names) (calls : List RegistryCall)
    : (instanceAfter env names options calls).Consistent env := by
  have both := (@reachable_instanceAfter env names options calls).invariant
    (fun jws => jws.Listed ∧ jws.Consistent env)
    ⟨PyJWS.listed_init, consistent_init_iff.mpr lists⟩
    (fun jws call h => ⟨PyJWS.listed_apply h.1 call, PyJWS.consistent_apply h.1 h.2 call⟩)
  exact both.2

/-- In every run of the registry a call that raises changes nothing. At all its points the
listed names are the ones with a handler, and a registration is undone by a removal, exactly
when the constructor lists only names of its default algorithms.
-/
theorem registry_consistent_iff (env : Env) (names : Option (List PyStr))
    (options : Option SigOptions) (calls : List RegistryCall)
    : (∀ past call future error,
        calls = past ++ call :: future
        → call.outcome (instanceAfter env names options past) = .error error
        → instanceAfter env names options (past ++ [call])
          = instanceAfter env names options past)
      ∧ ((∀ past,
            past <+: calls
            → (instanceAfter env names options past).Consistent env)
          ↔ ListsDefaults env names)
      ∧ ((∀ past,
            past <+: calls
            → (instanceAfter env names options past).Restores env)
          ↔ ListsDefaults env names) := by
  have listed (past : List RegistryCall) : (instanceAfter env names options past).Listed :=
    (reachable_instanceAfter past).listed
  have consistent
      : (∀ past, past <+: calls → (instanceAfter env names options past).Consistent env)
        ↔ ListsDefaults env names :=
    ⟨fun h => consistent_init_iff.mp (h [] (List.nil_prefix)),
      fun lists past _ => consistent_instanceAfter lists past⟩
  refine ⟨?_, consistent, ?_⟩
  · intro past call _ error _ raises
    have unchanged := PyJWS.apply_of_raises (listed past) raises
    unfold instanceAfter at unchanged ⊢
    rw [List.foldl_append]
    exact unchanged
  · simp only [PyJWS.restores_iff (listed _)]
    exact consistent

/-- Removing `HS256` from the default registry keeps it consistent, and a second removal, which
raises, keeps it as it is.
-/
theorem registry_consistent_iff_removed
    : (instanceAfter (.withoutCryptography (fun _ _ _ => [])) none none
          [.unregister "HS256"]).Consistent (.withoutCryptography (fun _ _ _ => []))
      ∧ instanceAfter (.withoutCryptography (fun _ _ _ => [])) none none
          ([.unregister "HS256"] ++ [.unregister "HS256"])
        = instanceAfter (.withoutCryptography (fun _ _ _ => [])) none none
            [.unregister "HS256"] := by
  obtain ⟨unchanged, consistent, _⟩ :=
    registry_consistent_iff (.withoutCryptography (fun _ _ _ => [])) none none
      [.unregister "HS256", .unregister "HS256"]
  exact ⟨consistent.mpr nofun [.unregister "HS256"] ⟨[.unregister "HS256"], rfl⟩,
    unchanged [.unregister "HS256"] (.unregister "HS256") [] _ rfl rfl⟩

/-- A misspelt name is listed and has no handler. -/
theorem registry_listed_unknown
    : PyStr.ofString "HS265" ∈ (PyJWS.init (.withoutCryptography (fun _ _ _ => [])) (some ["HS265"])
          none).getAlgorithms
      ∧ ¬(PyJWS.init (.withoutCryptography (fun _ _ _ => [])) (some ["HS265"]) none).Finds
          (.withoutCryptography (fun _ _ _ => [])) "HS265" := by
  refine ⟨List.mem_dedup.mpr (List.mem_singleton_self _), fun found => ?_⟩
  have present := PyJWS.finds_iff.mp found
  rw [Dict.contains, get?_init] at present
  cases present

end PyJwt
