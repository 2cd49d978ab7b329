import PyJwt.Correctness.JwkSetLoading
import PyJwt.Correctness.KeyRotation
import PyJwt.Correctness.TokenErrors

/-! Which errors leave the calls of a client. A body that is not JSON and an entry that cannot
be read are met outside every guard, so their exceptions reach the caller as they are.
-/

namespace PyJwt

open Foundations
open Python

variable {env : Env}

-----------------------------------------------------------------------------------------
-- What the libraries raise
-----------------------------------------------------------------------------------------

/-- The outcome fails with none of the library's own errors. -/
abbrev Foreign {α : Type} (outcome : Outcome α) : Prop :=
  FailsWith (fun error => ¬error.isPyJWTError) outcome

/-- `json` and `cryptography` know nothing of this library's exceptions, and raise none. -/
structure ForeignLibraries (env : Env) : Prop where
  loads : ∀ data, Foreign (env.json.loadsBytes data)
  rsaPublicKey : ∀ numbers, Foreign (env.crypto.rsaPublicKey numbers)
  rsaPrivateKey : ∀ numbers, Foreign (env.crypto.rsaPrivateKey numbers)
  rsaRecoverPrimeFactors : ∀ n d e, Foreign (env.crypto.rsaRecoverPrimeFactors n d e)
  rsaCrtDmp1 : ∀ d p, Foreign (env.crypto.rsaCrtDmp1 d p)
  rsaCrtDmq1 : ∀ d q, Foreign (env.crypto.rsaCrtDmq1 d q)
  rsaCrtIqmp : ∀ p q, Foreign (env.crypto.rsaCrtIqmp p q)
  ecPublicKey : ∀ numbers, Foreign (env.crypto.ecPublicKey numbers)
  ecPrivateKey : ∀ numbers, Foreign (env.crypto.ecPrivateKey numbers)
  edPublicFromBytes : ∀ curve raw, Foreign (env.crypto.edPublicFromBytes curve raw)
  edPrivateFromBytes : ∀ curve raw, Foreign (env.crypto.edPrivateFromBytes curve raw)

/-- The outcome does not ask for the `cryptography` package. -/
abbrev Equipped {α : Type} (outcome : Outcome α) : Prop :=
  FailsWith (fun error => error.isA .missingCryptographyError = false) outcome

/-- Only the class itself asks for the package, and it is one of the library's own. -/
theorem own_of_missing {error : PyError} (h : error.isA .missingCryptographyError = true)
    : error.isPyJWTError := by
  have lineage : error.cls.isSubclass .missingCryptographyError = true := h
  show error.cls.isSubclass .pyJWTError = true
  cases cls : error.cls <;> rw [cls] at lineage <;> first | rfl | cases lineage

theorem equipped_of_foreign {α : Type} {outcome : Outcome α} (h : Foreign outcome)
    : Equipped outcome := by
  intro error failed
  rw [← Bool.not_eq_true]
  exact fun missing => h error failed (own_of_missing missing)

theorem equipped_of_memberFailure {α : Type} {outcome : Outcome α}
    (h : FailsWith MemberFailure outcome)
    : Equipped outcome :=
  equipped_of_foreign (fun error failed => (h error failed).foreign)

theorem equipped_bind {α β : Type} {first : Outcome α} {next : α → Outcome β}
    (head : Equipped first) (tail : ∀ value, Equipped (next value))
    : Equipped (first >>= next) :=
  failsWith_bind.mpr ⟨head, fun value _ => tail value⟩

theorem equipped_ite {α : Type} {condition : Prop} [Decidable condition] {yes no : Outcome α}
    (h : Equipped yes) (h' : Equipped no)
    : Equipped (if condition then yes else no) :=
  failsWith_ite.mpr ⟨fun _ => h, fun _ => h'⟩

theorem equipped_invalidKeyError {α : Type} (message : List MessagePart)
    : Equipped (.error ⟨.invalidKeyError, message⟩ : Outcome α) :=
  failsWith_error.mpr rfl

-----------------------------------------------------------------------------------------
-- Importing a key asks for no package
-----------------------------------------------------------------------------------------

theorem equipped_uintMember (obj : Dict Json) (name : PyStr)
    : Equipped (uintMember obj name) :=
  equipped_of_memberFailure (failsWith_uintMember obj name)

theorem equipped_base64urlDecode (value : Json)
    : Equipped (base64urlDecode (jsonAsText value)) :=
  equipped_of_memberFailure (failsWith_base64urlDecode _)

theorem equipped_requireHashable (value : Json) : Equipped (requireHashable value) := by
  cases value with
  | list _ | dict _ => exact failsWith_error.mpr rfl
  | null | bool _ | int _ | float _ | str _ => exact failsWith_ok _

theorem HMACAlgorithm.equipped_fromJwk (entries : List (PyStr × Json))
    : Equipped (fromJwk env (.dict entries)) := by
  unfold fromJwk
  rw [parseJwkJson_dict_bind]
  refine equipped_ite (equipped_invalidKeyError _) ?_
  refine equipped_bind (equipped_of_memberFailure (failsWith_getItem _ _)) (fun k => ?_)
  exact equipped_bind (equipped_base64urlDecode k) (fun _ => failsWith_ok _)

theorem RSAAlgorithm.equipped_privateNumbers (library : ForeignLibraries env) (obj : Dict Json)
    (publicNumbers : RSAPublicNumbers)
    : Equipped (rsaPrivateNumbersFromJwk env obj publicNumbers) := by
  unfold rsaPrivateNumbersFromJwk
  have member (name : PyStr) {α : Type} {next : Nat → Outcome α}
      (h : ∀ value, Equipped (next value))
      : Equipped (uintMember obj name >>= next) :=
    equipped_bind (equipped_uintMember obj name) h
  refine equipped_ite (equipped_invalidKeyError _) ?_
  refine equipped_ite (equipped_invalidKeyError _) (equipped_ite ?_ ?_)
  · exact member "d" (fun d => member "p" (fun p => member "q" (fun q => member "dp" (fun dmp1 =>
      member "dq" (fun dmq1 => member "qi" (fun iqmp => failsWith_ok _))))))
  · refine member "d" (fun d => ?_)
    refine equipped_bind (equipped_of_foreign (library.rsaRecoverPrimeFactors _ _ _)) ?_
    intro factors
    refine equipped_bind (equipped_of_foreign (library.rsaCrtDmp1 _ _)) (fun dmp1 => ?_)
    refine equipped_bind (equipped_of_foreign (library.rsaCrtDmq1 _ _)) (fun dmq1 => ?_)
    exact equipped_bind (equipped_of_foreign (library.rsaCrtIqmp _ _)) (fun _ => failsWith_ok _)

theorem RSAAlgorithm.equipped_fromJwk (library : ForeignLibraries env)
    (entries : List (PyStr × Json))
    : Equipped (fromJwk env (.dict entries)) := by
  unfold fromJwk
  rw [parseJwkJson_dict_bind]
  refine equipped_ite (equipped_invalidKeyError _) (equipped_ite ?_ (equipped_ite ?_ ?_))
  · refine equipped_bind (equipped_uintMember _ _) (fun e => ?_)
    refine equipped_bind (equipped_uintMember _ _) (fun n => ?_)
    refine equipped_bind (equipped_privateNumbers library _ _) (fun numbers => ?_)
    exact equipped_bind (equipped_of_foreign (library.rsaPrivateKey _)) (fun _ => failsWith_ok _)
  · refine equipped_bind (equipped_uintMember _ _) (fun e => ?_)
    refine equipped_bind (equipped_uintMember _ _) (fun n => ?_)
    exact equipped_bind (equipped_of_foreign (library.rsaPublicKey _)) (fun _ => failsWith_ok _)
  · exact equipped_invalidKeyError _

theorem ECAlgorithm.equipped_resolveEcCurve (crv : Json) (xLen yLen : Nat)
    : Equipped (resolveEcCurveFromJwk crv xLen yLen) := by
  refine equipped_bind (equipped_requireHashable crv) (fun _ => ?_)
  split
  · exact equipped_invalidKeyError _
  · exact equipped_ite (equipped_invalidKeyError _) (failsWith_ok _)

theorem ECAlgorithm.equipped_fromJwk (library : ForeignLibraries env)
    (entries : List (PyStr × Json))
    : Equipped (fromJwk env (.dict entries)) := by
  unfold fromJwk
  rw [parseJwkJson_dict_bind]
  refine equipped_ite (equipped_invalidKeyError _)
    (equipped_ite (equipped_invalidKeyError _) ?_)
  refine equipped_bind (equipped_base64urlDecode _) (fun x => ?_)
  refine equipped_bind (equipped_base64urlDecode _) (fun y => ?_)
  refine equipped_bind (equipped_resolveEcCurve _ _ _) (fun curve => equipped_ite ?_ ?_)
  · exact equipped_bind (equipped_of_foreign (library.ecPublicKey _)) (fun _ => failsWith_ok _)
  · refine equipped_bind (equipped_base64urlDecode _) (fun d => ?_)
    refine equipped_ite (equipped_invalidKeyError _) ?_
    exact equipped_bind (equipped_of_foreign (library.ecPrivateKey _)) (fun _ => failsWith_ok _)

theorem OKPAlgorithm.equipped_fromJwk (library : ForeignLibraries env)
    (entries : List (PyStr × Json))
    : Equipped (fromJwk env (.dict entries)) := by
  unfold fromJwk
  rw [parseJwkJson_dict_bind]
  refine equipped_ite (equipped_invalidKeyError _) ?_
  split
  · exact equipped_invalidKeyError _
  · refine equipped_ite (equipped_invalidKeyError _) ?_
    refine equipped_bind (equipped_base64urlDecode _) (fun x => ?_)
    refine failsWith_tryExcept.mpr ⟨?_, fun _ _ _ => equipped_invalidKeyError _⟩
    intro error failed
    refine Or.inr ?_
    refine equipped_ite ?_ ?_ error failed
    · exact equipped_bind (equipped_of_foreign (library.edPublicFromBytes _ _))
        (fun _ => failsWith_ok _)
    · refine equipped_bind (equipped_base64urlDecode _) (fun d => ?_)
      exact equipped_bind (equipped_of_foreign (library.edPrivateFromBytes _ _))
        (fun _ => failsWith_ok _)

theorem Algorithm.equipped_fromJwk (library : ForeignLibraries env) {name : PyStr}
    {handler : Algorithm} (registered : (getDefaultAlgorithms env).get? name = some handler)
    (entries : List (PyStr × Json))
    : Equipped (handler.fromJwk env (.dict entries)) := by
  cases handler with
  | none => exact failsWith_error.mpr rfl
  | hmac self => exact HMACAlgorithm.equipped_fromJwk entries
  | rsa self => exact RSAAlgorithm.equipped_fromJwk library entries
  | ec self => exact ECAlgorithm.equipped_fromJwk library entries
  | okp => exact OKPAlgorithm.equipped_fromJwk library entries
  | custom self =>
      obtain ⟨family, _, made⟩ := family?_of_default registered
      cases made

-----------------------------------------------------------------------------------------
-- Entries
-----------------------------------------------------------------------------------------

namespace PyJWK

theorem equipped_lookupJson {β : Type} {table : List (PyStr × β)} {value : Json}
    {missing : PyError} (own : Skippable missing)
    : Equipped (lookupJson table value missing) := by
  refine equipped_bind (equipped_requireHashable value) (fun _ => ?_)
  split
  · exact failsWith_ok _
  · exact failsWith_error.mpr own.2

theorem equipped_nameAlgorithm (obj : Dict Json)
    : Equipped (nameAlgorithm obj none (getOrNull obj "kty")) := by
  rw [nameAlgorithm_eq]
  refine equipped_ite (failsWith_ok _) ?_
  refine equipped_bind ?_ (fun _ => failsWith_ok _)
  unfold inferAlgorithmFromKty
  refine equipped_ite (equipped_ite (failsWith_ok _) ?_) (equipped_ite ?_ ?_)
  · exact equipped_lookupJson (skippable_invalidKeyError _)
  · exact equipped_ite (equipped_invalidKeyError _)
      (equipped_ite (failsWith_ok _) (equipped_invalidKeyError _))
  · exact equipped_lookupJson (skippable_invalidKeyError _)

/-- The check for the package fails with nothing else but a `TypeError`. -/
theorem equipped_requireCryptography {name : Json}
    (equipped : env.hasCrypto = false
      → ∀ text, name = .str text → text ∉ requiresCryptography)
    : Equipped (requireCryptography env name) := by
  unfold requireCryptography
  refine failsWith_ite.mpr ⟨fun _ => failsWith_ok _, fun missing => ?_⟩
  refine equipped_bind (equipped_requireHashable name) (fun _ => ?_)
  refine failsWith_ite.mpr ⟨fun needed => ?_, fun _ => failsWith_ok _⟩
  have absent : env.hasCrypto = false := Bool.eq_false_of_not_eq_true missing
  cases isText : name.asStr? with
  | none => simp [isText] at needed
  | some text =>
      rw [isText] at needed
      exact absurd (of_decide_eq_true needed)
        (equipped absent text (Json.asStr?_eq_some.mp isText))

/-- The package is asked for only where the selected algorithm needs it. -/
theorem equipped_init (library : ForeignLibraries env) {entry : Json}
    (equipped : ¬NeedsCryptography env entry)
    : Equipped (PyJWK.init env entry none) := by
  unfold PyJWK.init
  refine failsWith_bind.mpr ⟨equipped_of_memberFailure (failsWith_requireDict _), ?_⟩
  intro obj isDict
  obtain ⟨entries, rfl, rfl⟩ : ∃ entries, entry = .dict entries ∧ obj = Dict.ofEntries entries := by
    cases entry with
    | dict entries => exact ⟨entries, rfl, (Except.ok.inj isDict).symm⟩
    | null | bool _ | int _ | float _ | str _ | list _ => cases isDict
  refine failsWith_ite.mpr ⟨fun _ => equipped_invalidKeyError _, fun typed => ?_⟩
  refine failsWith_bind.mpr ⟨equipped_nameAlgorithm _, fun name named => ?_⟩
  refine equipped_bind (equipped_requireCryptography ?_) (fun _ => ?_)
  · intro missing text isText needed
    have isTyped : (getOrNull (Dict.ofEntries entries) "kty").truthy = true := by
      simpa using typed
    exact equipped ⟨missing, _, text, rfl, isTyped, isText ▸ named, needed⟩
  · refine failsWith_bind.mpr ⟨equipped_lookupJson ⟨rfl, rfl⟩, fun handler found => ?_⟩
    obtain ⟨_, _, registered⟩ := lookupJson_eq_ok.mp found
    exact equipped_bind (Algorithm.equipped_fromJwk library registered entries)
      (fun _ => failsWith_ok _)

/-- An entry that needs the missing package is refused with the error that asks for it. -/
theorem init_of_needsCryptography {entry : Json} (h : NeedsCryptography env entry)
    : ∃ error,
        PyJWK.init env entry none = .error error
        ∧ error.isA .missingCryptographyError = true := by
  obtain ⟨missing, obj, name, isDict, typed, named, needed⟩ := h
  obtain ⟨error, required, asks⟩ : ∃ error,
      requireCryptography env (.str name) = .error error
      ∧ error.isA .missingCryptographyError = true := by
    simp only [requireCryptography, missing, requireHashable, Json.asStr?, needed,
      Bool.false_eq_true, if_false, outcome_ok_bind, Option.any_some, decide_true, if_true]
    exact ⟨_, rfl, rfl⟩
  refine ⟨error, ?_, asks⟩
  unfold PyJWK.init
  rw [requireDict_eq_ok.mpr isDict, outcome_ok_bind]
  simp only [typed, named, required, Bool.not_true, Bool.false_eq_true, if_false,
    outcome_ok_bind, outcome_error_bind]

/-- Such an entry is harmless: its algorithm is not among the defaults, and reads nothing. -/
theorem harmless_of_needsCryptography {entry : Json} (h : NeedsCryptography env entry)
    : Harmless env entry := by
  obtain ⟨missing, obj, name, isDict, _, named, needed⟩ := h
  refine ⟨obj, isDict, fun _ => ⟨skips_nameAlgorithm.mp ⟨?_, ?_⟩, ?_⟩⟩
  · rw [named]
    exact failsWith_ok _
  · intro value same
    rw [named] at same
    cases same
    exact trivial
  · intro other handler same registered
    rw [named] at same
    cases same
    rw [getDefaultAlgorithms_get?_eq_none missing needed] at registered
    cases registered

/-- An entry makes a key or an error of the library's own exactly when it is harmless. -/
theorem clean_init (library : ForeignLibraries env) (entry : Json)
    : Clean (PyJWK.init env entry none) ↔ Harmless env entry := by
  by_cases needs : NeedsCryptography env entry
  · refine iff_of_true ?_ (harmless_of_needsCryptography needs)
    obtain ⟨error, failed, missing⟩ := init_of_needsCryptography needs
    rw [failed]
    exact failsWith_error.mpr (own_of_missing missing)
  · refine Iff.trans ?_ ((skips_init_iff entry).trans (and_iff_left needs))
    have equipped := equipped_init library needs
    constructor
    · intro clean error failed
      exact ⟨clean error failed, equipped error failed⟩
    · intro skips error failed
      exact (skips error failed).1

end PyJWK

-----------------------------------------------------------------------------------------
-- Sets
-----------------------------------------------------------------------------------------

/-- Every entry is harmless, as far as the loop gets: it ends at the first entry that needs the
missing package.
-/
def LoadsCleanly (env : Env) : List Json → Prop
  | [] => True
  | entry :: rest =>
      Harmless env entry ∧ (NeedsCryptography env entry ∨ LoadsCleanly env rest)

/-- The entries of the set, of which there are none where the data is no set. -/
def keyEntries (data : Json) : List Json :=
  match data.asDict?.bind (fun obj => obj.get? "keys") with
  | some (.list items) => items
  | _ => []

namespace PyJWKSet

/-- By induction on the entries, one step of the loop for each. -/
theorem clean_loadKeys (library : ForeignLibraries env) (items : List Json)
    (loaded : List PyJWK)
    : Clean (loadKeys env items loaded) ↔ LoadsCleanly env items := by
  induction items generalizing loaded with
  | nil => exact iff_of_true (failsWith_ok _) trivial
  | cons entry rest ih =>
      unfold loadKeys LoadsCleanly
      rw [← PyJWK.clean_init library]
      by_cases needs : NeedsCryptography env entry
      · obtain ⟨error, failed, missing⟩ := PyJWK.init_of_needsCryptography needs
        have own := own_of_missing missing
        have isOwn : error.isA .pyJWTError = true := own
        simp only [failed, isOwn, missing, if_true, needs, true_or, and_true]
        exact iff_of_true (failsWith_error.mpr own) (failsWith_error.mpr own)
      · simp only [needs, false_or]
        cases made : PyJWK.init env entry none with
        | ok jwk =>
            simp only
            exact (ih _).trans (and_iff_right (failsWith_ok _)).symm
        | error error =>
            have equipped := PyJWK.equipped_init library needs error made
            by_cases own : error.isPyJWTError
            · have isOwn : error.isA .pyJWTError = true := own
              simp only [isOwn, equipped, if_true, Bool.false_eq_true, if_false]
              exact (ih _).trans (and_iff_right (failsWith_error.mpr own)).symm
            · have notOwn : error.isA .pyJWTError = false := Bool.eq_false_of_not_eq_true own
              simp only [notOwn, Bool.false_eq_true, if_false]
              exact iff_of_false (fun clean => own (failsWith_error.mp clean))
                (fun clean => own (failsWith_error.mp clean.1))

theorem clean_init (library : ForeignLibraries env) (items : List Json)
    : Clean (init env (.list items)) ↔ LoadsCleanly env items := by
  by_cases empty : items = []
  · subst empty
    exact iff_of_true (failsWith_error.mpr rfl) trivial
  · rw [init_list empty]
    refine (clean_bind.trans (and_iff_left (fun loaded _ => ?_))).trans
      (clean_loadKeys library items [])
    exact failsWith_ite.mpr ⟨fun _ => failsWith_error.mpr rfl, fun _ => failsWith_ok _⟩

end PyJWKSet

namespace PyJWKClient

/-- Data without entries is refused with an own error, and other data is loaded as a set. -/
theorem readJwkSet_cases (data : Json)
    : (keyEntries data = []
        ∧ ∃ error, readJwkSet env data = .error error ∧ error.isPyJWTError)
      ∨ (keyEntries data ≠ []
        ∧ readJwkSet env data = PyJWKSet.init env (.list (keyEntries data))) := by
  unfold readJwkSet keyEntries PyJWKSet.fromDict
  cases data.asDict? with
  | none => exact Or.inl ⟨rfl, _, rfl, rfl⟩
  | some obj =>
      simp only [Option.bind_some]
      cases obj.get? "keys" with
      | none => exact Or.inl ⟨rfl, _, rfl, rfl⟩
      | some keys =>
          simp only [Option.getD_some]
          cases keys with
          | list items =>
              cases items with
              | nil => exact Or.inl ⟨rfl, _, rfl, rfl⟩
              | cons entry rest => exact Or.inr ⟨List.cons_ne_nil entry rest, rfl⟩
          | null => exact Or.inl ⟨rfl, _, rfl, rfl⟩
          | bool _ | int _ | float _ | str _ | dict _ =>
              refine Or.inl ⟨rfl, ?_⟩
              simp only [PyJWKSet.init]
              split
              · exact ⟨_, rfl, rfl⟩
              · exact ⟨_, rfl, rfl⟩

theorem clean_readJwkSet (library : ForeignLibraries env) (data : Json)
    : Clean (readJwkSet env data) ↔ LoadsCleanly env (keyEntries data) := by
  rcases @readJwkSet_cases env data with ⟨empty, error, refused, own⟩ | ⟨_, loaded⟩
  · rw [empty, refused]
    exact iff_of_true (failsWith_error.mpr own) trivial
  · rw [loaded]
    exact PyJWKSet.clean_init library _

/-- A set is read exactly when every entry only makes a key or is skipped, and one makes a key. -/
theorem readJwkSet_eq_ok {data : Json} {jwkSet : PyJWKSet}
    : readJwkSet env data = .ok jwkSet
      ↔ (∀ entry ∈ keyEntries data, Skips (PyJWK.init env entry none))
        ∧ usableKeys env (keyEntries data) ≠ []
        ∧ jwkSet = ⟨usableKeys env (keyEntries data)⟩ := by
  rcases @readJwkSet_cases env data with ⟨empty, error, refused, _⟩ | ⟨nonempty, loaded⟩
  · rw [empty, refused]
    simp [usableKeys]
  · rw [loaded, PyJWKSet.init_list nonempty, outcome_bind_eq_ok]
    constructor
    · intro h
      obtain ⟨keys, kept, returned⟩ := h
      have skips : ∀ entry ∈ keyEntries data, Skips (PyJWK.init env entry none) := by
        by_contra escapes
        obtain ⟨error, failed, _⟩ := PyJWKSet.loadKeys_of_not_skips escapes []
        cases failed.symm.trans kept
      have same := Except.ok.inj (kept.symm.trans (PyJWKSet.loadKeys_of_skips skips []))
      rw [List.nil_append] at same
      subst same
      rcases ite_eq_iff.mp returned with ⟨_, impossible⟩ | ⟨some, returned⟩
      · cases impossible
      · exact ⟨skips, fun none => some (List.length_eq_zero_iff.mpr none),
          (Except.ok.inj returned).symm⟩
    · intro h
      obtain ⟨skips, some, rfl⟩ := h
      refine ⟨_, PyJWKSet.loadKeys_of_skips skips [], ?_⟩
      rw [List.nil_append]
      exact if_neg (fun none => some (List.length_eq_zero_iff.mp none))

/-- The data is a set that lists signing keys, and none of the `kid`. -/
def Misses (env : Env) (kid : PyStr) (data : Json) : Prop :=
  (∀ entry ∈ keyEntries data, Harmless env entry ∧ ¬NeedsCryptography env entry)
  ∧ (∃ key ∈ usableKeys env (keyEntries data), isSigningKey key = true)
  ∧ ∀ key ∈ usableKeys env (keyEntries data),
      isSigningKey key = true → key.keyId ≠ .str kid

theorem misses_iff {kid : PyStr} {data : Json}
    : Misses env kid data
      ↔ ∃ signingKeys,
          readSigningKeys env data = .ok signingKeys ∧ matchKid signingKeys kid = none := by
  unfold Misses readSigningKeys
  simp only [outcome_bind_eq_ok, listSigningKeys_eq_ok, readJwkSet_eq_ok, PyJWK.skips_init_iff]
  have unmatched : matchKid ((usableKeys env (keyEntries data)).filter isSigningKey) kid = none
      ↔ ∀ key ∈ usableKeys env (keyEntries data),
          isSigningKey key = true → key.keyId ≠ .str kid := by
    simp only [matchKid, List.find?_eq_none, List.mem_filter, decide_eq_true_eq, and_imp,
      Json.asStr?_eq_some, ne_eq]
  rw [← unmatched]
  constructor
  · intro h
    obtain ⟨loads, ⟨key, member, signing⟩, missing⟩ := h
    exact ⟨_, ⟨_, ⟨loads, List.ne_nil_of_mem member, rfl⟩, rfl,
      List.ne_nil_of_mem (List.mem_filter.mpr ⟨member, signing⟩)⟩, missing⟩
  · intro h
    obtain ⟨signingKeys, ⟨jwkSet, ⟨loads, _, rfl⟩, rfl, some⟩, missing⟩ := h
    obtain ⟨key, listed⟩ := List.exists_mem_of_ne_nil _ some
    exact ⟨loads, ⟨key, List.mem_filter.mp listed⟩, missing⟩

end PyJWKClient

-----------------------------------------------------------------------------------------
-- The endpoint
-----------------------------------------------------------------------------------------

/-- What asking the endpoint comes to: a `URLError` or `TimeoutError`, or a body. -/
inductive Endpoint
  | unreachable (reason : PyStr)
  | body (data : Bytes)

namespace Endpoint

/-- `json.load(response)` where there is a response. -/
def response (env : Env) : Endpoint → Response
  | unreachable reason => .unreachable reason
  | body data =>
      match env.json.loadsBytes data with
      | .ok value => .json value
      | .error error => .raised error

/-- What was sent, if anything, is JSON. -/
def SendsJson (env : Env) : Endpoint → Prop
  | unreachable _ => True
  | body data => ∃ value, env.json.loadsBytes data = .ok value

theorem response_eq_json {endpoint : Endpoint} {value : Json}
    : endpoint.response env = .json value
      ↔ ∃ data, endpoint = .body data ∧ env.json.loadsBytes data = .ok value := by
  cases endpoint with
  | unreachable reason => simp [response]
  | body data =>
      cases loaded : env.json.loadsBytes data with
      | ok read => simp [response, loaded]
      | error error => simp [response, loaded]

theorem clean_response (library : ForeignLibraries env) (endpoint : Endpoint)
    : Clean (PyJWKClient.responseOutcome (endpoint.response env)) ↔ endpoint.SendsJson env := by
  cases endpoint with
  | unreachable reason => exact iff_of_true (failsWith_error.mpr rfl) trivial
  | body data =>
      cases loaded : env.json.loadsBytes data with
      | ok read =>
          simp only [response, SendsJson, loaded]
          exact iff_of_true (failsWith_ok _) ⟨read, rfl⟩
      | error error =>
          simp only [response, SendsJson, loaded, reduceCtorEq, exists_false, iff_false]
          exact fun clean => library.loads data error loaded (failsWith_error.mp clean)

end Endpoint

/-- The outside world during one request that may be made: the clock when the cache is read,
the endpoint, and the clock when the cache is written.
-/
structure Visit where
  readAt : Rat
  endpoint : Endpoint
  writtenAt : Rat

namespace Visit

def turn (env : Env) (visit : Visit) : Turn where
  readAt := visit.readAt
  response := visit.endpoint.response env
  writtenAt := visit.writtenAt

/-- The data that a call reads: that of the cache, or else what the endpoint sent. -/
def Provides (env : Env) (client : PyJWKClient) (refresh : Bool) (visit : Visit) (data : Json)
    : Prop :=
  (client.cachedJwkSet refresh visit.readAt = data ∧ data ≠ .null)
  ∨ (client.cachedJwkSet refresh visit.readAt = .null
    ∧ ∃ sent, visit.endpoint = .body sent ∧ env.json.loadsBytes sent = .ok data)

/-- A body that is asked for is JSON, and the entries of the data that is read load cleanly. -/
structure Sound (env : Env) (client : PyJWKClient) (refresh : Bool) (visit : Visit) : Prop where
  json
    : client.cachedJwkSet refresh visit.readAt = .null → visit.endpoint.SendsJson env
  entries
    : ∀ data, visit.Provides env client refresh data → LoadsCleanly env (keyEntries data)

end Visit

namespace PyJWKClient

variable {refresh : Bool} {visit : Visit} {self : PyJWKClient}

theorem responseOutcome_eq_ok {response : Response} {data : Json}
    : responseOutcome response = .ok data ↔ response = .json data := by
  cases response <;> simp [responseOutcome]

theorem loadData_eq_ok {data : Json}
    : (loadData refresh (visit.turn env) self).result = .ok data
      ↔ visit.Provides env self refresh data := by
  unfold Visit.Provides
  by_cases none : self.cachedJwkSet refresh visit.readAt = .null
  · rw [@loadData_of_none refresh (visit.turn env) self none, fetchData_eq]
    simp only [none, true_and, responseOutcome_eq_ok]
    refine Endpoint.response_eq_json.trans (or_iff_right ?_).symm
    intro h
    exact h.2 h.1.symm
  · have some : isNone (self.cachedJwkSet refresh visit.readAt) = false := by
      rw [← Bool.not_eq_true, isNone_iff]
      exact none
    rw [@loadData_of_cached refresh (visit.turn env) self _ rfl some]
    simp only [none, false_and, or_false, Except.ok.injEq]
    refine (and_iff_left_of_imp ?_).symm
    intro same
    exact same ▸ none

theorem clean_loadData (library : ForeignLibraries env)
    : Clean (loadData refresh (visit.turn env) self).result
      ↔ (self.cachedJwkSet refresh visit.readAt = .null → visit.endpoint.SendsJson env) := by
  by_cases none : self.cachedJwkSet refresh visit.readAt = .null
  · rw [@loadData_of_none refresh (visit.turn env) self none, fetchData_eq]
    simp only [none, true_imp_iff]
    exact Endpoint.clean_response library visit.endpoint
  · have some : isNone (self.cachedJwkSet refresh visit.readAt) = false := by
      rw [← Bool.not_eq_true, isNone_iff]
      exact none
    rw [@loadData_of_cached refresh (visit.turn env) self _ rfl some]
    simp only [none, false_imp_iff, iff_true]
    exact failsWith_ok _

/-- What a call makes of its data fails with own errors where the set does. -/
theorem clean_getJwkSet (library : ForeignLibraries env)
    : Clean (getJwkSet env refresh (visit.turn env) self).result
      ↔ visit.Sound env self refresh := by
  rw [getJwkSet_run]
  refine clean_bind.trans ?_
  simp only [loadData_eq_ok, clean_loadData library, clean_readJwkSet library]
  constructor
  · intro h
    exact ⟨h.1, h.2⟩
  · intro h
    exact ⟨h.json, h.entries⟩

theorem clean_getSigningKeys (library : ForeignLibraries env)
    : Clean (getSigningKeys env refresh (visit.turn env) self).result
      ↔ visit.Sound env self refresh := by
  rw [← clean_getJwkSet library, getSigningKeys_eq, Stateful.bind_ofExcept]
  refine clean_bind.trans (and_iff_left (fun jwkSet _ => ?_))
  exact failsWith_ite.mpr ⟨fun _ => failsWith_error.mpr rfl, fun _ => failsWith_ok _⟩

theorem getSigningKeys_eq_ok {signingKeys : List PyJWK}
    : (getSigningKeys env refresh (visit.turn env) self).result = .ok signingKeys
      ↔ ∃ data,
          visit.Provides env self refresh data
          ∧ readSigningKeys env data = .ok signingKeys := by
  rw [getSigningKeys_run]
  simp only [outcome_bind_eq_ok, loadData_eq_ok]

/-- A refresh asks the endpoint whatever the cache holds, so that the state does not matter. -/
theorem sound_refresh {other : PyJWKClient}
    : visit.Sound env self true ↔ visit.Sound env other true := by
  have same (client : PyJWKClient)
      : visit.Sound env client true
        ↔ visit.endpoint.SendsJson env
          ∧ ∀ sent data,
              visit.endpoint = .body sent
              → env.json.loadsBytes sent = .ok data
              → LoadsCleanly env (keyEntries data) := by
    have none := client.cachedJwkSet_refresh visit.readAt
    constructor
    · intro h
      refine ⟨h.json none, fun sent data isBody loaded => ?_⟩
      exact h.entries data (Or.inr ⟨none, sent, isBody, loaded⟩)
    · intro h
      refine ⟨fun _ => h.1, fun data provides => ?_⟩
      rcases provides with ⟨cached, some⟩ | ⟨_, sent, isBody, loaded⟩
      · exact absurd (cached.symm.trans none) some
      · exact h.2 sent data isBody loaded
  exact (same self).trans (same other).symm

/-- A lookup meets the second request only when the first data lists other keys. -/
theorem clean_getSigningKey (library : ForeignLibraries env) {kid : PyStr} {first second : Visit}
    : Clean (getSigningKey env kid (first.turn env) (second.turn env) self).result
      ↔ first.Sound env self false
        ∧ ∀ data,
            first.Provides env self false data
            → Misses env kid data
            → second.Sound env self true := by
  cases listed : (getSigningKeys env false (first.turn env) self).result with
  | error error =>
      rw [getSigningKey_of_error listed, ← clean_getSigningKeys library, listed]
      refine (failsWith_error.trans failsWith_error.symm).trans (and_iff_left ?_).symm
      intro data provides misses
      obtain ⟨signingKeys, read, _⟩ := misses_iff.mp misses
      cases listed.symm.trans (getSigningKeys_eq_ok.mpr ⟨data, provides, read⟩)
  | ok signingKeys =>
      have sound : first.Sound env self false := by
        rw [← clean_getSigningKeys library, listed]
        exact failsWith_ok _
      obtain ⟨data, provides, read⟩ := getSigningKeys_eq_ok.mp listed
      have isData (other : Json) (h : first.Provides env self false other) : other = data :=
        Except.ok.inj ((loadData_eq_ok.mpr h).symm.trans (loadData_eq_ok.mpr provides))
      have missing : Misses env kid data ↔ matchKid signingKeys kid = none := by
        rw [misses_iff, read]
        simp
      have reached : (∀ other,
            first.Provides env self false other
            → Misses env kid other
            → second.Sound env self true)
          ↔ (matchKid signingKeys kid = none → second.Sound env self true) := by
        rw [← missing]
        constructor
        · intro h
          exact h data provides
        · intro h other provided
          rw [isData other provided]
          exact h
      simp only [sound, true_and, reached]
      cases matched : matchKid signingKeys kid with
      | some key =>
          rw [getSigningKey_of_match listed matched]
          simp
      | none =>
          rw [getSigningKey_of_miss listed matched]
          simp only [true_imp_iff]
          refine (clean_bind.trans (and_iff_left (fun refreshed _ => ?_))).trans
            ((clean_getSigningKeys library).trans sound_refresh)
          unfold requireKid
          split
          · exact failsWith_ok _
          · exact failsWith_error.mpr rfl

/-- Every call of a client fails with none but the library's own errors exactly where the
bodies it asks for are JSON, and every entry of the data it reads only makes a key or is
skipped, as far as the entries are read.
-/
theorem fails_own_iff (library : ForeignLibraries env) (self : PyJWKClient) (refresh : Bool)
    (kid : PyStr) (first second : Visit)
    : (Clean (fetchData (first.endpoint.response env) first.writtenAt self).result
        ↔ first.endpoint.SendsJson env)
      ∧ (Clean (getJwkSet env refresh (first.turn env) self).result
        ↔ first.Sound env self refresh)
      ∧ (Clean (getSigningKeys env refresh (first.turn env) self).result
        ↔ first.Sound env self refresh)
      ∧ (Clean (getSigningKey env kid (first.turn env) (second.turn env) self).result
        ↔ first.Sound env self false
          ∧ ∀ data,
              first.Provides env self false data
              → Misses env kid data
              → second.Sound env self true) := by
  refine ⟨?_, clean_getJwkSet library, clean_getSigningKeys library, clean_getSigningKey library⟩
  rw [fetchData_eq]
  exact Endpoint.clean_response library first.endpoint

end PyJWKClient

-----------------------------------------------------------------------------------------
-- A list, a page and a key without its secret
-----------------------------------------------------------------------------------------

/-- Without the package, every function of it that is called raises a `ModuleNotFoundError`. -/
theorem foreignLibraries_bareEnv : ForeignLibraries bareEnv := by
  have absent {α : Type} : Foreign (Crypto.absent.missing : Outcome α) :=
    failsWith_error.mpr (by decide)
  have foreignRead (chars : List Char) : Foreign (JsonLib.read chars) := by
    unfold JsonLib.read
    split
    · exact failsWith_ok _
    · exact failsWith_error.mpr (by decide)
  have loads (data : Bytes) : Foreign (JsonLib.standard.loadsBytes data) := by
    refine failsWith_ite.mpr ⟨fun _ => foreignRead _, fun _ => ?_⟩
    split
    · unfold JsonLib.loads
      split
      · exact foreignRead _
      · exact failsWith_error.mpr (by decide)
    · exact failsWith_error.mpr (by decide)
  exact {
    loads
    rsaPublicKey := fun _ => absent
    rsaPrivateKey := fun _ => absent
    rsaRecoverPrimeFactors := fun _ _ _ => absent
    rsaCrtDmp1 := fun _ _ => absent
    rsaCrtDmq1 := fun _ _ => absent
    rsaCrtIqmp := fun _ _ => absent
    ecPublicKey := fun _ => absent
    ecPrivateKey := fun _ => absent
    edPublicFromBytes := fun _ _ => absent
    edPrivateFromBytes := fun _ _ => absent
  }

/-- An endpoint that sends the text. -/
def sending (text : String) : Visit := ⟨0, .body (ascii text), 0⟩

/-- A body that is JSON but no object ends the lookup with an own error. -/
theorem PyJWKClient.fails_own_iff_list
    : Clean (getSigningKey bareEnv "a" ((sending "[]").turn bareEnv)
        ((sending "[]").turn bareEnv) ⟨none⟩).result := by
  have loaded : bareEnv.json.loadsBytes (ascii "[]") = .ok (.list []) := rfl
  have sound (refresh : Bool) : (sending "[]").Sound bareEnv ⟨none⟩ refresh := by
    refine ⟨fun _ => ⟨_, loaded⟩, fun data provides => ?_⟩
    rcases provides with ⟨cached, some⟩ | ⟨_, sent, isBody, read⟩
    · exact absurd cached.symm some
    · cases isBody
      cases loaded.symm.trans read
      exact trivial
  obtain ⟨_, _, _, lookup⟩ :=
    fails_own_iff foreignLibraries_bareEnv ⟨none⟩ false "a" (sending "[]") (sending "[]")
  exact lookup.mpr ⟨sound false, fun _ _ _ => sound true⟩

/-- A page in place of JSON escapes as a `JSONDecodeError`, and a key without its secret as a
`KeyError`.
-/
theorem PyJWKClient.fails_page
    : (∃ error,
        (fetchData ((sending "<html>").endpoint.response bareEnv) 0 ⟨none⟩).result
          = .error error
        ∧ error.cls = .jsonDecodeError
        ∧ ¬error.isPyJWTError)
      ∧ ∃ error,
          (getJwkSet bareEnv false
              ((sending "\x7b\"keys\":[\x7b\"kty\":\"oct\"\x7d]\x7d").turn bareEnv) ⟨none⟩).result
            = .error error
          ∧ error.cls = .keyError
          ∧ ¬error.isPyJWTError := by
  refine ⟨⟨JsonLib.malformed, rfl, rfl, by decide⟩, ?_⟩
  obtain ⟨error, failed, isKeyError⟩ := of_raisesWith
    (by decide +kernel : raisesWith (fun error => error.cls = .keyError)
      (getJwkSet bareEnv false
        ((sending "\x7b\"keys\":[\x7b\"kty\":\"oct\"\x7d]\x7d").turn bareEnv) ⟨none⟩).result = true)
  have cls : error.cls = .keyError := of_decide_eq_true isKeyError
  refine ⟨error, failed, cls, fun own => ?_⟩
  have lineage : error.cls.isSubclass .pyJWTError = true := own
  rw [cls] at lineage
  cases lineage

end PyJwt
