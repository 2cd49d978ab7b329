import Mathlib.Data.List.Find
import PyJwt.Correctness.ExportedKeys
import PyJwt.Correctness.KeyRotation

/-! A published JWK Set: keys that are exported, given a `kid`, a use and an algorithm, and
listed in a document. The set that is read from the document has the same keys.
-/

namespace PyJwt

open Foundations
open Python

variable {env : Env}

-----------------------------------------------------------------------------------------
-- The members that an import reads
-----------------------------------------------------------------------------------------

/-- The members that the importers of the four families read. -/
def importedMembers : List PyStr :=
  [
    "kty", "crv", "x", "y", "d", "k", "n", "e", "p", "q", "dp", "dq", "qi", "oth"
  ]

/-- Objects with the same values under those names are imported alike. -/
theorem JwkFamily.fromJwk_congr (family : JwkFamily) {obj other : Dict Json}
    (agree : ∀ name ∈ importedMembers, obj.get? name = other.get? name)
    : family.fromJwk env obj.toJson = family.fromJwk env other.toJson := by
  have parsed (dict : Dict Json) : parseJwkJson env dict.toJson = .ok dict.toJson := rfl
  have isDict (dict : Dict Json) : requireDict dict.toJson = .ok dict := by
    simp [requireDict]
  simp only [importedMembers, List.forall_mem_cons, List.not_mem_nil, false_imp_iff,
    implies_true, and_true] at agree
  obtain ⟨kty, crv, x, y, d, k, n, e, p, q, dp, dq, qi, oth⟩ := agree
  cases family with
  | oct =>
      simp only [fromJwk, HMACAlgorithm.fromJwk, parsed, isDict, outcome_ok_bind, getOrNull,
        getItem, kty, k]
      rfl
  | rsa =>
      simp only [fromJwk, RSAAlgorithm.fromJwk, rsaPrivateNumbersFromJwk, parsed, isDict,
        outcome_ok_bind, getOrNull, uintMember, getItem, Dict.contains, List.map_cons,
        List.map_nil, kty, d, n, e, p, q, dp, dq, qi, oth]
      rfl
  | ec =>
      simp only [fromJwk, ECAlgorithm.fromJwk, parsed, isDict, outcome_ok_bind, getOrNull,
        Dict.contains, kty, crv, x, y, d]
      rfl
  | okp =>
      simp only [fromJwk, OKPAlgorithm.fromJwk, parsed, isDict, outcome_ok_bind, getOrNull,
        Dict.contains, kty, crv, x, d]
      rfl

/-- Every key of a family is exported, and imported from its export. -/
theorem JwkFamily.Holds.exchanges {family : JwkFamily} {source key : Key}
    (holds : family.Holds env source key) (asDict : Bool)
    : Exchanges (family.toJwk env source asDict) (family.fromJwk env) key := by
  cases holds with
  | secret encodes => exact HMACAlgorithm.exchanges encodes asDict
  | rsaPublic inverts => exact RSAAlgorithm.exchanges_public inverts asDict
  | rsaPrivate inverts => exact RSAAlgorithm.exchanges_private inverts asDict
  | ecPublic named small inverts => exact ECAlgorithm.exchanges_public named small inverts asDict
  | ecPrivate named small value inverts =>
      exact ECAlgorithm.exchanges_private named small value inverts asDict
  | edPublic inverts => exact OKPAlgorithm.exchanges_public inverts asDict
  | edPrivate inverts => exact OKPAlgorithm.exchanges_private inverts asDict

/-- No default algorithm has an empty name. -/
theorem ne_empty_of_default {name : PyStr} {handler : Algorithm}
    (h : (getDefaultAlgorithms env).get? name = some handler)
    : name ≠ "" := by
  intro empty
  rw [empty] at h
  have unlisted : (getDefaultAlgorithms env).get? "" = none := by
    unfold getDefaultAlgorithms
    cases env.hasCrypto <;> decide
  cases h.symm.trans unlisted

-----------------------------------------------------------------------------------------
-- Entries of a document
-----------------------------------------------------------------------------------------

/-- A key as its owner publishes it. -/
structure Publication where
  family : JwkFamily
  source : Key
  kid : PyStr
  alg : PyStr

namespace Publication

/-- The export with what the owner adds to it. -/
def stated (self : Publication) (obj : Dict Json) : Dict Json :=
  ((obj.set "kid" (.str self.kid)).set "use" (.str "sig")).set "alg" (.str self.alg)

/-- `to_jwk(key, as_dict=True)` with the added members. -/
def toEntry (env : Env) (self : Publication) : Outcome Json := do
  let obj ← requireDict (← self.family.toJwk env self.source true)
  return (self.stated obj).toJson

/-- The export is imported as the key, and the algorithm is a default one of its family. -/
structure Publishes (env : Env) (entry : Publication) (key : Key) : Prop where
  holds : entry.family.Holds env entry.source key
  handled : ∃ handler,
    (getDefaultAlgorithms env).get? entry.alg = some handler
    ∧ handler.jwkFamily? = some entry.family

/-- The added members hide none that an importer reads. -/
theorem get?_stated (self : Publication) (obj : Dict Json) {name : PyStr}
    (h : name ∈ importedMembers)
    : (self.stated obj).get? name = obj.get? name := by
  have other : ∀ name ∈ importedMembers, name ≠ "kid" ∧ name ≠ "use" ∧ name ≠ "alg" := by
    decide
  obtain ⟨notKid, notUse, notAlg⟩ := other name h
  simp only [stated, Dict.get?_set, if_neg notKid, if_neg notUse, if_neg notAlg]

/-- What a `PyJWK` made of the entry is. -/
structure IsLoaded (env : Env) (entry : Publication) (key : Key) (jwk : PyJWK) : Prop where
  key : jwk.key = key
  keyId : jwk.keyId = .str entry.kid
  publicKeyUse : jwk.publicKeyUse = .str "sig"
  keyType : jwk.keyType = .str entry.family.kty
  algorithmName : jwk.algorithmName = entry.alg
  algorithm : (getDefaultAlgorithms env).get? entry.alg = some jwk.algorithm

/-- A published key is an entry that loads as the key, with the members it was given. -/
theorem Publishes.loads {self : Publication} {key : Key} (h : self.Publishes env key)
    : ∃ entry jwk,
        self.toEntry env = .ok entry
        ∧ PyJWK.init env entry none = .ok jwk
        ∧ self.IsLoaded env key jwk := by
  obtain ⟨handler, registered, ofFamily⟩ := h.handled
  obtain ⟨obj, exported, described⟩ := JwkFamily.toJwk_describes h.holds
  obtain ⟨jwk, isJwk, imports⟩ := h.holds.exchanges true
  cases exported.symm.trans isJwk
  have kty : (self.stated obj).get? "kty" = some (.str self.family.kty) :=
    (self.get?_stated obj (by decide)).trans described.kty
  have kid : (self.stated obj).get? "kid" = some (.str self.kid) := by
    simp [stated, Dict.get?_set]
  have use : (self.stated obj).get? "use" = some (.str "sig") := by
    simp [stated, Dict.get?_set]
  have alg : (self.stated obj).get? "alg" = some (.str self.alg) := by
    simp [stated, Dict.get?_set]
  have imported : handler.fromJwk env (self.stated obj).toJson = .ok key := by
    rw [Algorithm.fromJwk_eq ofFamily,
      self.family.fromJwk_congr (fun name member => self.get?_stated obj member)]
    exact imports
  have named := ne_empty_of_default registered
  have made : PyJWK.init env (self.stated obj).toJson none
      = .ok ⟨self.stated obj, self.alg, handler, key⟩ := by
    refine PyJWK.init_eq_ok.mpr ⟨self.stated obj, self.alg, handler, key, ?_, ?_, ?_,
      PyJWK.requireCryptography_of_default registered, registered, imported, rfl⟩
    · exact requireDict_eq_ok.mpr (Dict.asDict?_toJson _)
    · rw [getOrNull, kty]
      cases self.family <;> rfl
    · rw [nameAlgorithm_eq, getOrNull, alg]
      exact if_pos (decide_eq_true named)
  refine ⟨_, _, ?_, made, {
    key := rfl
    keyId := by rw [PyJWK.keyId, getOrNull, kid]; rfl
    publicKeyUse := by rw [PyJWK.publicKeyUse, getOrNull, use]; rfl
    keyType := by rw [PyJWK.keyType, getOrNull, kty]; rfl
    algorithmName := rfl
    algorithm := registered
  }⟩
  have isDict : requireDict obj.toJson = .ok obj :=
    requireDict_eq_ok.mpr (Dict.asDict?_toJson obj)
  simp only [toEntry, exported, isDict, outcome_ok_bind]
  rfl

end Publication

-----------------------------------------------------------------------------------------
-- Documents
-----------------------------------------------------------------------------------------

/-- `{"keys": entries}`. -/
def jwksDocument (entries : List Json) : Dict Json :=
  Dict.ofEntries [("keys", .list entries)]

/-- The keys are those that were published, in their order. -/
abbrev AreLoaded (env : Env) (published : List (Publication × Key)) (keys : List PyJWK) : Prop :=
  List.Forall₂ (fun entry jwk => entry.1.IsLoaded env entry.2 jwk) published keys

/-- Published keys are entries that load, by induction on the keys. -/
theorem exists_entries {published : List (Publication × Key)}
    (h : ∀ entry ∈ published, entry.1.Publishes env entry.2)
    : ∃ entries,
        (published.map Prod.fst).mapM (Publication.toEntry env) = .ok entries
        ∧ (∀ entry ∈ entries, ∃ jwk, PyJWK.init env entry none = .ok jwk)
        ∧ AreLoaded env published (usableKeys env entries) := by
  induction published with
  | nil => exact ⟨[], rfl, by simp, .nil⟩
  | cons head rest ih =>
      obtain ⟨entries, mapped, loads, areLoaded⟩ :=
        ih (fun entry member => h entry (List.mem_cons_of_mem head member))
      obtain ⟨entry, jwk, isEntry, made, isLoaded⟩ := (h head List.mem_cons_self).loads
      refine ⟨entry :: entries, ?_, ?_, ?_⟩
      · rw [List.map_cons, List.mapM_cons, isEntry, outcome_ok_bind, mapped, outcome_ok_bind]
        rfl
      · intro other member
        rcases List.mem_cons.mp member with rfl | later
        · exact ⟨jwk, made⟩
        · exact loads other later
      · have first : usableKeys env (entry :: entries) = jwk :: usableKeys env entries := by
          simp [usableKeys, made, Except.toOption]
        rw [first]
        exact .cons isLoaded areLoaded

/-- The document of entries that load is the set of the keys that they load to. -/
theorem fromDict_jwksDocument {published : List (Publication × Key)} {entries : List Json}
    (nonempty : published ≠ [])
    (loads : ∀ entry ∈ entries, ∃ jwk, PyJWK.init env entry none = .ok jwk)
    (areLoaded : AreLoaded env published (usableKeys env entries))
    : PyJWKSet.fromDict env (jwksDocument entries) = .ok ⟨usableKeys env entries⟩ := by
  have someKey : usableKeys env entries ≠ [] := by
    intro none
    rw [none] at areLoaded
    exact nonempty (List.forall₂_nil_right_iff.mp areLoaded)
  refine (PyJWKSet.keepsUsable_of_skips ?_).1 someKey
  intro entry member
  obtain ⟨jwk, isMade⟩ := loads entry member
  rw [isMade]
  exact failsWith_ok _

/-- What is found is the key that was published under the `kid` first, by induction on the keys.
-/
theorem AreLoaded.find? {published : List (Publication × Key)} {keys : List PyJWK}
    (h : AreLoaded env published keys) (kid : PyStr)
    : Option.Rel (fun entry jwk => entry.1.IsLoaded env entry.2 jwk)
        (published.find? (fun entry => entry.1.kid = kid))
        (keys.find? (fun key => key.keyId.asStr? = some kid)) := by
  induction h with
  | nil => exact .none
  | @cons entry key _ _ isLoaded _ ih =>
      rw [List.find?_cons, List.find?_cons]
      by_cases here : entry.1.kid = kid
      · have found : key.keyId.asStr? = some kid := by
          rw [isLoaded.keyId, here]
          rfl
        simp only [here, found, decide_true]
        exact .some isLoaded
      · have other : key.keyId.asStr? ≠ some kid := by
          rw [isLoaded.keyId]
          exact fun same => here (Option.some.inj same)
        simp only [here, other, decide_false]
        exact ih

/-- Each of the keys was published. -/
theorem AreLoaded.published {published : List (Publication × Key)} {keys : List PyJWK}
    (h : AreLoaded env published keys) {jwk : PyJWK} (member : jwk ∈ keys)
    : ∃ entry ∈ published, entry.1.IsLoaded env entry.2 jwk := by
  induction h with
  | nil => cases member
  | @cons entry key _ _ isLoaded _ ih =>
      rcases List.mem_cons.mp member with rfl | later
      · exact ⟨entry, List.mem_cons_self, isLoaded⟩
      · obtain ⟨other, listed, isOther⟩ := ih later
        exact ⟨other, List.mem_cons_of_mem entry listed, isOther⟩

/-- All published keys are signing keys, unless their `kid` is empty. -/
theorem AreLoaded.matchKid_eq {published : List (Publication × Key)} {keys : List PyJWK}
    (h : AreLoaded env published keys) {kid : PyStr} (named : kid ≠ "")
    : PyJWKClient.matchKid (keys.filter PyJWKClient.isSigningKey) kid
      = keys.find? (fun key => key.keyId.asStr? = some kid) := by
  unfold PyJWKClient.matchKid
  rw [List.find?_filter]
  refine List.find?_congr ?_
  intro key member
  obtain ⟨entry, _, isLoaded⟩ := h.published member
  by_cases here : key.keyId.asStr? = some kid
  · have signing : PyJWKClient.isSigningKey key = true := by
      refine PyJWKClient.isSigningKey_eq_true.mpr ⟨Or.inl isLoaded.publicKeyUse, ?_⟩
      rw [Json.asStr?_eq_some.mp here]
      exact decide_eq_true named
    simp [here, signing]
  · simp [here]

/-- No signing key is found by an empty `kid`. -/
theorem matchKid_empty (keys : List PyJWK)
    : PyJWKClient.matchKid (keys.filter PyJWKClient.isSigningKey) "" = none := by
  refine List.find?_eq_none.mpr ?_
  intro key member found
  have truthy := (PyJWKClient.isSigningKey_eq_true.mp (List.mem_filter.mp member).2).2
  rw [Json.asStr?_eq_some.mp (of_decide_eq_true found)] at truthy
  cases truthy

/-- The set that is read from the document of published keys has those keys, in their order. It
finds under each `kid` the first that was published under it, and so does a client among its
signing keys, except that an empty `kid` names none there. Reading the document's text gives the
same set.
-/
theorem publishedSet_loads {published : List (Publication × Key)} (nonempty : published ≠ [])
    (h : ∀ entry ∈ published, entry.1.Publishes env entry.2)
    : ∃ entries jwkSet,
        (published.map Prod.fst).mapM (Publication.toEntry env) = .ok entries
        ∧ PyJWKSet.fromDict env (jwksDocument entries) = .ok jwkSet
        ∧ (∀ text,
          env.json.loadsStr text = .ok (jwksDocument entries).toJson
          → PyJWKSet.fromJson env text = .ok jwkSet)
        ∧ AreLoaded env published jwkSet.keys
        ∧ ∀ kid,
            Option.Rel (fun entry jwk => entry.1.IsLoaded env entry.2 jwk)
              (published.find? (fun entry => entry.1.kid = kid)) (jwkSet.findByKid kid)
            ∧ PyJWKClient.matchKid (jwkSet.keys.filter PyJWKClient.isSigningKey) kid
              = if kid = "" then none else jwkSet.findByKid kid := by
  obtain ⟨entries, mapped, loads, areLoaded⟩ := exists_entries h
  have made := fromDict_jwksDocument nonempty loads areLoaded
  refine ⟨entries, ⟨usableKeys env entries⟩, mapped, made, ?_, areLoaded, ?_⟩
  · intro text read
    have isDict : requireDict (jwksDocument entries).toJson = .ok (jwksDocument entries) :=
      requireDict_eq_ok.mpr (Dict.asDict?_toJson _)
    simp only [PyJWKSet.fromJson, read, isDict, outcome_ok_bind, made]
  · intro kid
    refine ⟨areLoaded.find? kid, ?_⟩
    by_cases named : kid = ""
    · rw [if_pos named, named]
      exact matchKid_empty _
    · rw [if_neg named]
      exact areLoaded.matchKid_eq named

-----------------------------------------------------------------------------------------
-- A secret and an Edwards key
-----------------------------------------------------------------------------------------

/-- The two bytes `kk`, and 32 zero bytes as an Ed25519 public key. -/
def publishedPair : List (Publication × Key) :=
  [
    (⟨.oct, .bytes (ascii "kk"), "a", "HS256"⟩, .bytes (ascii "kk")),
    (
      ⟨.okp, .object (.edPublic .ed25519 (List.replicate 32 0)), "b", "EdDSA"⟩,
      .object (.edPublic .ed25519 (List.replicate 32 0))
    )
  ]

theorem publishedPair_publishes
    : ∀ entry ∈ publishedPair, entry.1.Publishes edwardsEnv entry.2 := by
  intro entry member
  simp only [publishedPair, List.mem_cons, List.not_mem_nil, or_false] at member
  rcases member with rfl | rfl
  · exact ⟨.secret rfl, _, rfl, rfl⟩
  · exact ⟨.edPublic rfl, _, rfl, rfl⟩

/-- The second key is found under its `kid`. -/
theorem publishedSet_loads_pair
    : ∃ entries jwkSet jwk,
        PyJWKSet.fromDict edwardsEnv (jwksDocument entries) = .ok jwkSet
        ∧ jwkSet.findByKid "b" = some jwk
        ∧ jwk.key = .object (.edPublic .ed25519 (List.replicate 32 0)) := by
  obtain ⟨entries, jwkSet, _, made, _, _, finds⟩ :=
    @publishedSet_loads edwardsEnv publishedPair (List.cons_ne_nil _ _) publishedPair_publishes
  have found := (finds "b").1
  have second : publishedPair.find? (fun entry => entry.1.kid = PyStr.ofString "b")
      = some publishedPair[1] :=
    rfl
  rw [second] at found
  cases result : jwkSet.findByKid "b" with
  | none =>
      rw [result] at found
      cases found
  | some jwk =>
      rw [result] at found
      cases found with
      | some isLoaded => exact ⟨entries, jwkSet, jwk, made, result, isLoaded.key⟩

end PyJwt
