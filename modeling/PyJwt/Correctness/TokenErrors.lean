import PyJwt.Correctness.JwtRoundTrip
import PyJwt.Correctness.KeyFamilies

/-! Which errors leave the decoding of a token. Every stage is taken once: what makes it fail
with an error that is not the library's own, and that this is all that does.
-/

namespace PyJwt

open Foundations
open Python

-----------------------------------------------------------------------------------------
-- Clean outcomes
-----------------------------------------------------------------------------------------

/-- The outcome fails with nothing but the library's own errors. -/
abbrev Clean {α : Type} (outcome : Outcome α) : Prop :=
  FailsWith PyError.isPyJWTError outcome

/-- Besides the library's own errors, the outcome fails with `classes` only. -/
abbrev FailsOnly {α : Type} (classes : List ExcClass) (outcome : Outcome α) : Prop :=
  FailsWith (fun error => classes.any error.isA = true ∨ error.isPyJWTError) outcome

theorem clean_error {α : Type} {error : PyError}
    : Clean (.error error : Outcome α) ↔ error.isPyJWTError :=
  failsWith_error

theorem clean_bind {α β : Type} {first : Outcome α} {next : α → Outcome β}
    : Clean (first >>= next)
      ↔ Clean first ∧ ∀ value, first = .ok value → Clean (next value) :=
  failsWith_bind

theorem clean_ite {α : Type} {condition : Prop} [Decidable condition] {yes no : Outcome α}
    : Clean (if condition then yes else no)
      ↔ (condition → Clean yes) ∧ (¬condition → Clean no) :=
  failsWith_ite

/-- A guarded attempt is clean when the attempt fails with nothing but the guarded classes,
and the handler is clean wherever it takes over.
-/
theorem clean_tryExcept {α : Type} {attempt : Outcome α} {classes : List ExcClass}
    {handler : PyError → Outcome α}
    : Clean (tryExcept attempt classes handler)
      ↔ FailsOnly classes attempt
        ∧ ∀ error,
            attempt = .error error
            → classes.any error.isA = true
            → Clean (handler error) :=
  failsWith_tryExcept

/-- Translating the guarded classes to an own error leaves only the other errors to escape. -/
theorem clean_tryExcept_raise {α : Type} {attempt : Outcome α} {classes : List ExcClass}
    {translate : PyError → PyError} (own : ∀ error, (translate error).isPyJWTError)
    : Clean (tryExcept attempt classes (fun error => .error (translate error)))
      ↔ FailsOnly classes attempt := by
  rw [clean_tryExcept]
  constructor
  · intro h
    exact h.1
  · intro h
    exact ⟨h, fun error _ _ => failsWith_error.mpr (own error)⟩

/-- Guarding no class changes nothing. -/
theorem failsOnly_nil {α : Type} {outcome : Outcome α} : FailsOnly [] outcome ↔ Clean outcome := by
  simp [FailsOnly, Clean]

-----------------------------------------------------------------------------------------
-- Loading
-----------------------------------------------------------------------------------------

variable {env : Env}

/-- `json.loads` returns or raises a `ValueError`: the nesting is not too deep for it. -/
def JsonReadable (env : Env) (data : Bytes) : Prop :=
  FailsOnly [.valueError] (env.json.loadsBytes data)

namespace PyJWS

/-- A `DecodeError` is one of the library's own errors. -/
theorem own_of_decodeError (error : PyError) (h : error.cls = .decodeError)
    : error.isPyJWTError := by
  show error.cls.isSubclass .pyJWTError = true
  rw [h]
  rfl

/-- An object is loaded cleanly exactly when its text is readable. -/
theorem clean_loadObject {data : Bytes} {label : String}
    : Clean (loadObject env data label) ↔ JsonReadable env data :=
  failsWith_loadObject own_of_decodeError

/-- A token is loaded cleanly exactly when the text of its header, if it has one, is readable. -/
theorem clean_load {jwt : Bytes}
    : Clean (load env (.bytes jwt))
      ↔ ∀ (segments : Segments) (data : Bytes),
          jwt = segments.serialize
          → base64urlDecode (.bytes segments.header) = .ok data
          → JsonReadable env data :=
  failsWith_load own_of_decodeError

theorem clean_validateHeaders (headers : Dict Json) (encoding : Bool)
    : Clean (validateHeaders headers encoding) := by
  intro error failed
  show error.cls.isSubclass .pyJWTError = true
  rw [failsWith_validateHeaders headers encoding error failed]
  rfl

theorem clean_signedContent (loaded : Loaded) (detachedPayload : Option Bytes)
    : Clean (signedContent loaded detachedPayload) := by
  unfold signedContent
  refine failsWith_ite.mpr ⟨fun _ => ?_, fun _ => failsWith_ok _⟩
  split
  · exact failsWith_error.mpr rfl
  · exact failsWith_ok _

theorem clean_allowedAlg (header : Dict Json) (algorithms : Option (List PyStr))
    : Clean (allowedAlg header algorithms) := by
  unfold allowedAlg
  split
  · exact failsWith_error.mpr rfl
  · exact failsWith_ite.mpr ⟨fun _ => failsWith_error.mpr rfl, fun _ => failsWith_ok _⟩

/-- A name that is not registered is refused with an own error. -/
theorem clean_verifyingAlgorithm (jws : PyJWS) (name : PyStr) (key : Key)
    : Clean (jws.verifyingAlgorithm env (.str name) (.raw key)) := by
  simp only [verifyingAlgorithm]
  rw [clean_tryExcept_raise (by intro _; rfl)]
  intro error failed
  simp only [getAlgorithmByName, requireHashable, outcome_ok_bind] at failed
  split at failed
  · cases failed
  · rcases ite_eq_iff.mp failed with ⟨_, raised⟩ | ⟨_, raised⟩
    · cases raised
      exact Or.inl rfl
    · cases raised
      exact Or.inl rfl

end PyJWS

-----------------------------------------------------------------------------------------
-- Preparing a secret
-----------------------------------------------------------------------------------------

/-- The text of the key has a UTF-8 encoding. -/
def Key.Encodes (key : Key) (keyBytes : Bytes) : Prop :=
  forceBytes key.asText = .ok keyBytes

/-- A secret: text or bytes. -/
def Key.IsSecret (key : Key) : Prop :=
  (∃ text, key = .str text) ∨ ∃ bytes, key = .bytes bytes

/-- A string without an encoding raises an error that is not the library's. -/
theorem clean_forceBytes {text : TextArg}
    : Clean (forceBytes text) ↔ ∃ bytes, forceBytes text = .ok bytes := by
  cases returned : forceBytes text with
  | ok bytes => simp
  | error error =>
      simp only [clean_error, reduceCtorEq, exists_false, iff_false]
      cases text with
      | str value =>
          simp only [forceBytes, encodeStr] at returned
          split at returned
          · cases returned
          · cases returned
            decide
      | bytes value => cases returned
      | other =>
          cases returned
          decide

theorem clean_checkCryptoKeyType (hasCrypto : env.hasCrypto = true) (selfClass : String)
    (keyTypes : KeyObject → Bool) (key : Key)
    : Clean (checkCryptoKeyType env selfClass keyTypes key) := by
  unfold checkCryptoKeyType
  refine failsWith_ite.mpr ⟨fun missing => ?_, fun _ => ?_⟩
  · simp [hasCrypto] at missing
  · split
    · exact failsWith_ite.mpr ⟨fun _ => failsWith_ok _, fun _ => failsWith_error.mpr rfl⟩
    · exact failsWith_error.mpr rfl

/-- What follows a loader and only raises own errors leaves the loader's errors as they are. -/
theorem failsOnly_loader {classes : List ExcClass} {loader : Outcome KeyObject}
    {next : KeyObject → Outcome Key} (h : ∀ object, Clean (next object))
    : FailsOnly classes (loader >>= next) ↔ FailsOnly classes loader := by
  unfold FailsOnly
  rw [failsWith_bind]
  constructor
  · intro whole
    exact whole.1
  · intro loads
    exact ⟨loads, fun object _ error failed => Or.inr (h object error failed)⟩

/-- After own errors only, an error that is not the library's is the loader's. -/
theorem loader_of_error {loader : Outcome KeyObject} {next : KeyObject → Outcome Key}
    (h : ∀ object, Clean (next object)) {error : PyError} (foreign : ¬error.isPyJWTError)
    : (loader >>= next) = .error error ↔ loader = .error error := by
  cases loader with
  | ok object =>
      simp only [outcome_ok_bind, reduceCtorEq, iff_false]
      intro failed
      exact foreign (h object error failed)
  | error other => simp

/-- A `ValueError` is not an own error. -/
theorem foreign_of_valueError {error : PyError} (h : [ExcClass.valueError].any error.isA = true)
    : ¬error.isPyJWTError := by
  obtain ⟨cls, message⟩ := error
  simp only [List.any_cons, List.any_nil, Bool.or_false, PyError.isA] at h
  show ¬cls.isSubclass .pyJWTError = true
  cases cls with
  | other name => simp [ExcClass.isSubclass, ExcClass.lineage, ExcClass.base] at h
  | _ => revert h; decide

/-- A guarded loader before own errors only is clean when it fails with a `ValueError` at most
and what takes over then is clean.
-/
theorem clean_tryExcept_loader {loader : Outcome KeyObject} {next : KeyObject → Outcome Key}
    {handler : PyError → Outcome Key} (h : ∀ object, Clean (next object))
    : Clean (tryExcept (loader >>= next) [.valueError] handler)
      ↔ FailsOnly [.valueError] loader
        ∧ ∀ error,
            loader = .error error
            → [ExcClass.valueError].any error.isA = true
            → Clean (handler error) := by
  rw [clean_tryExcept, failsOnly_loader h]
  refine and_congr_right (fun _ => forall_congr' (fun error => ?_))
  constructor
  · intro takesOver failed caught
    exact takesOver ((loader_of_error h (foreign_of_valueError caught)).mpr failed) caught
  · intro takesOver failed caught
    exact takesOver ((loader_of_error h (foreign_of_valueError caught)).mp failed) caught

namespace RSAAlgorithm

/-- The loader RSA tries first. -/
def firstLoad (env : Env) (keyBytes : Bytes) : Outcome KeyObject :=
  if (ascii "ssh-rsa").isPrefixOf keyBytes then env.crypto.loadSshPublicKey keyBytes
  else env.crypto.loadPemPrivateKey keyBytes

theorem clean_checked (hasCrypto : env.hasCrypto = true) (self : RSAAlgorithm)
    (object : KeyObject)
    : Clean (self.checked env object) :=
  failsWith_bind.mpr ⟨clean_checkCryptoKeyType hasCrypto _ _ _, fun _ _ => failsWith_ok _⟩

/-- Loading is clean when the first loader fails with a `ValueError` at most, and the second,
where it is tried, with that or an unsupported algorithm.
-/
theorem clean_loadKey (hasCrypto : env.hasCrypto = true) {self : RSAAlgorithm}
    {keyBytes : Bytes}
    : Clean (self.loadKey env keyBytes)
      ↔ FailsOnly [.valueError] (firstLoad env keyBytes)
        ∧ ∀ error,
            firstLoad env keyBytes = .error error
            → [ExcClass.valueError].any error.isA = true
            → FailsOnly [.valueError, .unsupportedAlgorithm]
              (env.crypto.loadPemPublicKey keyBytes) := by
  have checks := clean_checked hasCrypto self
  have first : (if (ascii "ssh-rsa").isPrefixOf keyBytes then do
        self.checked env (← env.crypto.loadSshPublicKey keyBytes)
      else do self.checked env (← env.crypto.loadPemPrivateKey keyBytes))
      = (firstLoad env keyBytes >>= self.checked env) := by
    unfold firstLoad
    split <;> rfl
  unfold loadKey
  rw [first, clean_tryExcept_loader checks, clean_tryExcept_raise (by intro _; rfl),
    failsOnly_loader checks]

end RSAAlgorithm

namespace ECAlgorithm

/-- The loader an elliptic-curve algorithm tries first. -/
def firstLoad (env : Env) (keyBytes : Bytes) : Outcome KeyObject :=
  if (ascii "ecdsa-sha2-").isPrefixOf keyBytes then env.crypto.loadSshPublicKey keyBytes
  else env.crypto.loadPemPublicKey keyBytes

theorem clean_checked (hasCrypto : env.hasCrypto = true) (self : ECAlgorithm)
    (object : KeyObject)
    : Clean (self.checked env object) := by
  refine failsWith_bind.mpr ⟨clean_checkCryptoKeyType hasCrypto _ _ _, fun checked accepted => ?_⟩
  obtain ⟨_, same, isKey⟩ := checkCryptoKeyType_ok accepted
  cases same
  split
  · refine failsWith_bind.mpr ⟨?_, fun _ _ => failsWith_ok _⟩
    unfold validateCurve
    split
    · exact failsWith_ok _
    · exact failsWith_ite.mpr ⟨fun _ => failsWith_error.mpr rfl, fun _ => failsWith_ok _⟩
  · rename_i noCurve
    simp [cryptoKeyTypes, noCurve] at isKey

/-- Loading is clean when the first loader fails with a `ValueError` at most, and the second,
where it is tried, not at all.
-/
theorem clean_loadKey (hasCrypto : env.hasCrypto = true) {self : ECAlgorithm}
    {keyBytes : Bytes}
    : Clean (self.loadKey env keyBytes)
      ↔ FailsOnly [.valueError] (firstLoad env keyBytes)
        ∧ ∀ error,
            firstLoad env keyBytes = .error error
            → [ExcClass.valueError].any error.isA = true
            → Clean (env.crypto.loadPemPrivateKey keyBytes) := by
  have checks := clean_checked hasCrypto self
  have first : (if (ascii "ecdsa-sha2-").isPrefixOf keyBytes then do
        self.checked env (← env.crypto.loadSshPublicKey keyBytes)
      else do self.checked env (← env.crypto.loadPemPublicKey keyBytes))
      = (firstLoad env keyBytes >>= self.checked env) := by
    unfold firstLoad
    split <;> rfl
  unfold loadKey
  rw [first, clean_tryExcept_loader checks, ← failsOnly_nil, failsOnly_loader checks,
    failsOnly_nil]

end ECAlgorithm

/-- What the handler's `prepare_key` needs of a secret to fail with own errors only: the text
has an encoding, and where it is loaded as a key, the loaders raise what is caught.
-/
def SecretLoads (env : Env) : Algorithm → Key → Prop
  | .none, _ => True
  | .hmac _, secret => ∃ keyBytes, secret.Encodes keyBytes
  | .rsa _, secret =>
      ∃ keyBytes,
        secret.Encodes keyBytes
        ∧ FailsOnly [.valueError] (RSAAlgorithm.firstLoad env keyBytes)
        ∧ ∀ error,
            RSAAlgorithm.firstLoad env keyBytes = .error error
            → [ExcClass.valueError].any error.isA = true
            → FailsOnly [.valueError, .unsupportedAlgorithm]
              (env.crypto.loadPemPublicKey keyBytes)
  | .ec _, secret =>
      ∃ keyBytes,
        secret.Encodes keyBytes
        ∧ FailsOnly [.valueError] (ECAlgorithm.firstLoad env keyBytes)
        ∧ ∀ error,
            ECAlgorithm.firstLoad env keyBytes = .error error
            → [ExcClass.valueError].any error.isA = true
            → Clean (env.crypto.loadPemPrivateKey keyBytes)
  | .okp, secret =>
      ∃ keyStr keyBytes,
        OKPAlgorithm.keyStrAndBytes secret = .ok (keyStr, keyBytes)
        ∧ Clean (OKPAlgorithm.loadKey env keyStr keyBytes)
  | .custom self, secret => Clean (self.prepareKey secret)

/-- The key as text and bytes, or a codec error that is not the library's. -/
theorem OKPAlgorithm.clean_keyStrAndBytes {secret : Key} (isSecret : secret.IsSecret)
    : Clean (keyStrAndBytes secret) ↔ ∃ parts, keyStrAndBytes secret = .ok parts := by
  cases returned : keyStrAndBytes secret with
  | ok parts => simp
  | error error =>
      simp only [clean_error, reduceCtorEq, exists_false, iff_false]
      rcases isSecret with ⟨text, rfl⟩ | ⟨bytes, rfl⟩
      · simp only [keyStrAndBytes, encodeStr] at returned
        split at returned
        · cases returned
        · cases returned
          decide
      · simp only [keyStrAndBytes, decodeBytes] at returned
        split at returned
        · cases returned
        · cases returned
          decide

/-- A key that is first read as bytes is prepared cleanly when it has an encoding and what
follows is clean.
-/
theorem clean_forceBytes_bind {secret : Key} {load : Bytes → Outcome Key}
    {condition : Bytes → Prop} (h : ∀ keyBytes, Clean (load keyBytes) ↔ condition keyBytes)
    : Clean (forceBytes secret.asText >>= load)
      ↔ ∃ keyBytes, secret.Encodes keyBytes ∧ condition keyBytes :=
  failsWith_bind_of_returns clean_forceBytes h

theorem Algorithm.clean_prepareKey_none (key : Key)
    : Clean (Algorithm.none.prepareKey env key) :=
  failsWith_ite.mpr ⟨fun _ => failsWith_error.mpr rfl, fun _ => failsWith_ok _⟩

theorem HMACAlgorithm.clean_prepareKey {secret : Key}
    : Clean (prepareKey env secret) ↔ ∃ keyBytes, secret.Encodes keyBytes := by
  unfold prepareKey
  refine Iff.trans (clean_forceBytes_bind (fun keyBytes => iff_of_true ?_ trivial)) ?_
  · exact failsWith_ite.mpr ⟨fun _ => failsWith_error.mpr rfl, fun _ => failsWith_ok _⟩
  · simp only [and_true]

theorem RSAAlgorithm.clean_prepareKey (hasCrypto : env.hasCrypto = true)
    (self : RSAAlgorithm) {secret : Key} (isSecret : secret.IsSecret)
    : Clean (self.prepareKey env secret) ↔ SecretLoads env (.rsa self) secret := by
  have loaded : Clean (forceBytes secret.asText >>= self.loadKey env)
      ↔ SecretLoads env (.rsa self) secret :=
    clean_forceBytes_bind (fun _ => clean_loadKey hasCrypto)
  rcases isSecret with ⟨text, rfl⟩ | ⟨bytes, rfl⟩
  · exact loaded
  · exact loaded

theorem ECAlgorithm.clean_prepareKey (hasCrypto : env.hasCrypto = true)
    (self : ECAlgorithm) {secret : Key} (isSecret : secret.IsSecret)
    : Clean (self.prepareKey env secret) ↔ SecretLoads env (.ec self) secret := by
  have loaded : Clean (forceBytes secret.asText >>= self.loadKey env)
      ↔ SecretLoads env (.ec self) secret :=
    clean_forceBytes_bind (fun _ => clean_loadKey hasCrypto)
  rcases isSecret with ⟨text, rfl⟩ | ⟨bytes, rfl⟩
  · exact loaded
  · exact loaded

theorem OKPAlgorithm.clean_prepareKey (hasCrypto : env.hasCrypto = true) {secret : Key}
    (isSecret : secret.IsSecret)
    : Clean (prepareKey env secret) ↔ SecretLoads env .okp secret := by
  have checked (parts : PyStr × Bytes)
      : Clean (do
            let loadedKey ← loadKey env parts.1 parts.2
            checkCryptoKeyType env "OKPAlgorithm" cryptoKeyTypes (.object loadedKey)
            return Key.object loadedKey)
        ↔ Clean (loadKey env parts.1 parts.2) := by
    rw [← failsOnly_nil, failsOnly_loader, failsOnly_nil]
    intro object
    exact failsWith_bind.mpr ⟨clean_checkCryptoKeyType hasCrypto _ _ _,
      fun _ _ => failsWith_ok _⟩
  have loaded := failsWith_bind_of_returns (clean_keyStrAndBytes isSecret) checked
  rw [Prod.exists] at loaded
  rcases isSecret with ⟨text, rfl⟩ | ⟨bytes, rfl⟩
  · exact loaded
  · exact loaded

/-- A default algorithm prepares a secret cleanly exactly when the secret loads. -/
theorem clean_prepareKey {name : PyStr} {handler : Algorithm}
    (library : (getDefaultAlgorithms env).get? name = some handler) {secret : Key}
    (isSecret : secret.IsSecret)
    : Clean (handler.prepareKey env secret) ↔ SecretLoads env handler secret := by
  cases handler with
  | none => exact iff_of_true (Algorithm.clean_prepareKey_none secret) trivial
  | hmac self => exact HMACAlgorithm.clean_prepareKey
  | rsa self =>
      have hasCrypto := hasCrypto_of_default library
        ⟨by simp [Algorithm.family?], by simp [Algorithm.family?]⟩
      exact RSAAlgorithm.clean_prepareKey hasCrypto self isSecret
  | ec self =>
      have hasCrypto := hasCrypto_of_default library
        ⟨by simp [Algorithm.family?], by simp [Algorithm.family?]⟩
      exact ECAlgorithm.clean_prepareKey hasCrypto self isSecret
  | okp =>
      have hasCrypto := hasCrypto_of_default library ⟨by decide, by decide⟩
      exact OKPAlgorithm.clean_prepareKey hasCrypto isSecret
  | custom self => exact Iff.rfl

-----------------------------------------------------------------------------------------
-- Checking a signature
-----------------------------------------------------------------------------------------

/-- What the handler's `verify` needs of a key it prepared to fail with own errors only: a
public key for RSA, and a primitive that raises nothing but `InvalidSignature`.
-/
def SignatureChecks (env : Env) : Algorithm → Bytes → Key → Bytes → Prop
  | .none, _, _, _ | .hmac _, _, _, _ => True
  | .rsa self, msg, prepared, sig =>
      ∃ numbers,
        prepared = .object (.rsaPublic numbers)
        ∧ FailsOnly [.invalidSignature]
          (env.crypto.rsaVerify self.padding self.hashAlg numbers sig msg)
  | .ec self, msg, prepared, sig =>
      ∀ publicKey derSig,
        ECAlgorithm.publicKey? prepared = some publicKey
        → rawToDerSignature env.crypto.encodeDssSignature sig publicKey.curve.keySize
          = .ok derSig
        → FailsOnly [.invalidSignature]
          (env.crypto.ecdsaVerify self.hashAlg publicKey derSig msg)
  | .okp, msg, prepared, sig =>
      ∀ curve raw,
        OKPAlgorithm.publicKey? env prepared = some (curve, raw)
        → FailsOnly [.invalidSignature] (env.crypto.edVerify curve raw sig msg)
  | .custom self, msg, prepared, sig => Clean (self.verify msg prepared sig)

/-- A primitive whose `InvalidSignature` counts as a refusal. -/
theorem clean_refusal {primitive : Outcome Unit}
    : Clean (tryExcept
          (do
            primitive
            return true)
          [.invalidSignature]
          (fun _ => .ok false))
      ↔ FailsOnly [.invalidSignature] primitive := by
  have returns : FailsOnly [.invalidSignature]
        (primitive >>= fun _ => (pure true : Outcome Bool))
      ↔ FailsOnly [.invalidSignature] primitive := by
    unfold FailsOnly
    rw [failsWith_bind]
    exact and_iff_left (fun _ _ => nofun)
  rw [clean_tryExcept, returns]
  exact and_iff_left (fun _ _ _ => failsWith_ok _)

/-- A malformed raw signature is refused with a `ValueError`. -/
theorem failsOnly_rawToDerSignature (encodeDssSignature : Nat → Nat → Bytes)
    (rawSig : Bytes) (numBits : Nat)
    : FailsOnly [.valueError] (rawToDerSignature encodeDssSignature rawSig numBits) := by
  have numbers (string : Bytes) : FailsOnly [.valueError] (bytesToNumber string) := by
    intro error failed
    unfold bytesToNumber intOfHex at failed
    rcases ite_eq_iff.mp failed with ⟨_, raised⟩ | ⟨_, raised⟩
    · cases raised
      exact Or.inl rfl
    · cases raised
  unfold rawToDerSignature
  simp only
  split
  · intro error failed
    cases failed
    exact Or.inl rfl
  · refine failsWith_bind.mpr ⟨numbers _, fun _ _ => ?_⟩
    exact failsWith_bind.mpr ⟨numbers _, fun _ _ => nofun⟩

/-- An elliptic-curve signature that is malformed is refused; any other goes to the primitive. -/
theorem ECAlgorithm.clean_verify_of_public {self : ECAlgorithm} {prepared : Key}
    {publicKey : EllipticCurvePublicNumbers} (isPublic : publicKey? prepared = some publicKey)
    (msg sig : Bytes)
    : Clean (self.verify env msg prepared sig)
      ↔ SignatureChecks env (.ec self) msg prepared sig := by
  have der := failsOnly_rawToDerSignature env.crypto.encodeDssSignature sig
    publicKey.curve.keySize
  unfold verify
  simp only [isPublic, SignatureChecks, Option.some.injEq]
  cases converted : rawToDerSignature env.crypto.encodeDssSignature sig
      publicKey.curve.keySize with
  | error error =>
      rw [converted] at der
      refine iff_of_true ?_ ?_
      · refine failsWith_bind.mpr ⟨clean_tryExcept.mpr ⟨?_, fun _ _ _ => failsWith_ok _⟩,
          fun value returned => ?_⟩
        · intro other failed
          cases failed
          exact der error rfl
        · rcases tryExcept_eq_ok.mp returned with impossible | ⟨_, _, _, refused⟩
          · cases impossible
          · cases refused
            exact failsWith_ok _
      · intro other derSig same impossible
        rw [← same, converted] at impossible
        cases impossible
  | ok derSig =>
      refine clean_refusal.trans ?_
      constructor
      · intro h other found same returned
        subst same
        cases converted.symm.trans returned
        exact h
      · intro h
        exact h publicKey derSig rfl converted

/-- With a key of its family, a default algorithm checks a signature cleanly exactly when its
primitive allows it.
-/
theorem clean_verify {name : PyStr} {handler : Algorithm}
    (library : (getDefaultAlgorithms env).get? name = some handler) {secret prepared : Key}
    (prepares : handler.prepareKey env secret = .ok prepared) (msg sig : Bytes)
    : Clean (handler.verify env msg prepared sig)
      ↔ SignatureChecks env handler msg prepared sig := by
  cases handler with
  | none => exact iff_of_true (failsWith_ok _) trivial
  | hmac self =>
      obtain ⟨bytes, rfl⟩ := HMACAlgorithm.prepareKey_has prepares
      exact iff_of_true (failsWith_ok _) trivial
  | rsa self =>
      rcases RSAAlgorithm.prepareKey_has prepares with ⟨numbers, rfl⟩ | ⟨numbers, rfl⟩
      · refine clean_refusal.trans ?_
        simp [SignatureChecks]
      · refine iff_of_false (fun h => absurd (failsWith_error.mp h) ?_) ?_
        · show ¬ExcClass.attributeError.isSubclass .pyJWTError = true
          decide
        · intro h
          obtain ⟨_, impossible, _⟩ := h
          cases impossible
  | ec self =>
      obtain ⟨family, _, made⟩ := family?_of_default library
      obtain ⟨expected, expects, _⟩ := Option.map_eq_some_iff.mp made
      obtain ⟨object, rfl, ofCurve⟩ := ECAlgorithm.prepareKey_has expects prepares
      obtain ⟨publicKey, isPublic⟩
          : ∃ publicKey, ECAlgorithm.publicKey? (.object object) = some publicKey := by
        cases object with
        | ecPublic numbers => exact ⟨numbers, rfl⟩
        | ecPrivate numbers => exact ⟨numbers.publicNumbers, rfl⟩
        | _ => cases ofCurve
      exact ECAlgorithm.clean_verify_of_public isPublic msg sig
  | okp =>
      rcases OKPAlgorithm.prepareKey_has prepares with ⟨curve, raw, rfl⟩ | ⟨curve, raw, rfl⟩
      · refine clean_refusal.trans ?_
        simp [SignatureChecks, OKPAlgorithm.publicKey?]
      · refine clean_refusal.trans ?_
        simp [SignatureChecks, OKPAlgorithm.publicKey?]
  | custom self => exact Iff.rfl

-----------------------------------------------------------------------------------------
-- Decoding a token
-----------------------------------------------------------------------------------------

theorem clean_run_bind {α β : Type} {first : Run α} {next : α → Run β}
    : Clean (first >>= next).result
      ↔ Clean first.result
        ∧ ∀ value, first.result = .ok value → Clean (next value).result :=
  Traced.failsWith_bind

/-- Measuring a key of the family raises nothing. -/
theorem clean_checkKeyLength {name : PyStr} {handler : Algorithm}
    (library : (getDefaultAlgorithms env).get? name = some handler) {secret prepared : Key}
    (prepares : handler.prepareKey env secret = .ok prepared)
    : Clean (handler.checkKeyLength prepared) := by
  cases handler with
  | none | okp => exact failsWith_ok _
  | ec self => exact failsWith_ok _
  | hmac self =>
      obtain ⟨bytes, rfl⟩ := HMACAlgorithm.prepareKey_has prepares
      exact failsWith_ite.mpr ⟨fun _ => failsWith_ok _, fun _ => failsWith_ok _⟩
  | rsa self =>
      rcases RSAAlgorithm.prepareKey_has prepares with ⟨numbers, rfl⟩ | ⟨numbers, rfl⟩
      · exact failsWith_ite.mpr ⟨fun _ => failsWith_ok _, fun _ => failsWith_ok _⟩
      · exact failsWith_ite.mpr ⟨fun _ => failsWith_ok _, fun _ => failsWith_ok _⟩
  | custom self =>
      obtain ⟨family, _, made⟩ := family?_of_default library
      cases made

/-- The secret and the signature are handled by the algorithm the header names, where that
algorithm is listed and registered.
-/
def VerificationHandled (env : Env) (jws : PyJWS) (names : List PyStr) (secret : Key)
    (header : Dict Json) (signingInput signature : Bytes)
    : Prop :=
  ∀ name handler,
    header.get? "alg" = some (.str name)
    → name ∈ names
    → name ≠ ""
    → jws.algorithms.get? name = some handler
    → SecretLoads env handler secret
      ∧ ∀ prepared,
          handler.prepareKey env secret = .ok prepared
          → jws.AcceptsLength handler prepared
          → SignatureChecks env handler signingInput prepared signature

/-- Only the library's own algorithms are registered. -/
def LibraryAlgorithms (env : Env) (jws : PyJWS) : Prop :=
  ∀ name handler,
    jws.algorithms.get? name = some handler
    → (getDefaultAlgorithms env).get? name = some handler

/-- A constructor registers the library's own algorithms. -/
theorem libraryAlgorithms_init (env : Env) (names : Option (List PyStr))
    (options : Option SigOptions)
    : LibraryAlgorithms env (PyJWS.init env names options) := by
  intro name handler found
  unfold Dict.get? at found ⊢
  rw [getEntry_eq_some_iff (Dict.nodupKeys _)] at found ⊢
  exact (List.mem_filter.mp found).1

namespace PyJWS

variable {jws : PyJWS} {secret : Key} {names : List PyStr}

/-- Measuring the prepared key adds no error that is not an own one. -/
theorem clean_prepareSigningKey_iff {name : PyStr} {handler : Algorithm} {key : KeyArg}
    (library : (getDefaultAlgorithms env).get? name = some handler)
    : Clean (jws.prepareSigningKey env handler key).result
      ↔ Clean (handler.prepareKey env key.unwrap) := by
  unfold prepareSigningKey
  rw [Traced.liftM_eq_ofExcept, clean_run_bind, Traced.ofExcept_result]
  refine and_iff_left (fun prepared prepares => ?_)
  rw [Traced.liftM_eq_ofExcept]
  refine clean_run_bind.mpr ⟨clean_checkKeyLength library prepares, fun message _ => ?_⟩
  split
  · exact failsWith_ok _
  · split
    · exact clean_run_bind.mpr ⟨failsWith_error.mpr rfl, nofun⟩
    · exact clean_run_bind.mpr ⟨failsWith_ok _, fun _ _ => failsWith_ok _⟩

theorem clean_prepareSigningKey {name : PyStr} {handler : Algorithm}
    (library : (getDefaultAlgorithms env).get? name = some handler)
    (isSecret : secret.IsSecret)
    : Clean (jws.prepareSigningKey env handler (.raw secret)).result
      ↔ SecretLoads env handler secret :=
  (clean_prepareSigningKey_iff library).trans (clean_prepareKey library isSecret)

/-- The verdict of a handler is clean: a signature that it refuses raises an own error. -/
theorem clean_verdict (verified : Bool)
    : Clean (if !verified then
          Traced.raise ⟨.invalidSignatureError, [.text "Signature verification failed"]⟩
        else pure () : Run Unit).result := by
  cases verified with
  | true => exact failsWith_ok _
  | false => exact failsWith_error.mpr rfl

/-- A registered handler verifies cleanly exactly when the secret loads and the signature can
be checked with the prepared key.
-/
theorem clean_verification (library : LibraryAlgorithms env jws) (isSecret : secret.IsSecret)
    {name : PyStr} {handler : Algorithm} (registered : jws.algorithms.get? name = some handler)
    (signingInput signature : Bytes)
    : Clean (do
          let preparedKey ← jws.prepareSigningKey env handler (.raw secret)
          let verified ← callVerify env handler signingInput preparedKey signature
          if !verified then
            Traced.raise ⟨.invalidSignatureError, [.text "Signature verification failed"]⟩
          : Run Unit).result
      ↔ SecretLoads env handler secret
        ∧ ∀ prepared,
            handler.prepareKey env secret = .ok prepared
            → jws.AcceptsLength handler prepared
            → SignatureChecks env handler signingInput prepared signature := by
  have default := library name handler registered
  rw [clean_run_bind, clean_prepareSigningKey default isSecret]
  refine and_congr_right (fun _ => forall_congr' (fun prepared => ?_))
  rw [prepareSigningKey_eq_ok, and_imp]
  refine imp_congr_right (fun prepares => imp_congr_right (fun _ => ?_))
  rw [clean_run_bind, ← clean_verify default prepares]
  refine (and_iff_left (fun verified _ => clean_verdict verified)).trans ?_
  unfold callVerify
  rw [Traced.liftM_eq_ofExcept, clean_run_bind]
  exact ⟨fun h => h.2 ⟨⟩ rfl, fun h => ⟨failsWith_ok _, fun _ _ => h⟩⟩

/-- A signature is verified cleanly exactly when the algorithm in charge handles the secret
and the signature.
-/
theorem clean_verifySignature (library : LibraryAlgorithms env jws)
    (isSecret : secret.IsSecret) (signingInput : Bytes) (header : Dict Json)
    (signature : Bytes)
    : Clean (jws.verifySignature env signingInput header signature (.raw secret)
          (some names)).result
      ↔ VerificationHandled env jws names secret header signingInput signature := by
  unfold verifySignature
  rw [Traced.liftM_eq_ofExcept, clean_run_bind]
  constructor
  · intro h name handler named listed nonempty registered
    have allowed : allowedAlg header (effectiveAlgorithms (.raw secret) (some names))
        = .ok (.str name) :=
      allowedAlg_eq_ok.mpr ⟨named, decide_eq_true nonempty, fun _ same => by
        cases same
        exact ⟨name, listed, rfl⟩⟩
    have chosen : jws.verifyingAlgorithm env (.str name) (.raw secret) = .ok handler :=
      tryExcept_raise_eq_ok.mpr (getAlgorithmByName_str_eq_ok.mpr registered)
    have inner := h.2 (.str name) allowed
    rw [Traced.liftM_eq_ofExcept, clean_run_bind] at inner
    exact (clean_verification library isSecret registered _ _).mp (inner.2 handler chosen)
  · intro h
    refine ⟨clean_allowedAlg _ _, fun alg allowed => ?_⟩
    obtain ⟨named, nonempty, allListed⟩ := allowedAlg_eq_ok.mp allowed
    obtain ⟨name, listed, rfl⟩ := allListed names rfl
    rw [Traced.liftM_eq_ofExcept]
    refine clean_run_bind.mpr ⟨clean_verifyingAlgorithm jws name secret, fun handler chosen => ?_⟩
    have registered := getAlgorithmByName_str_eq_ok.mp (tryExcept_raise_eq_ok.mp chosen)
    exact (clean_verification library isSecret registered _ _).mpr
      (h name handler named listed (of_decide_eq_true nonempty) registered)

/-- A token is decoded cleanly exactly when its header is readable and, where its signature is
verified, the algorithm in charge handles the secret and the signature.
-/
theorem clean_decodeComplete (library : LibraryAlgorithms env jws)
    (isSecret : secret.IsSecret) (listed : names ≠ []) (token : Bytes)
    (options : Option SigOptions) (detachedPayload : Option Bytes)
    : Clean (jws.decodeComplete env (.bytes token) (.raw secret) (some names) options
          detachedPayload).result
      ↔ (∀ (segments : Segments) (data : Bytes),
          token = segments.serialize
          → base64urlDecode (.bytes segments.header) = .ok data
          → JsonReadable env data)
        ∧ ((jws.options.merge options).verifySignature = true
          → ∀ segments loaded payload signingInput,
              Opens env (.bytes token) detachedPayload segments loaded payload signingInput
              → VerificationHandled env jws names secret loaded.header signingInput
                loaded.signature) := by
  have named : NamesAlgorithms (.raw secret) (some names) := by
    refine Or.inl ?_
    cases names with
    | nil => exact absurd rfl listed
    | cons head rest => rfl
  cases flag : (jws.options.merge options).verifySignature with
  | false =>
      rw [decodeComplete_unverified flag, clean_run_bind, Traced.ofExcept_result, clean_load]
      simp only [Bool.false_eq_true, false_imp_iff, and_true]
      refine and_iff_left (fun loaded _ => ?_)
      refine clean_run_bind.mpr ⟨clean_validateHeaders _ _, fun _ _ => ?_⟩
      exact clean_run_bind.mpr ⟨clean_signedContent _ _, fun _ _ => failsWith_ok _⟩
  | true =>
      rw [decodeComplete_verified flag named, clean_run_bind, Traced.ofExcept_result, clean_load]
      simp only [true_imp_iff]
      refine and_congr_right (fun _ => ?_)
      constructor
      · intro h segments loaded payload signingInput opens
        have afterLoad := h loaded (load_eq_ok_iff.mpr ⟨segments, opens.loads⟩)
        have afterHeaders := (clean_run_bind.mp afterLoad).2 () opens.valid
        have afterContent := (clean_run_bind.mp afterHeaders).2 _ opens.content
        exact (clean_verifySignature library isSecret _ _ _).mp
          (clean_run_bind.mp afterContent).1
      · intro h loaded loads
        obtain ⟨segments, loads⟩ := load_eq_ok_iff.mp loads
        refine clean_run_bind.mpr ⟨clean_validateHeaders _ _, fun _ valid => ?_⟩
        refine clean_run_bind.mpr ⟨clean_signedContent _ _, fun content isContent => ?_⟩
        refine clean_run_bind.mpr ⟨?_, fun _ _ => failsWith_ok _⟩
        exact (clean_verifySignature library isSecret _ _ _).mpr
          (h segments loaded content.1 content.2 ⟨loads, valid, isContent⟩)

end PyJWS

end PyJwt
