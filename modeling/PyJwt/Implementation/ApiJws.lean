import Mathlib.Data.List.Dedup
import PyJwt.Foundations.Splitting
import PyJwt.Foundations.Traced
import PyJwt.Implementation.ApiJwk

/-! `jwt/api_jws.py`: the registry of algorithms, and the encoding and verified decoding of
JSON Web Signatures.
-/

namespace PyJwt

open Foundations
open Python

variable (env : Env)

-----------------------------------------------------------------------------------------
-- Arguments, events and options
-----------------------------------------------------------------------------------------

/-- What a call does besides returning: the warnings it shows, and the calls it makes of an
algorithm's `sign` and `verify`.
-/
inductive Event
  | insecureKeyLength (message : List MessagePart)
  | sign (algorithm : Algorithm) (msg : Bytes) (key : Key)
  | verify (algorithm : Algorithm) (msg : Bytes) (key : Key) (sig : Bytes)

abbrev Run := Traced PyError Event

/-- The `key` argument of `encode` and `decode`. -/
inductive KeyArg
  | raw (key : Key)
  | jwk (key : PyJWK)

/-- `isinstance(key, PyJWK)`. -/
def KeyArg.isJwk : KeyArg → Bool
  | raw _ => false
  | jwk _ => true

/-- `key.key` of a `PyJWK`, any other key itself. -/
def KeyArg.unwrap : KeyArg → Key
  | raw key => key
  | jwk key => key.key

/-- The `algorithm` argument of `encode`; `unset` is `_ALGORITHM_UNSET`. -/
inductive AlgorithmArg
  | unset
  | none
  | name (value : PyStr)

/-- The `SigOptions` a caller passes. -/
structure SigOptions where
  verifySignature : Option Bool := none
  enforceMinimumKeyLength : Option Bool := none

/-- The options an instance holds. -/
structure FullSigOptions where
  verifySignature : Bool
  enforceMinimumKeyLength : Bool

/-- `{**self, **options}`, with no options at all for `None`. -/
def FullSigOptions.merge (self : FullSigOptions) (options : Option SigOptions)
    : FullSigOptions :=
  match options with
  | none => self
  | some options =>
      {
        verifySignature := options.verifySignature.getD self.verifySignature
        enforceMinimumKeyLength :=
          options.enforceMinimumKeyLength.getD self.enforceMinimumKeyLength
      }

/-- `bool(algorithms)`. -/
def listsAlgorithms (algorithms : Option (List PyStr)) : Bool :=
  algorithms.any (fun names => !names.isEmpty)

/-- The segment separator, `b"."`. -/
def dot : UInt8 := 46

/-- `b".".join(segments)`. -/
def joinSegments (segments : List Bytes) : Bytes :=
  [dot].intercalate segments

-----------------------------------------------------------------------------------------
-- The registry
-----------------------------------------------------------------------------------------

structure PyJWS where
  /-- `_valid_algs`, a set. -/
  validAlgs : List PyStr
  /-- `_algorithms`. -/
  algorithms : Dict Algorithm
  options : FullSigOptions

namespace PyJWS

def headerTyp : Json := .str "JWT"

def getDefaultOptions : FullSigOptions :=
  { verifySignature := true, enforceMinimumKeyLength := false }

def init (algorithms : Option (List PyStr)) (options : Option SigOptions) : PyJWS :=
  let defaultAlgorithms := getDefaultAlgorithms env
  let validAlgs :=
    match algorithms with
    | some names => names.dedup
    | none => defaultAlgorithms.keys
  {
    validAlgs
    algorithms := defaultAlgorithms.filterKeys (fun name => name ∈ validAlgs)
    options := getDefaultOptions.merge options
  }

/-- The instance afterwards, and the outcome of the call. `none` is an object that is no
`Algorithm`.
-/
def registerAlgorithm (self : PyJWS) (algId : PyStr) (algObj : Option Algorithm)
    : PyJWS × Outcome Unit :=
  if self.algorithms.contains algId then
    (self, .error ⟨.valueError, [.text "Algorithm already has a handler."]⟩)
  else
    match algObj with
    | none => (self, .error ⟨.typeError, [.text "Object is not of type `Algorithm`"]⟩)
    | some algObj =>
        (
          {
            self with
            algorithms := self.algorithms.set algId algObj
            validAlgs := self.validAlgs.insert algId
          },
          .ok ()
        )

def unregisterAlgorithm (self : PyJWS) (algId : PyStr) : PyJWS × Outcome Unit :=
  if !self.algorithms.contains algId then
    (
      self,
      .error ⟨
        .keyError,
        [
          .text "The specified algorithm could not be removed",
          .text " because it is not registered."
        ]
      ⟩
    )
  else
    let removed := { self with algorithms := self.algorithms.erase algId }
    if algId ∈ self.validAlgs then
      ({ removed with validAlgs := self.validAlgs.erase algId }, .ok ())
    else (removed, .error ⟨.keyError, [.str algId]⟩)

/-- The listed names, in some order of the set. -/
def getAlgorithms (self : PyJWS) : List PyStr := self.validAlgs

/-- `algName` is a header member in the callers, so it may be any JSON value. -/
def getAlgorithmByName (self : PyJWS) (algName : Json) : Outcome Algorithm := do
  requireHashable algName
  match algName.asStr?.bind self.algorithms.get? with
  | some algorithm => .ok algorithm
  | none =>
      if !env.hasCrypto && algName.asStr?.any (fun name => name ∈ requiresCryptography) then
        .error ⟨
          .notImplementedError,
          [
            .text "Algorithm '", .json algName,
            .text "' could not be found. Do you have cryptography installed?"
          ]
        ⟩
      else .error ⟨.notImplementedError, [.text "Algorithm not supported"]⟩

-----------------------------------------------------------------------------------------
-- Header validation
-----------------------------------------------------------------------------------------

def validateKid (kid : Json) : Outcome Unit :=
  if kid.asStr?.isNone then
    .error ⟨.invalidTokenError, [.text "Key ID header parameter must be a string"]⟩
  else .ok ()

/-- `_supported_crit`. -/
def supportedCrit : List PyStr := ["b64"]

/-- The loop over the extensions that `crit` lists. -/
def validateExtensions (headers : Dict Json) : List Json → Outcome Unit
  | [] => .ok ()
  | ext :: rest =>
      match ext.asStr? with
      | none =>
          .error ⟨.invalidTokenError, [.text "Invalid 'crit' header: values must be strings"]⟩
      | some name =>
          if name ∉ supportedCrit then
            .error ⟨
              .invalidTokenError,
              [.text "Unsupported critical extension: ", .str name]
            ⟩
          else if !headers.contains name then
            .error ⟨
              .invalidTokenError,
              [.text "Critical extension '", .str name, .text "' is missing from headers"]
            ⟩
          else validateExtensions headers rest

def validateCrit (headers : Dict Json) (crit : Json) : Outcome Unit :=
  match crit with
  | .list (head :: rest) => validateExtensions headers (head :: rest)
  | _ =>
      .error ⟨
        .invalidTokenError,
        [.text "Invalid 'crit' header: must be a non-empty list"]
      ⟩

def validateHeaders (headers : Dict Json) (encoding : Bool) : Outcome Unit := do
  (match headers.get? "kid" with
    | some kid => validateKid kid
    | none => .ok ())
  if encoding then .ok ()
  else
    match headers.get? "crit" with
    | some crit => validateCrit headers crit
    | none => .ok ()

-----------------------------------------------------------------------------------------
-- Signing
-----------------------------------------------------------------------------------------

/-- `bool(headers)`, with the headers when it holds. -/
def givenHeaders (headers : Option (Dict Json)) : Option (Dict Json) :=
  headers.filter (fun headers => !headers.entries.isEmpty)

def resolveAlgorithm (algorithm : AlgorithmArg) (key : KeyArg)
    (headers : Option (Dict Json)) (isPayloadDetached : Bool)
    : Json × Bool :=
  let algorithm_ : PyStr :=
    match algorithm, key with
    | .unset, .jwk key => key.algorithmName
    | .unset, .raw _ => "HS256"
    | .none, .jwk key => key.algorithmName
    | .none, .raw _ => "none"
    | .name value, _ => value
  match givenHeaders headers with
  | none => (.str algorithm_, isPayloadDetached)
  | some headers =>
      let alg := getOrNull headers "alg"
      (
        if alg.truthy then alg else .str algorithm_,
        isPayloadDetached || (getOrNull headers "b64").isFalse
      )

/-- The header before `typ` and `b64` are adjusted. -/
def mergedHeader (algorithm_ : Json) (headers : Option (Dict Json)) : Dict Json :=
  let header := Dict.ofEntries [("typ", headerTyp), ("alg", algorithm_)]
  match givenHeaders headers with
  | none => header
  | some headers => header.update headers.entries

/-- A false `typ` is dropped, and `b64` is there, and false, exactly when detached. -/
def adjustHeader (header : Dict Json) (isPayloadDetached : Bool) : Dict Json :=
  let header :=
    if !(getOrNull header "typ").truthy then header.erase "typ" else header
  if isPayloadDetached then header.set "b64" (.bool false) else header.erase "b64"

def buildHeader (algorithm_ : Json) (headers : Option (Dict Json))
    (isPayloadDetached : Bool)
    : Outcome (Dict Json) := do
  (match givenHeaders headers with
    | some headers => validateHeaders headers true
    | none => .ok ())
  return adjustHeader (mergedHeader algorithm_ headers) isPayloadDetached

/-- Warns of a key below the recommended length, or refuses it where the instance's own
options ask for that.
-/
def prepareSigningKey (self : PyJWS) (algObj : Algorithm) (key : KeyArg) : Run Key := do
  let preparedKey ← algObj.prepareKey env key.unwrap
  let keyLengthMsg ← algObj.checkKeyLength preparedKey
  match keyLengthMsg.filter (fun message => !message.isEmpty) with
  | none => pure ()
  | some message =>
      if self.options.enforceMinimumKeyLength then
        Traced.raise ⟨.invalidKeyError, message⟩
      else Traced.emit (.insecureKeyLength message)
  return preparedKey

/-- The algorithm's `sign`, as a step of the run. -/
def callSign (algObj : Algorithm) (msg : Bytes) (key : Key) : Run Bytes := do
  Traced.emit (.sign algObj msg key)
  algObj.sign env msg key

/-- `json.dumps(header, separators=(",", ":"), sort_keys=sort_headers).encode()`. -/
def dumpHeader (header : Dict Json) (sortHeaders : Bool) : Outcome Bytes := do
  encodeStr (← env.json.dumps true (header.dumped sortHeaders).toJson)

def encode (self : PyJWS) (payload : Bytes) (key : KeyArg) (algorithm : AlgorithmArg)
    (headers : Option (Dict Json)) (isPayloadDetached sortHeaders : Bool)
    : Run PyStr := do
  let (algorithm_, isPayloadDetached) :=
    resolveAlgorithm algorithm key headers isPayloadDetached
  let header ← buildHeader algorithm_ headers isPayloadDetached
  let jsonHeader ← dumpHeader env header sortHeaders
  let headerSegment := base64urlEncode jsonHeader
  let payloadSegment := if isPayloadDetached then payload else base64urlEncode payload
  let signingInput := joinSegments [headerSegment, payloadSegment]
  let algObj ← self.getAlgorithmByName env algorithm_
  let preparedKey ← self.prepareSigningKey env algObj key
  let signature ← callSign env algObj signingInput preparedKey
  -- The payload content is not put inside the encoded token when detached.
  let payloadSegment := if isPayloadDetached then [] else payloadSegment
  let encodedString := joinSegments [headerSegment, payloadSegment, base64urlEncode signature]
  decodeBytes encodedString

-----------------------------------------------------------------------------------------
-- Verified decoding
-----------------------------------------------------------------------------------------

/-- What `_load` returns. -/
structure Loaded where
  payload : Bytes
  signingInput : Bytes
  header : Dict Json
  signature : Bytes

/-- What `decode_complete` returns. -/
structure Decoded where
  payload : Bytes
  header : Dict Json
  signature : Bytes

/-- The token as bytes. -/
def tokenBytes : TextArg → Outcome Bytes
  | .str jwt => encodeStr jwt
  | .bytes jwt => .ok jwt
  | .other =>
      .error ⟨
        .decodeError,
        [.text "Invalid token type. Token must be a <class 'bytes'>"]
      ⟩

def decodeSegment (segment : Bytes) (label : String) : Outcome Bytes :=
  tryExcept (base64urlDecode (.bytes segment)) [.typeError, .binasciiError]
    (fun _ =>
      .error ⟨.decodeError, [.text "Invalid ", .text label, .text " padding"]⟩)

/-- The signing input, then the header, payload and crypto segments: the token is split at
its last separator and the signing input at its first.
-/
def splitToken (jwt : Bytes) : Outcome (Bytes × Bytes × Bytes × Bytes) :=
  match splitLast dot jwt with
  | none => .error ⟨.decodeError, [.text "Not enough segments"]⟩
  | some (signingInput, cryptoSegment) =>
      match splitFirst dot signingInput with
      | none => .error ⟨.decodeError, [.text "Not enough segments"]⟩
      | some (headerSegment, payloadSegment) =>
          .ok (signingInput, headerSegment, payloadSegment, cryptoSegment)

/-- `json.loads` of a segment that must hold an object; `label` names it in the errors. -/
def loadObject (data : Bytes) (label : String) : Outcome (Dict Json) := do
  let value ←
    tryExcept (env.json.loadsBytes data) [.valueError]
      (fun error =>
        .error ⟨
          .decodeError,
          [.text "Invalid ", .text label, .text " string: "] ++ error.message
        ⟩)
  match value.asDict? with
  | some object => .ok object
  | none =>
      .error ⟨
        .decodeError,
        [.text "Invalid ", .text label, .text " string: must be a json object"]
      ⟩

def load (jwt : TextArg) : Outcome Loaded := do
  let jwt ← tokenBytes jwt
  let (signingInput, headerSegment, payloadSegment, cryptoSegment) ← splitToken jwt
  let headerData ← decodeSegment headerSegment "header"
  let header ← loadObject env headerData "header"
  let payload ← decodeSegment payloadSegment "payload"
  let signature ← decodeSegment cryptoSegment "crypto"
  return { payload, signingInput, header, signature }

/-- The algorithm's `verify`, as a step of the run. -/
def callVerify (algObj : Algorithm) (msg : Bytes) (key : Key) (sig : Bytes) : Run Bool := do
  Traced.emit (.verify algObj msg key sig)
  algObj.verify env msg key sig

/-- The header's `alg`, once it is known to be allowed. -/
def allowedAlg (header : Dict Json) (algorithms : Option (List PyStr)) : Outcome Json :=
  match header.get? "alg" with
  | none => .error ⟨.invalidAlgorithmError, [.text "Algorithm not specified"]⟩
  | some alg =>
      let listed := algorithms.all (fun names => alg.asStr?.any (fun name => name ∈ names))
      if !alg.truthy || !listed then
        .error ⟨.invalidAlgorithmError, [.text "The specified alg value is not allowed"]⟩
      else .ok alg

/-- The algorithm object that verifies: a `PyJWK` brings its own. -/
def verifyingAlgorithm (self : PyJWS) (alg : Json) (key : KeyArg) : Outcome Algorithm :=
  match key with
  | .jwk key => .ok key.algorithm
  | .raw _ =>
      tryExcept (self.getAlgorithmByName env alg) [.notImplementedError]
        (fun _ =>
          .error ⟨.invalidAlgorithmError, [.text "Algorithm not supported"]⟩)

/-- The algorithms a call allows: a `PyJWK` stands in for a missing list. -/
def effectiveAlgorithms (key : KeyArg) (algorithms : Option (List PyStr))
    : Option (List PyStr) :=
  match algorithms, key with
  | none, .jwk key => some [key.algorithmName]
  | algorithms, _ => algorithms

def verifySignature (self : PyJWS) (signingInput : Bytes) (header : Dict Json)
    (signature : Bytes) (key : KeyArg) (algorithms : Option (List PyStr))
    : Run Unit := do
  let alg ← allowedAlg header (effectiveAlgorithms key algorithms)
  let algObj ← self.verifyingAlgorithm env alg key
  let preparedKey ← self.prepareSigningKey env algObj key
  let verified ← callVerify env algObj signingInput preparedKey signature
  if !verified then
    Traced.raise ⟨.invalidSignatureError, [.text "Signature verification failed"]⟩

/-- The payload to return and the bytes that were signed. With `b64` false they are rebuilt
from the detached payload and what stands before the last separator of the signing input.
-/
def signedContent (loaded : Loaded) (detachedPayload : Option Bytes)
    : Outcome (Bytes × Bytes) :=
  if ((loaded.header.get? "b64").getD (.bool true)).isFalse then
    match detachedPayload with
    | none =>
        .error ⟨
          .decodeError,
          [
            .text "It is required that you pass in a value for the \"detached_payload\" ",
            .text "argument to decode a message having the b64 header set to false."
          ]
        ⟩
    | some payload =>
        let beforeLast :=
          match splitLast dot loaded.signingInput with
          | some (left, _) => left
          | none => loaded.signingInput
        .ok (payload, joinSegments [beforeLast, payload])
  else .ok (loaded.payload, loaded.signingInput)

def decodeComplete (self : PyJWS) (jwt : TextArg) (key : KeyArg)
    (algorithms : Option (List PyStr)) (options : Option SigOptions)
    (detachedPayload : Option Bytes)
    : Run Decoded := do
  let verifySignature := (self.options.merge options).verifySignature
  if verifySignature && !listsAlgorithms algorithms && !key.isJwk then
    Traced.raise ⟨
      .decodeError,
      [
        .text "It is required that you pass in a value for the \"algorithms\" argument ",
        .text "when calling decode()."
      ]
    ⟩
  let loaded ← load env jwt
  validateHeaders loaded.header false
  let (payload, signingInput) ← signedContent loaded detachedPayload
  if verifySignature then
    self.verifySignature env signingInput loaded.header loaded.signature key algorithms
  return { payload, header := loaded.header, signature := loaded.signature }

def decode (self : PyJWS) (jwt : TextArg) (key : KeyArg)
    (algorithms : Option (List PyStr)) (options : Option SigOptions)
    (detachedPayload : Option Bytes)
    : Run Bytes := do
  let decoded ← self.decodeComplete env jwt key algorithms options detachedPayload
  return decoded.payload

def getUnverifiedHeader (jwt : TextArg) : Outcome (Dict Json) := do
  let loaded ← load env jwt
  validateHeaders loaded.header false
  return loaded.header

end PyJWS

end PyJwt
