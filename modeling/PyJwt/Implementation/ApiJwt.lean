import Mathlib.Algebra.Order.Ring.Rat
import PyJwt.Implementation.ApiJws
import PyJwt.Python.Datetime

/-! `jwt/api_jwt.py`: options, the encoding of claims, and their validation. -/

namespace PyJwt

open Foundations
open Python

variable (env : Env)

-----------------------------------------------------------------------------------------
-- Options
-----------------------------------------------------------------------------------------

/-- The claim checks that an option named `verify_<claim>` turns on or off. -/
inductive ClaimCheck
  | exp
  | nbf
  | iat
  | aud
  | iss
  | sub
  | jti
  deriving DecidableEq

/-- The `Options` a caller passes; a `none` is a key the dictionary does not have. -/
structure Options where
  verifySignature : Option Bool := none
  verify : ClaimCheck → Option Bool := fun _ => none
  require : Option (List PyStr) := none
  strictAud : Option Bool := none
  enforceMinimumKeyLength : Option Bool := none

/-- `FullOptions`. -/
structure FullOptions where
  verifySignature : Bool
  verify : ClaimCheck → Bool
  require : List PyStr
  strictAud : Bool
  enforceMinimumKeyLength : Bool

/-- `{**self, **options}`. -/
def FullOptions.update (self : FullOptions) (options : Options) : FullOptions :=
  {
    verifySignature := options.verifySignature.getD self.verifySignature
    verify := fun check => (options.verify check).getD (self.verify check)
    require := options.require.getD self.require
    strictAud := options.strictAud.getD self.strictAud
    enforceMinimumKeyLength :=
      options.enforceMinimumKeyLength.getD self.enforceMinimumKeyLength
  }

structure PyJWT where
  options : FullOptions
  /-- `_jws`. -/
  jws : PyJWS

namespace PyJWT

def getDefaultOptions : FullOptions :=
  {
    verifySignature := true
    verify := fun _ => true
    require := []
    strictAud := false
    enforceMinimumKeyLength := false
  }

/-- `_UNVERIFIED_DEFAULTS`. -/
def unverifiedDefaults : Options :=
  { verify := fun _ => some false }

/-- `_merge_options` of an instance that holds the options `self`. -/
def mergeOptions (self : FullOptions) (options : Option Options) : FullOptions :=
  match options with
  | none => self
  | some options =>
      if !options.verifySignature.getD true then
        (self.update unverifiedDefaults).update options
      else self.update options

def getSigOptions (options : FullOptions) : SigOptions :=
  {
    verifySignature := some options.verifySignature
    enforceMinimumKeyLength := some options.enforceMinimumKeyLength
  }

def init (options : Option Options) : PyJWT :=
  let options := mergeOptions getDefaultOptions options
  { options, jws := PyJWS.init env none (some (getSigOptions options)) }

/-- Assigning `_jws`, as the module does for its global instance. -/
def withJws (self : PyJWT) (jws : PyJWS) : PyJWT := { self with jws }

-----------------------------------------------------------------------------------------
-- Encoding
-----------------------------------------------------------------------------------------

/-- A value of the claims a caller passes: JSON, or a `datetime`. -/
inductive ClaimValue
  | json (value : Json)
  | datetime (value : DateTime)

/-- The dictionaries of claims that are alive, by reference. -/
abbrev DictHeap := List (Dict ClaimValue)

/-- `timegm(value.utctimetuple())`. -/
def epochSeconds (value : DateTime) : Outcome Int :=
  match value.utctimetuple with
  | some tuple => .ok (timegm tuple)
  | none => .error ⟨.overflowError, [.text "date value out of range"]⟩

/-- One turn of the loop over the time claims. -/
def convertTimeClaim (payload : Dict ClaimValue) (timeClaim : PyStr)
    : Outcome (Dict ClaimValue) :=
  match payload.get? timeClaim with
  | some (.datetime value) => do
      let seconds ← epochSeconds value
      return payload.set timeClaim (.json (.int seconds))
  | _ => .ok payload

def convertTimeClaims (payload : Dict ClaimValue) : Outcome (Dict ClaimValue) := do
  let payload ← convertTimeClaim payload "exp"
  let payload ← convertTimeClaim payload "iat"
  convertTimeClaim payload "nbf"

/-- `iss` is absent or a string. -/
def checkIssuerClaim (payload : Dict ClaimValue) : Outcome Unit :=
  match payload.get? "iss" with
  | none | some (.json (.str _)) => .ok ()
  | _ => .error ⟨.typeError, [.text "Issuer (iss) must be a string."]⟩

/-- The dictionaries afterwards, and the reference to the normalized copy. `none` is a
payload that is no dictionary.
-/
def preparePayloadClaims (heap : DictHeap) (payload : Option Nat)
    : DictHeap × Outcome (Dict ClaimValue) :=
  match payload.bind (fun ref => heap[ref]?) with
  | none =>
      (
        heap,
        .error ⟨
          .typeError,
          [.text "Expecting a dict object, as JWT only supports JSON objects as payloads."]
        ⟩
      )
  | some original =>
      -- The copy is a new object; the loop writes to it alone.
      let copy := heap.length
      let heap := heap ++ [original]
      match convertTimeClaims original with
      | .error error => (heap, .error error)
      | .ok converted =>
          let heap := heap.set copy converted
          match checkIssuerClaim converted with
          | .error error => (heap, .error error)
          | .ok () => (heap, .ok converted)

/-- The value `json.dumps` writes; a `datetime` has none. -/
def ClaimValue.toJson? : ClaimValue → Outcome Json
  | .json value => .ok value
  | .datetime _ =>
      .error ⟨
        .typeError,
        [.text "Object of type datetime is not JSON serializable"]
      ⟩

def claimEntries : List (PyStr × ClaimValue) → Outcome (List (PyStr × Json))
  | [] => .ok []
  | (key, value) :: rest => do
      let value ← value.toJson?
      let rest ← claimEntries rest
      return (key, value) :: rest

/-- `json.dumps(payload, separators=(",", ":")).encode("utf-8")`. -/
def encodePayload (payload : Dict ClaimValue) : Outcome Bytes := do
  let entries ← claimEntries payload.entries
  encodeStr (← env.json.dumps true (.dict entries))

def encode (self : PyJWT) (heap : DictHeap) (payload : Option Nat) (key : KeyArg)
    (algorithm : AlgorithmArg) (headers : Option (Dict Json)) (sortHeaders : Bool)
    : DictHeap × Run PyStr :=
  let (heap, prepared) := preparePayloadClaims heap payload
  (
    heap,
    do
      let payload ← prepared
      let jsonPayload ← encodePayload env payload
      self.jws.encode env jsonPayload key algorithm headers false sortHeaders
  )

-----------------------------------------------------------------------------------------
-- Claim validation
-----------------------------------------------------------------------------------------

/-- The `audience` argument; `other` is not iterable. -/
inductive AudienceArg
  | none
  | str (value : PyStr)
  | iterable (values : List PyStr)
  | other

/-- The `issuer` argument; `other` is not a container. -/
inductive IssuerArg
  | none
  | str (value : PyStr)
  | container (values : List PyStr)
  | other

/-- The `leeway` argument: a finite float, in exact arithmetic, an integer, or a `timedelta`
that counts microseconds.
-/
inductive Leeway
  | seconds (value : Rat)
  | int (value : Int)
  | timedelta (micros : Int)

/-- The integers that round to a finite float. -/
def fitsFloat (value : Int) : Bool :=
  value.natAbs < 2 ^ 1024 - 2 ^ 970

/-- What the sum of a clock reading and the leeway adds: `total_seconds()` of a `timedelta`,
and an integer converted to a float.
-/
def Leeway.toFloat : Leeway → Outcome Rat
  | seconds value => .ok value
  | int value =>
      if fitsFloat value then .ok value
      else .error ⟨.overflowError, [.text "int too large to convert to float"]⟩
  | timedelta micros => .ok (micros / 1000000)

/-- `int(value)`. -/
def pyInt : Json → Outcome Int
  | .int value => .ok value
  | .bool value => .ok (if value then 1 else 0)
  | .float (.finite value) => .ok (value.num.tdiv value.den)
  | .float .nan => .error ⟨.valueError, [.text "cannot convert float NaN to integer"]⟩
  | .float .posInf | .float .negInf =>
      .error ⟨.overflowError, [.text "cannot convert float infinity to integer"]⟩
  | .str value =>
      match env.intOfStr value with
      | some number => .ok number
      | none =>
          .error ⟨.valueError, [.text "invalid literal for int() with base 10: ", .str value]⟩
  | value =>
      .error ⟨
        .typeError,
        [
          .text "int() argument must be a string, a bytes-like object or a real number, ",
          .text "not '", .text (jsonTypeName value), .text "'"
        ]
      ⟩

def validateRequiredClaims (payload : Dict Json) : List PyStr → Outcome Unit
  | [] => .ok ()
  | claim :: rest =>
      match payload.get? claim with
      | none | some .null => .error (missingRequiredClaim claim)
      | some _ => validateRequiredClaims payload rest
where
  missingRequiredClaim (claim : PyStr) : PyError :=
    ⟨
      .missingRequiredClaimError,
      [.text "Token is missing the \"", .str claim, .text "\" claim"]
    ⟩

/-- The claims that `_coerce_int_claim` reads. -/
inductive TimeClaim
  | iat
  | nbf
  | exp
  deriving DecidableEq

namespace TimeClaim

def claimName : TimeClaim → PyStr
  | iat => "iat"
  | nbf => "nbf"
  | exp => "exp"

/-- `_INT_CLAIM_ERRORS`. -/
def intClaimError : TimeClaim → PyError
  | iat => ⟨.invalidIssuedAtError, [.text "Issued At claim (iat) must be an integer."]⟩
  | nbf => ⟨.decodeError, [.text "Not Before claim (nbf) must be an integer."]⟩
  | exp => ⟨.decodeError, [.text "Expiration Time claim (exp) must be an integer."]⟩

end TimeClaim

def coerceIntClaim (payload : Dict Json) (claim : TimeClaim) : Outcome Int := do
  let value ← getItem payload claim.claimName
  tryExcept (pyInt env value) [.valueError] (fun _ => .error claim.intClaimError)

def validateIat (payload : Dict Json) (now : Rat) (leeway : Leeway) : Outcome Unit := do
  let iat ← coerceIntClaim env payload .iat
  if (iat : Rat) > now + (← leeway.toFloat) then
    .error ⟨.immatureSignatureError, [.text "The token is not yet valid (iat)"]⟩

def validateNbf (payload : Dict Json) (now : Rat) (leeway : Leeway) : Outcome Unit := do
  let nbf ← coerceIntClaim env payload .nbf
  if (nbf : Rat) > now + (← leeway.toFloat) then
    .error ⟨.immatureSignatureError, [.text "The token is not yet valid (nbf)"]⟩

def validateExp (payload : Dict Json) (now : Rat) (leeway : Leeway) : Outcome Unit := do
  let exp ← coerceIntClaim env payload .exp
  if (exp : Rat) ≤ now - (← leeway.toFloat) then
    .error ⟨.expiredSignatureError, [.text "Signature has expired"]⟩

/-- `any(not isinstance(c, str) for c in claims)`, with the strings when all are. -/
def allStrings : List Json → Option (List PyStr)
  | [] => some []
  | head :: rest => do
      let first ← head.asStr?
      let more ← allStrings rest
      return first :: more

/-- `isinstance(audience, str)`, with the audience as a string. -/
def AudienceArg.asStr? : AudienceArg → Option PyStr
  | str value => some value
  | none | iterable _ | other => .none

/-- The audiences an iteration yields, a string being made a list first. -/
def AudienceArg.values? : AudienceArg → Option (List PyStr)
  | str value => some [value]
  | iterable values => some values
  | none | other => .none

def matchAudience (audience : Option (List PyStr)) (audienceClaims : List PyStr)
    : Outcome Unit :=
  match audience with
  | none => .error ⟨.typeError, [.text "object is not iterable"]⟩
  | some audience =>
      if audience.all (fun aud => aud ∉ audienceClaims) then
        .error ⟨.invalidAudienceError, [.text "Audience doesn't match"]⟩
      else .ok ()

/-- The lenient comparison of a claim that is present and true. -/
def validateAudLenient (audienceClaims : Json) (audience : Option (List PyStr))
    : Outcome Unit :=
  let invalidFormat : PyError :=
    ⟨.invalidAudienceError, [.text "Invalid claim format in token"]⟩
  match audienceClaims with
  | .str claim => matchAudience audience [claim]
  | .list claims =>
      match allStrings claims with
      | some claims => matchAudience audience claims
      | none => .error invalidFormat
  | _ => .error invalidFormat

/-- The strict comparison of a claim that is present and true. -/
def validateAudStrict (audienceClaims : Json) (audience : Option PyStr) : Outcome Unit :=
  match audience with
  | none => .error ⟨.invalidAudienceError, [.text "Invalid audience (strict)"]⟩
  | some audience =>
      match audienceClaims with
      | .str claim =>
          if audience ≠ claim then
            .error ⟨.invalidAudienceError, [.text "Audience doesn't match (strict)"]⟩
          else .ok ()
      | _ =>
          .error ⟨.invalidAudienceError, [.text "Invalid claim format in token (strict)"]⟩

def validateAud (payload : Dict Json) (audience : AudienceArg) (strict : Bool)
    : Outcome Unit :=
  let claim := getOrNull payload "aud"
  match audience with
  | .none =>
      if !claim.truthy then .ok ()
      else .error ⟨.invalidAudienceError, [.text "Invalid audience"]⟩
  | audience =>
      if !claim.truthy then .error (validateRequiredClaims.missingRequiredClaim "aud")
      else if strict then validateAudStrict claim audience.asStr?
      else validateAudLenient claim audience.values?

def validateIss (payload : Dict Json) (issuer : IssuerArg) : Outcome Unit :=
  let present (check : PyStr → Outcome Unit) : Outcome Unit :=
    match payload.get? "iss" with
    | none => .error (validateRequiredClaims.missingRequiredClaim "iss")
    | some iss =>
        match iss.asStr? with
        | none =>
            .error ⟨.invalidIssuerError, [.text "Payload Issuer (iss) must be a string"]⟩
        | some iss => check iss
  let invalidIssuer : PyError := ⟨.invalidIssuerError, [.text "Invalid issuer"]⟩
  match issuer with
  | .none => .ok ()
  | .str issuer => present (fun iss => if iss ≠ issuer then .error invalidIssuer else .ok ())
  | .container issuers =>
      present (fun iss => if iss ∉ issuers then .error invalidIssuer else .ok ())
  | .other =>
      present (fun _ =>
        .error ⟨
          .invalidIssuerError,
          [.text "Issuer param must be \"str\" or \"Container[str]\""]
        ⟩)

def validateSub (payload : Dict Json) (subject : Option PyStr) : Outcome Unit :=
  match payload.get? "sub" with
  | none => .ok ()
  | some sub =>
      match sub.asStr? with
      | none => .error ⟨.invalidSubjectError, [.text "Subject must be a string"]⟩
      | some sub =>
          if subject.any (fun subject => sub ≠ subject) then
            .error ⟨.invalidSubjectError, [.text "Invalid subject"]⟩
          else .ok ()

def validateJti (payload : Dict Json) : Outcome Unit :=
  match payload.get? "jti" with
  | none => .ok ()
  | some jti =>
      if jti.asStr?.isNone then
        .error ⟨.invalidJTIError, [.text "JWT ID must be a string"]⟩
      else .ok ()

/-- What a decode checks the claims against, besides the options and the clock. -/
structure Expected where
  audience : AudienceArg
  issuer : IssuerArg
  subject : Option PyStr
  leeway : Leeway

/-- The `TypeError` for an audience that is neither a string nor iterable. -/
def checkAudienceArg : AudienceArg → Outcome Unit
  | .other =>
      .error ⟨.typeError, [.text "audience must be a string, iterable or None"]⟩
  | _ => .ok ()

/-- `now` is the clock reading. -/
def validateClaims (payload : Dict Json) (options : FullOptions) (expected : Expected)
    (now : Rat)
    : Outcome Unit := do
  checkAudienceArg expected.audience
  validateRequiredClaims payload options.require
  if payload.contains "iat" && options.verify .iat then
    validateIat env payload now expected.leeway
  if payload.contains "nbf" && options.verify .nbf then
    validateNbf env payload now expected.leeway
  if payload.contains "exp" && options.verify .exp then
    validateExp env payload now expected.leeway
  if options.verify .iss then
    validateIss payload expected.issuer
  if options.verify .aud then
    validateAud payload expected.audience options.strictAud
  if options.verify .sub then
    validateSub payload expected.subject
  if options.verify .jti then
    validateJti payload

-----------------------------------------------------------------------------------------
-- Decoding
-----------------------------------------------------------------------------------------

/-- What `decode_complete` returns. -/
structure Decoded where
  payload : Dict Json
  header : Dict Json
  signature : Bytes

/-- The `verify_signature` that the call hands to the signature layer. -/
def signatureFlag (options : Option Options) : Bool :=
  match options with
  | none => true
  | some options => options.verifySignature.getD true

def decodePayload (decoded : PyJWS.Decoded) : Outcome (Dict Json) :=
  PyJWS.loadObject env decoded.payload "payload"

def decodeComplete (self : PyJWT) (jwt : TextArg) (key : KeyArg)
    (algorithms : Option (List PyStr)) (options : Option Options)
    (detachedPayload : Option Bytes) (expected : Expected) (now : Rat)
    : Run Decoded := do
  let verifySignature := signatureFlag options
  let mergedOptions := mergeOptions self.options options
  let sigOptions : SigOptions := { verifySignature := some verifySignature }
  let decoded ←
    self.jws.decodeComplete env jwt key algorithms (some sigOptions) detachedPayload
  let payload ← decodePayload env decoded
  validateClaims env payload mergedOptions expected now
  return { payload, header := decoded.header, signature := decoded.signature }

def decode (self : PyJWT) (jwt : TextArg) (key : KeyArg)
    (algorithms : Option (List PyStr)) (options : Option Options)
    (detachedPayload : Option Bytes) (expected : Expected) (now : Rat)
    : Run (Dict Json) := do
  let decoded ←
    self.decodeComplete env jwt key algorithms options detachedPayload expected now
  return decoded.payload

end PyJWT

end PyJwt
