import PyJwt.Implementation.Environment

/-! `jwt/algorithms/algorithms_jwk.py`: reading and writing the members of a JWK. -/

namespace PyJwt

open Python

variable (env : Env)

/-- `type(value).__name__`. -/
def jsonTypeName : Json → String
  | .null => "NoneType"
  | .bool _ => "bool"
  | .int _ => "int"
  | .float _ => "float"
  | .str _ => "str"
  | .list _ => "list"
  | .dict _ => "dict"

/-- Using `value.get`, an attribute only dictionaries have. -/
def requireDict (value : Json) : Outcome (Dict Json) :=
  match value.asDict? with
  | some dict => .ok dict
  | none =>
      .error ⟨
        .attributeError,
        [.text "'", .text (jsonTypeName value), .text "' object has no attribute 'get'"]
      ⟩

/-- Using `value` as a dictionary key. -/
def requireHashable (value : Json) : Outcome Unit :=
  match value with
  | .list _ | .dict _ =>
      .error ⟨.typeError, [.text "unhashable type: '", .text (jsonTypeName value), .text "'"]⟩
  | _ => .ok ()

/-- `dict[key]`. -/
def getItem (dict : Dict Json) (key : PyStr) : Outcome Json :=
  match dict.get? key with
  | some value => .ok value
  | none => .error ⟨.keyError, [.str key]⟩

/-- `dict.get(key)`. -/
def getOrNull (dict : Dict Json) (key : PyStr) : Json :=
  (dict.get? key).getD .null

def parseJwkJson (jwk : Json) : Outcome Json :=
  tryExcept
    (match jwk with
      | .str text => env.json.loadsStr text
      | .dict entries => .ok (.dict entries)
      | _ => .error ⟨.valueError, []⟩)
    [.valueError]
    (fun _ => .error ⟨.invalidKeyError, [.text "Key is not valid JSON"]⟩)

def serializeJwk (obj : Dict Json) (asDict : Bool) : Outcome Json :=
  if asDict then .ok obj.toJson
  else do
    let text ← env.json.dumps false obj.toJson
    return .str text

/-- `_JWK_EC_CURVES`: the curve of a `crv` name and the byte length of its coordinates. -/
def jwkEcCurves : List (PyStr × (Curve × Nat)) :=
  [
    ("P-256", .secp256r1, 32),
    ("P-384", .secp384r1, 48),
    ("P-521", .secp521r1, 66),
    ("secp256k1", .secp256k1, 32)
  ]

def resolveEcCurveFromJwk (crv : Json) (xLen yLen : Nat) : Outcome Curve := do
  requireHashable crv
  match crv.asStr?.bind (fun name => getEntry name jwkEcCurves) with
  | none => .error ⟨.invalidKeyError, [.text "Invalid curve: ", .json crv]⟩
  | some (curve, expectedLen) =>
      if xLen ≠ expectedLen ∨ yLen ≠ expectedLen then
        .error ⟨
          .invalidKeyError,
          [
            .text "Coords should be ", .int expectedLen, .text " bytes for curve ",
            .json crv
          ]
        ⟩
      else .ok curve

def jwkCurveName (curve : Curve) : Outcome PyStr :=
  match jwkEcCurves.find? (fun entry => entry.2.1 = curve) with
  | some entry => .ok entry.1
  | none => .error ⟨.invalidKeyError, [.text "Invalid curve: ", .text curve.name]⟩

/-- `from_base64url_uint(obj[name])`. -/
def uintMember (obj : Dict Json) (name : PyStr) : Outcome Nat := do
  fromBase64urlUint (jsonAsText (← getItem obj name))

def rsaPrivateNumbersFromJwk (obj : Dict Json) (publicNumbers : RSAPublicNumbers)
    : Outcome RSAPrivateNumbers := do
  if obj.contains "oth" then
    .error ⟨
      .invalidKeyError,
      [.text "Unsupported RSA private key: > 2 primes not supported"]
    ⟩
  else
    let otherProps : List PyStr := ["p", "q", "dp", "dq", "qi"]
    let propsFound := otherProps.map obj.contains
    let anyPropsFound := propsFound.any id
    if anyPropsFound && !propsFound.all id then
      .error ⟨
        .invalidKeyError,
        [.text "RSA key must include all parameters if any are present besides d"]
      ⟩
    else if anyPropsFound then
      let d ← uintMember obj "d"
      let p ← uintMember obj "p"
      let q ← uintMember obj "q"
      let dmp1 ← uintMember obj "dp"
      let dmq1 ← uintMember obj "dq"
      let iqmp ← uintMember obj "qi"
      return { p, q, d, dmp1, dmq1, iqmp, publicNumbers }
    else
      let d ← uintMember obj "d"
      let (p, q) ← env.crypto.rsaRecoverPrimeFactors publicNumbers.n d publicNumbers.e
      let dmp1 ← env.crypto.rsaCrtDmp1 d p
      let dmq1 ← env.crypto.rsaCrtDmq1 d q
      let iqmp ← env.crypto.rsaCrtIqmp p q
      return { p, q, d, dmp1, dmq1, iqmp, publicNumbers }

/-- Every exported curve name is the one that is imported back as the curve. -/
theorem jwkEcCurves_inverse
    : ∀ entry ∈ jwkEcCurves,
        getEntry entry.1 jwkEcCurves = some entry.2
        ∧ jwkEcCurves.find? (fun other => other.2.1 = entry.2.1) = some entry
        ∧ entry.2.2 = (entry.2.1.keySize + 7) / 8 := by
  decide

end PyJwt
