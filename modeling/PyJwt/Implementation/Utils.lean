import PyJwt.Foundations.Base64
import PyJwt.Foundations.BigEndian
import PyJwt.Foundations.Pattern
import PyJwt.Implementation.Exceptions

/-! `jwt/utils.py`: base64url, integers as bytes, and the two tests for key texts that must
not become HMAC secrets.
-/

namespace PyJwt

open Foundations
open Python

/-- An argument annotated `bytes | str`; `other` is a value of neither type. -/
inductive TextArg
  | str (value : PyStr)
  | bytes (value : Bytes)
  | other

/-- `value.encode("utf-8")`. -/
def encodeStr (value : PyStr) : Outcome Bytes :=
  match value.encode with
  | some bytes => .ok bytes
  | none => .error ⟨.unicodeEncodeError, [.text "surrogates not allowed"]⟩

/-- `value.decode("utf-8")`. -/
def decodeBytes (value : Bytes) : Outcome PyStr :=
  match decodeUtf8 value with
  | some text => .ok text
  | none => .error ⟨.unicodeDecodeError, [.text "invalid start byte"]⟩

def forceBytes : TextArg → Outcome Bytes
  | .str value => encodeStr value
  | .bytes value => .ok value
  | .other => .error ⟨.typeError, [.text "Expected a string value"]⟩

/-- `base64.urlsafe_b64decode(input)`, raising `binascii.Error`. -/
def urlsafeB64decode (input : Bytes) : Outcome Bytes :=
  match Base64.urlsafeDecode input with
  | .ok output => .ok output
  | .error .oneExtraDigit =>
      .error ⟨
        .binasciiError,
        [
          .text "Invalid base64-encoded string: number of data characters ",
          .text "cannot be 1 more than a multiple of 4"
        ]
      ⟩
  | .error .incorrectPadding => .error ⟨.binasciiError, [.text "Incorrect padding"]⟩

def base64urlDecode (input : TextArg) : Outcome Bytes := do
  let inputBytes ← forceBytes input
  let rem := inputBytes.length % 4
  let inputBytes :=
    if rem > 0 then inputBytes ++ List.replicate (4 - rem) Base64.pad else inputBytes
  urlsafeB64decode inputBytes

def base64urlEncode (input : Bytes) : Bytes :=
  (Base64.urlsafeEncode input).filter (fun byte => byte ≠ Base64.pad)

/-- The bytes of a natural number, as many as `bit_length` needs; without one, as many as
the number itself needs.
-/
def bytesFromInt (val : Nat) (bitLength : Option Nat) : Outcome Bytes :=
  let bits := bitLength.getD (BigEndian.bitLength val)
  let byteLength := (bits + 7) / 8
  match BigEndian.toBytes? byteLength val with
  | some bytes => .ok bytes
  | none => .error ⟨.overflowError, [.text "int too big to convert"]⟩

def toBase64urlUint (val : Int) (bitLength : Option Nat) : Outcome Bytes :=
  if val < 0 then .error ⟨.valueError, [.text "Must be a positive integer"]⟩
  else do
    let intBytes ← bytesFromInt val.toNat bitLength
    let intBytes := if intBytes.length = 0 then [0] else intBytes
    return base64urlEncode intBytes

def fromBase64urlUint (val : TextArg) : Outcome Nat := do
  let data ← base64urlDecode (.bytes (← forceBytes val))
  return BigEndian.ofBytes data

-----------------------------------------------------------------------------------------
-- Raw and DER signatures
-----------------------------------------------------------------------------------------

/-- The value of a hexadecimal digit. -/
def hexValue? (char : Char) : Option Nat :=
  let code := char.toNat
  if 48 ≤ code ∧ code ≤ 57 then some (code - 48)
  else if 97 ≤ code ∧ code ≤ 102 then some (code - 97 + 10)
  else if 65 ≤ code ∧ code ≤ 70 then some (code - 65 + 10)
  else none

/-- `binascii.a2b_hex(text)`. -/
def a2bHex : List Char → Outcome Bytes
  | [] => .ok []
  | [_] => .error ⟨.binasciiError, [.text "Odd-length string"]⟩
  | high :: low :: rest => do
      let more ← a2bHex rest
      match hexValue? high, hexValue? low with
      | some left, some right => .ok (UInt8.ofNat (left * 16 + right) :: more)
      | _, _ => .error ⟨.binasciiError, [.text "Non-hexadecimal digit found"]⟩

/-- `binascii.b2a_hex(input)`. -/
def b2aHex (input : Bytes) : List Char :=
  input.flatMap (fun byte => [(byte.toNat / 16).digitChar, (byte.toNat % 16).digitChar])

/-- `int(text, 16)` of a run of hexadecimal digits. -/
def intOfHex (text : List Char) : Outcome Nat :=
  if text = [] then
    .error ⟨.valueError, [.text "invalid literal for int() with base 16: ''"]⟩
  else .ok (text.foldl (fun number char => number * 16 + (hexValue? char).getD 0) 0)

/-- `"%0*x" % (width, num)`. -/
def paddedHex (width num : Nat) : List Char :=
  let digits := Nat.toDigits 16 num
  List.replicate (width - digits.length) '0' ++ digits

def numberToBytes (num numBytes : Nat) : Outcome Bytes :=
  a2bHex (paddedHex (2 * numBytes) num)

def bytesToNumber (string : Bytes) : Outcome Nat :=
  intOfHex (b2aHex string)

/-- `numBits` is the curve's `key_size`, `decodeDssSignature` the DER decoder. -/
def derToRawSignature (decodeDssSignature : Bytes → Outcome (Nat × Nat)) (derSig : Bytes)
    (numBits : Nat)
    : Outcome Bytes := do
  let numBytes := (numBits + 7) / 8
  let (r, s) ← decodeDssSignature derSig
  return (← numberToBytes r numBytes) ++ (← numberToBytes s numBytes)

/-- `numBits` is the curve's `key_size`, `encodeDssSignature` the DER encoder. -/
def rawToDerSignature (encodeDssSignature : Nat → Nat → Bytes) (rawSig : Bytes)
    (numBits : Nat)
    : Outcome Bytes := do
  let numBytes := (numBits + 7) / 8
  if rawSig.length ≠ 2 * numBytes then
    .error ⟨.valueError, [.text "Invalid signature"]⟩
  else
    let r ← bytesToNumber (rawSig.take numBytes)
    let s ← bytesToNumber (rawSig.drop numBytes)
    return encodeDssSignature r s

-----------------------------------------------------------------------------------------
-- Key texts
-----------------------------------------------------------------------------------------

/-- `_PEMS`. The source holds these in a set, so they come in no particular order. -/
def pems : List Bytes :=
  [
    ascii "CERTIFICATE",
    ascii "TRUSTED CERTIFICATE",
    ascii "PRIVATE KEY",
    ascii "PUBLIC KEY",
    ascii "ENCRYPTED PRIVATE KEY",
    ascii "OPENSSH PRIVATE KEY",
    ascii "DSA PRIVATE KEY",
    ascii "RSA PRIVATE KEY",
    ascii "RSA PUBLIC KEY",
    ascii "EC PRIVATE KEY",
    ascii "DH PARAMETERS",
    ascii "NEW CERTIFICATE REQUEST",
    ascii "CERTIFICATE REQUEST",
    ascii "SSH2 PUBLIC KEY",
    ascii "SSH2 ENCRYPTED PRIVATE KEY",
    ascii "X509 CRL"
  ]

/-- `[- ]`. -/
def hyphenOrSpace : Pattern UInt8 :=
  .symbol (fun byte => byte = 45 || byte = 32)

/-- `_PEM_RE`, for the labels in the order the process iterates the set. -/
def pemRe (labels : List Bytes) : Pattern UInt8 :=
  .concat
    [
      .literal (ascii "----"), hyphenOrSpace, .literal (ascii "BEGIN "),
      .group 1 (.oneOf (labels.map .literal)), hyphenOrSpace, .literal (ascii "----"),
      .opt (.literal (ascii "\r")), .literal (ascii "\n"),
      .many1 (fun _ => true),
      .opt (.literal (ascii "\r")), .literal (ascii "\n"),
      .literal (ascii "----"), hyphenOrSpace, .literal (ascii "END "),
      .backref 1, hyphenOrSpace, .literal (ascii "----"),
      .opt (.literal (ascii "\r")), .opt (.literal (ascii "\n"))
    ]

def isPemFormat (labels : List Bytes) (key : Bytes) : Bool :=
  (pemRe labels).search key

/-- `_SSH_KEY_FORMATS`. -/
def sshKeyFormats : List Bytes :=
  [
    ascii "ssh-ed25519",
    ascii "ssh-rsa",
    ascii "ssh-dss",
    ascii "ecdsa-sha2-nistp256",
    ascii "ecdsa-sha2-nistp384",
    ascii "ecdsa-sha2-nistp521"
  ]

def isSshKey (key : Bytes) : Bool :=
  sshKeyFormats.any (fun format => format.isPrefixOf key)

-----------------------------------------------------------------------------------------
-- Base64url round trip
-----------------------------------------------------------------------------------------

/-- A library encoding is the URL-safe digits alone. -/
theorem base64urlEncode_eq (input : Bytes)
    : base64urlEncode input = (Base64.body input).map Base64.toUrlSafe :=
  Base64.urlsafeEncode_filter input

/-- Every byte of an encoding is a letter, a digit, a hyphen or an underscore. -/
theorem base64urlEncode_urlSafe {input : Bytes} {byte : UInt8}
    (h : byte ∈ base64urlEncode input)
    : Base64.UrlSafe byte :=
  Base64.urlSafe_of_mem (base64urlEncode_eq input ▸ h)

/-- The URL-safe alphabet is ASCII and leaves out the segment separator. -/
theorem urlSafe_ascii {byte : UInt8} (h : Base64.UrlSafe byte) : byte < 0x80 ∧ byte ≠ 46 := by
  unfold Base64.UrlSafe at h
  have limits : byte.toNat < 128 ∧ byte.toNat ≠ 46 := by
    rcases h with ⟨low, high⟩ | ⟨low, high⟩ | ⟨low, high⟩ | rfl | rfl
    · simp only [UInt8.le_iff_toNat_le] at low high
      simp at low high
      omega
    · simp only [UInt8.le_iff_toNat_le] at low high
      simp at low high
      omega
    · simp only [UInt8.le_iff_toNat_le] at low high
      simp at low high
      omega
    · decide
    · decide
  exact ⟨limits.1, fun same => limits.2 (by rw [same]; rfl)⟩

/-- Decoding the library's own encoding of bytes gives them back: the padding recomputed
from the length is the padding that was dropped.
-/
theorem base64urlDecode_encode (input : Bytes)
    : base64urlDecode (.bytes (base64urlEncode input)) = .ok input := by
  have padded : (if (base64urlEncode input).length % 4 > 0
        then base64urlEncode input
          ++ List.replicate (4 - (base64urlEncode input).length % 4) Base64.pad
        else base64urlEncode input)
      = (Base64.body input).map Base64.toUrlSafe
        ++ List.replicate ((4 - (Base64.body input).length % 4) % 4) Base64.pad := by
    rw [base64urlEncode_eq, List.length_map]
    split
    · rw [Nat.mod_eq_of_lt (by omega : 4 - (Base64.body input).length % 4 < 4)]
    · rename_i whole
      rw [show (Base64.body input).length % 4 = 0 by omega]
      simp
  simp only [base64urlDecode, forceBytes, outcome_ok_bind, padded, urlsafeB64decode,
    Base64.urlsafeDecode_padded]

end PyJwt
