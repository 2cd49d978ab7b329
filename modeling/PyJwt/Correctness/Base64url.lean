import PyJwt.Implementation.Utils

/-! Base64url of bytes and of integers: what is encoded is decoded, from bytes and from text.
-/

namespace PyJwt

open Foundations
open Python

-----------------------------------------------------------------------------------------
-- Bytes
-----------------------------------------------------------------------------------------

theorem base64urlEncode_ascii (data : Bytes) : ∀ byte ∈ base64urlEncode data, byte < 0x80 :=
  fun _ member => (urlSafe_ascii (base64urlEncode_urlSafe member)).1

theorem decodeBytes_base64urlEncode (data : Bytes)
    : decodeBytes (base64urlEncode data) = .ok (asciiText (base64urlEncode data)) := by
  rw [decodeBytes, decodeUtf8_ascii (base64urlEncode_ascii data)]

theorem forceBytes_base64urlText (data : Bytes)
    : forceBytes (.str (asciiText (base64urlEncode data))) = .ok (base64urlEncode data) := by
  simp only [forceBytes, encodeStr, encode_asciiText (base64urlEncode_ascii data)]

/-- The text of an encoding is decoded as the bytes of the text are. -/
theorem base64urlDecode_text (data : Bytes)
    : base64urlDecode (.str (asciiText (base64urlEncode data))) = .ok data := by
  have decodes := base64urlDecode_encode data
  unfold base64urlDecode at decodes ⊢
  rw [forceBytes_base64urlText]
  exact decodes

-----------------------------------------------------------------------------------------
-- Integers
-----------------------------------------------------------------------------------------

/-- The encoded bytes are read as the number they denote. -/
theorem fromBase64urlUint_encode {data : Bytes} {text : TextArg}
    (encoded : forceBytes text = .ok (base64urlEncode data))
    : fromBase64urlUint text = .ok (BigEndian.ofBytes data) := by
  unfold fromBase64urlUint
  rw [encoded, outcome_ok_bind, base64urlDecode_encode]
  rfl

theorem fromBase64urlUint_bytes (data : Bytes)
    : fromBase64urlUint (.bytes (base64urlEncode data)) = .ok (BigEndian.ofBytes data) :=
  fromBase64urlUint_encode rfl

theorem bytesFromInt_of_lt {number : Nat} {bitLength : Option Nat}
    (fits : number < 256 ^ ((bitLength.getD (BigEndian.bitLength number) + 7) / 8))
    : bytesFromInt number bitLength
      = .ok (BigEndian.lowBytes ((bitLength.getD (BigEndian.bitLength number) + 7) / 8)
          number) := by
  simp only [bytesFromInt, BigEndian.toBytes?_of_lt fits]

/-- Once the bytes are settled, a number is encoded as them, and as one zero byte if there are
none.
-/
theorem toBase64urlUint_eq {number : Nat} {bitLength : Option Nat} {data : Bytes}
    (bytes : bytesFromInt number bitLength = .ok data)
    : toBase64urlUint number bitLength
      = .ok (base64urlEncode (if data.length = 0 then [0] else data)) := by
  have isNat : ¬((number : Int) < 0) := by omega
  unfold toBase64urlUint
  rw [if_neg isNat, Int.toNat_natCast, bytes]
  rfl

/-- Without a width, a number is encoded as its shortest bytes. -/
theorem toBase64urlUint_shortest (number : Nat)
    : ∃ data,
        toBase64urlUint number none = .ok (base64urlEncode data)
        ∧ BigEndian.Shortest number data := by
  have fits : number < 256 ^ ((BigEndian.bitLength number + 7) / 8) :=
    (BigEndian.lt_two_pow_bitLength number).trans_le (BigEndian.two_pow_le_bytes _)
  have bytes : bytesFromInt number none
      = .ok (BigEndian.lowBytes ((BigEndian.bitLength number + 7) / 8) number) :=
    bytesFromInt_of_lt fits
  refine ⟨_, toBase64urlUint_eq bytes, ?_⟩
  rcases Nat.eq_zero_or_pos number with rfl | positive
  · exact BigEndian.shortest_zero
  · have shortest := BigEndian.shortest_lowBytes positive
    rw [if_neg (List.length_pos_iff.mpr shortest.nonempty).ne']
    exact shortest

/-- A number that fits its width is encoded in exactly that many bytes. -/
theorem toBase64urlUint_width {bits number : Nat} (positive : 0 < bits)
    (fits : number < 256 ^ ((bits + 7) / 8))
    : toBase64urlUint number (some bits)
      = .ok (base64urlEncode (BigEndian.lowBytes ((bits + 7) / 8) number)) := by
  have bytes : bytesFromInt number (some bits)
      = .ok (BigEndian.lowBytes ((bits + 7) / 8) number) :=
    bytesFromInt_of_lt fits
  have nonempty : ¬(BigEndian.lowBytes ((bits + 7) / 8) number).length = 0 := by
    rw [BigEndian.lowBytes_length]
    omega
  rw [toBase64urlUint_eq bytes, if_neg nonempty]

/-- A number that does not fit is refused, not cut. -/
theorem toBase64urlUint_overflow {bits number : Nat} (large : 256 ^ ((bits + 7) / 8) ≤ number)
    : ∃ message, toBase64urlUint number (some bits) = .error ⟨.overflowError, message⟩ := by
  have isNat : ¬((number : Int) < 0) := by omega
  simp only [toBase64urlUint, if_neg isNat, Int.toNat_natCast, bytesFromInt, Option.getD_some,
    BigEndian.toBytes?, if_neg large.not_gt]
  exact ⟨_, rfl⟩

-----------------------------------------------------------------------------------------
-- The round trips
-----------------------------------------------------------------------------------------

/-- Bytes are encoded in the URL-safe alphabet and decoded again from bytes or text; a natural
number is encoded in its shortest form, or in the width of its bit length, or refused.
-/
theorem base64url_inverts
    : (∀ data : Bytes,
        (∀ byte ∈ base64urlEncode data, Base64.UrlSafe byte)
        ∧ base64urlDecode (.bytes (base64urlEncode data)) = .ok data
        ∧ ∃ text,
            decodeBytes (base64urlEncode data) = .ok text
            ∧ base64urlDecode (.str text) = .ok data)
      ∧ (∀ number : Nat,
          ∃ encoded data,
            toBase64urlUint number none = .ok encoded
            ∧ base64urlDecode (.bytes encoded) = .ok data
            ∧ BigEndian.Shortest number data
            ∧ fromBase64urlUint (.bytes encoded) = .ok number)
      ∧ (∀ bits number : Nat,
          0 < bits
          → number < 256 ^ ((bits + 7) / 8)
          → ∃ encoded data,
              toBase64urlUint number (some bits) = .ok encoded
              ∧ base64urlDecode (.bytes encoded) = .ok data
              ∧ data.length = (bits + 7) / 8
              ∧ fromBase64urlUint (.bytes encoded) = .ok number)
      ∧ ∀ bits number : Nat,
          0 < bits
          → 256 ^ ((bits + 7) / 8) ≤ number
          → ∃ message,
              toBase64urlUint number (some bits) = .error ⟨.overflowError, message⟩ := by
  refine ⟨fun data => ?_, fun number => ?_, fun bits number positive fits => ?_,
    fun _ _ _ large => toBase64urlUint_overflow large⟩
  · exact ⟨fun _ => base64urlEncode_urlSafe, base64urlDecode_encode data, _,
      decodeBytes_base64urlEncode data, base64urlDecode_text data⟩
  · obtain ⟨data, encodes, shortest⟩ := toBase64urlUint_shortest number
    have reads := fromBase64urlUint_bytes data
    rw [shortest.denotes] at reads
    exact ⟨_, data, encodes, base64urlDecode_encode data, shortest, reads⟩
  · have reads := fromBase64urlUint_bytes (BigEndian.lowBytes ((bits + 7) / 8) number)
    rw [BigEndian.ofBytes_lowBytes, Nat.mod_eq_of_lt fits] at reads
    exact ⟨_, _, toBase64urlUint_width positive fits, base64urlDecode_encode _,
      BigEndian.lowBytes_length _ _, reads⟩

/-- The two sides of a width: 65535 fits sixteen bits, and 65536 does not. -/
theorem base64url_inverts_sixteenBits
    : (∃ encoded data,
        toBase64urlUint 65535 (some 16) = .ok encoded
        ∧ base64urlDecode (.bytes encoded) = .ok data
        ∧ data.length = 2
        ∧ fromBase64urlUint (.bytes encoded) = .ok 65535)
      ∧ ∃ message, toBase64urlUint 65536 (some 16) = .error ⟨.overflowError, message⟩ := by
  obtain ⟨_, _, fitting, overflowing⟩ := base64url_inverts
  exact ⟨fitting 16 65535 (by decide) (by decide), overflowing 16 65536 (by decide) (by decide)⟩

end PyJwt
