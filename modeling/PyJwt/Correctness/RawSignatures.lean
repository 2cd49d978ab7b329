import PyJwt.Implementation.Utils

/-! Raw and DER signatures. Each number of a signature passes through a hexadecimal text that
is padded to the width of the curve, and comes back as it was.
-/

namespace PyJwt

open Foundations
open Python

-----------------------------------------------------------------------------------------
-- Hexadecimal text
-----------------------------------------------------------------------------------------

/-- The low `width` hexadecimal digits of a number. -/
def hexDigits : Nat → Nat → List Char
  | 0, _ => []
  | width + 1, number => hexDigits width (number / 16) ++ [(number % 16).digitChar]

theorem hexValue?_digitChar : ∀ value < 16, hexValue? value.digitChar = some value := by
  decide

@[simp] theorem b2aHex_append (input more : Bytes)
    : b2aHex (input ++ more) = b2aHex input ++ b2aHex more :=
  List.flatMap_append

theorem b2aHex_cons (byte : UInt8) (rest : Bytes)
    : b2aHex (byte :: rest)
      = (byte.toNat / 16).digitChar :: (byte.toNat % 16).digitChar :: b2aHex rest :=
  rfl

/-- The two digits of a byte are digits, and denote it. -/
theorem byte_halves (byte : UInt8)
    : byte.toNat / 16 < 16 ∧ byte.toNat % 16 < 16
      ∧ byte.toNat / 16 * 16 + byte.toNat % 16 = byte.toNat := by
  have small := byte.toNat_lt
  omega

/-- Bytes are read back from their digits, two at a time. -/
theorem a2bHex_b2aHex (input : Bytes) : a2bHex (b2aHex input) = .ok input := by
  induction input with
  | nil => rfl
  | cons byte rest ih =>
      obtain ⟨high, low, whole⟩ := byte_halves byte
      rw [b2aHex_cons, a2bHex, ih, outcome_ok_bind, hexValue?_digitChar _ high,
        hexValue?_digitChar _ low]
      simp only [whole, UInt8.ofNat_toNat]

/-- The digits of a number's low bytes are its low digits, by induction on the bytes. -/
theorem b2aHex_lowBytes (width number : Nat)
    : b2aHex (BigEndian.lowBytes width number) = hexDigits (2 * width) number := by
  induction width generalizing number with
  | zero => rfl
  | succ width ih =>
      have byte : (UInt8.ofNat (number % 256)).toNat = number % 256 := by simp
      have high : number % 256 / 16 = number / 16 % 16 := by omega
      have low : number % 256 % 16 = number % 16 := by omega
      have shifted : number / 256 = number / 16 / 16 := by omega
      rw [BigEndian.lowBytes, b2aHex_append, ih, b2aHex_cons, byte, high, low, shifted,
        show 2 * (width + 1) = 2 * width + 1 + 1 by omega, hexDigits, hexDigits,
        List.append_assoc]
      rfl

theorem paddedHex_eq (width number : Nat)
    : paddedHex width number
      = List.replicate (width - (Nat.toDigits 16 number).length) '0' ++ Nat.toDigits 16 number :=
  rfl

/-- The padded text of a number that fits its width is its low digits: the padding stands for
the leading zero digits, and a zero has one digit of its own.
-/
theorem paddedHex_eq_hexDigits {width number : Nat} (fits : number < 16 ^ (width + 1))
    : paddedHex (width + 1) number = hexDigits (width + 1) number := by
  induction width generalizing number with
  | zero =>
      rw [paddedHex_eq, Nat.toDigits_of_lt_base (by omega), hexDigits, hexDigits,
        Nat.mod_eq_of_lt (by omega)]
      rfl
  | succ width ih =>
      have next : number / 16 < 16 ^ (width + 1) := by
        rw [Nat.pow_succ] at fits
        exact Nat.div_lt_of_lt_mul (by omega)
      rw [hexDigits, ← ih next, paddedHex_eq, paddedHex_eq]
      rcases Nat.lt_or_ge number 16 with small | large
      · have padding : List.replicate (width + 1) '0' = List.replicate width '0' ++ ['0'] :=
          List.replicate_succ'
        rw [Nat.toDigits_of_lt_base small, Nat.div_eq_of_lt small, Nat.toDigits_zero,
          Nat.mod_eq_of_lt small]
        exact congrArg (· ++ [number.digitChar]) padding
      · rw [Nat.toDigits_of_base_le (by decide) large, List.length_append,
          List.length_singleton, Nat.add_sub_add_right, List.append_assoc]

/-- A number that fits is turned into its bytes. -/
theorem numberToBytes_eq {numBytes number : Nat} (positive : 0 < numBytes)
    (fits : number < 256 ^ numBytes)
    : numberToBytes number numBytes = .ok (BigEndian.lowBytes numBytes number) := by
  obtain ⟨width, same⟩ : ∃ width, 2 * numBytes = width + 1 := ⟨2 * numBytes - 1, by omega⟩
  have small : number < 16 ^ (width + 1) := by
    rw [← same, Nat.pow_mul]
    exact fits
  rw [numberToBytes, same, paddedHex_eq_hexDigits small, ← same, ← b2aHex_lowBytes,
    a2bHex_b2aHex]

/-- The digits of bytes denote the number that the bytes denote. -/
theorem bytesToNumber_eq {input : Bytes} (nonempty : input ≠ [])
    : bytesToNumber input = .ok (BigEndian.ofBytes input) := by
  have fold (input : Bytes) (number : Nat)
      : (b2aHex input).foldl (fun number char => number * 16 + (hexValue? char).getD 0) number
        = input.foldl (fun number byte => number * 256 + byte.toNat) number := by
    induction input generalizing number with
    | nil => rfl
    | cons byte rest ih =>
        obtain ⟨high, low, whole⟩ := byte_halves byte
        rw [b2aHex_cons, List.foldl_cons, List.foldl_cons, List.foldl_cons, ih,
          hexValue?_digitChar _ high, hexValue?_digitChar _ low, Option.getD_some,
          Option.getD_some]
        congr 1
        omega
  have digits : b2aHex input ≠ [] := by
    obtain ⟨byte, rest, rfl⟩ := List.exists_cons_of_ne_nil nonempty
    exact List.cons_ne_nil _ _
  rw [bytesToNumber, intOfHex, if_neg digits, fold]
  rfl

-----------------------------------------------------------------------------------------
-- Signatures
-----------------------------------------------------------------------------------------

variable {decodeDssSignature : Bytes → Outcome (Nat × Nat)}
  {encodeDssSignature : Nat → Nat → Bytes}

/-- A raw signature is the bytes of its two numbers. -/
theorem derToRawSignature_eq {numBits r s : Nat} {derSig : Bytes} (positive : 0 < numBits)
    (decodes : decodeDssSignature derSig = .ok (r, s))
    (rFits : r < 256 ^ ((numBits + 7) / 8)) (sFits : s < 256 ^ ((numBits + 7) / 8))
    : derToRawSignature decodeDssSignature derSig numBits
      = .ok (BigEndian.lowBytes ((numBits + 7) / 8) r
          ++ BigEndian.lowBytes ((numBits + 7) / 8) s) := by
  have wide : 0 < (numBits + 7) / 8 := by omega
  unfold derToRawSignature
  rw [decodes, outcome_ok_bind]
  simp only [numberToBytes_eq wide rFits, numberToBytes_eq wide sFits, outcome_ok_bind]
  rfl

/-- The two halves of a raw signature of the curve's size are read as numbers. -/
theorem rawToDerSignature_eq {numBits : Nat} {left right : Bytes} (positive : 0 < numBits)
    (leftLength : left.length = (numBits + 7) / 8)
    (rightLength : right.length = (numBits + 7) / 8)
    : rawToDerSignature encodeDssSignature (left ++ right) numBits
      = .ok (encodeDssSignature (BigEndian.ofBytes left) (BigEndian.ofBytes right)) := by
  have nonempty {half : Bytes} (length : half.length = (numBits + 7) / 8) : half ≠ [] := by
    refine List.length_pos_iff.mp ?_
    omega
  have length : ¬(left ++ right).length ≠ 2 * ((numBits + 7) / 8) := by
    rw [List.length_append]
    omega
  have first : (left ++ right).take ((numBits + 7) / 8) = left := List.take_left' leftLength
  have second : (left ++ right).drop ((numBits + 7) / 8) = right := List.drop_left' leftLength
  unfold rawToDerSignature
  simp only [if_neg length, first, second, bytesToNumber_eq (nonempty leftLength),
    bytesToNumber_eq (nonempty rightLength), outcome_ok_bind]
  rfl

/-- Signatures on a curve of any size convert to raw bytes of twice that size and back, in both
directions, and raw bytes of any other size are refused.
-/
theorem rawSignature_inverts {numBits : Nat} (positive : 1 ≤ numBits)
    (inverse
      : ∀ r s,
          r < 256 ^ ((numBits + 7) / 8)
          → s < 256 ^ ((numBits + 7) / 8)
          → decodeDssSignature (encodeDssSignature r s) = .ok (r, s))
    : (∀ r s,
        r < 256 ^ ((numBits + 7) / 8)
        → s < 256 ^ ((numBits + 7) / 8)
        → ∃ raw,
            derToRawSignature decodeDssSignature (encodeDssSignature r s) numBits = .ok raw
            ∧ raw.length = 2 * ((numBits + 7) / 8)
            ∧ rawToDerSignature encodeDssSignature raw numBits
              = .ok (encodeDssSignature r s))
      ∧ (∀ raw : Bytes,
          raw.length = 2 * ((numBits + 7) / 8)
          → ∃ der,
              rawToDerSignature encodeDssSignature raw numBits = .ok der
              ∧ derToRawSignature decodeDssSignature der numBits = .ok raw)
      ∧ ∀ raw : Bytes,
          raw.length ≠ 2 * ((numBits + 7) / 8)
          → ∃ message,
              rawToDerSignature encodeDssSignature raw numBits
                = .error ⟨.valueError, message⟩ := by
  refine ⟨fun r s rFits sFits => ?_, fun raw length => ?_, fun raw length => ?_⟩
  · refine ⟨_, derToRawSignature_eq positive (inverse r s rFits sFits) rFits sFits, ?_,
      ?_⟩
    · rw [List.length_append, BigEndian.lowBytes_length, BigEndian.lowBytes_length]
      omega
    · rw [rawToDerSignature_eq positive (BigEndian.lowBytes_length _ _)
        (BigEndian.lowBytes_length _ _), BigEndian.ofBytes_lowBytes, BigEndian.ofBytes_lowBytes,
        Nat.mod_eq_of_lt rFits, Nat.mod_eq_of_lt sFits]
  · obtain ⟨left, right, rfl, leftLength, rightLength⟩ : ∃ left right,
        raw = left ++ right
        ∧ left.length = (numBits + 7) / 8
        ∧ right.length = (numBits + 7) / 8 := by
      refine ⟨raw.take ((numBits + 7) / 8), raw.drop ((numBits + 7) / 8),
        (List.take_append_drop _ _).symm, ?_, ?_⟩
      · rw [List.length_take]
        omega
      · rw [List.length_drop]
        omega
    have leftFits := BigEndian.ofBytes_lt left
    have rightFits := BigEndian.ofBytes_lt right
    have leftBytes := BigEndian.lowBytes_ofBytes left
    have rightBytes := BigEndian.lowBytes_ofBytes right
    rw [leftLength] at leftFits leftBytes
    rw [rightLength] at rightFits rightBytes
    refine ⟨_, rawToDerSignature_eq positive leftLength rightLength, ?_⟩
    rw [derToRawSignature_eq positive (inverse _ _ leftFits rightFits) leftFits rightFits,
      leftBytes, rightBytes]
  · unfold rawToDerSignature
    simp only [if_pos length]
    exact ⟨_, rfl⟩

-----------------------------------------------------------------------------------------
-- The DER format
-----------------------------------------------------------------------------------------

/-- A non-negative `INTEGER` of DER, with room for a sign bit. -/
def derInteger (number : Nat) : Bytes :=
  let width := BigEndian.bitLength number / 8 + 1
  2 :: UInt8.ofNat width :: BigEndian.lowBytes width number

/-- The `SEQUENCE` of two integers, short enough for a length of one byte. -/
def derSequence (r s : Nat) : Bytes :=
  let content := derInteger r ++ derInteger s
  48 :: UInt8.ofNat content.length :: content

def readDerInteger : Bytes → Outcome (Nat × Bytes)
  | 2 :: width :: rest =>
      .ok (BigEndian.ofBytes (rest.take width.toNat), rest.drop width.toNat)
  | _ => .error ⟨.valueError, [.text "Invalid DER integer"]⟩

def readDerSequence : Bytes → Outcome (Nat × Nat)
  | 48 :: _ :: content => do
      let (r, rest) ← readDerInteger content
      let (s, _) ← readDerInteger rest
      return (r, s)
  | _ => .error ⟨.valueError, [.text "Invalid DER sequence"]⟩

/-- An integer that is not too long for its length byte is read back, and what follows it is
left.
-/
theorem readDerInteger_derInteger {numBytes number : Nat} (short : numBytes ≤ 254)
    (small : number < 256 ^ numBytes) (rest : Bytes)
    : readDerInteger (derInteger number ++ rest) = .ok (number, rest) := by
  have bits : BigEndian.bitLength number ≤ 8 * numBytes := by
    rw [BigEndian.bitLength_le_iff, Nat.pow_mul]
    exact small
  have width : (UInt8.ofNat (BigEndian.bitLength number / 8 + 1)).toNat
      = BigEndian.bitLength number / 8 + 1 := by
    simp only [UInt8.toNat_ofNat']
    omega
  have fits : number < 256 ^ (BigEndian.bitLength number / 8 + 1) := by
    refine (BigEndian.lt_two_pow_bitLength number).trans_le ?_
    rw [show 256 = 2 ^ 8 from rfl, ← Nat.pow_mul]
    exact Nat.pow_le_pow_right (by decide) (by omega)
  unfold derInteger
  simp only [List.cons_append, readDerInteger, width]
  rw [List.take_left' (BigEndian.lowBytes_length _ _),
    List.drop_left' (BigEndian.lowBytes_length _ _), BigEndian.ofBytes_lowBytes,
    Nat.mod_eq_of_lt fits]

theorem readDerSequence_derSequence {numBytes r s : Nat} (short : numBytes ≤ 254)
    (rSmall : r < 256 ^ numBytes) (sSmall : s < 256 ^ numBytes)
    : readDerSequence (derSequence r s) = .ok (r, s) := by
  have last := readDerInteger_derInteger short sSmall []
  rw [List.append_nil] at last
  unfold derSequence readDerSequence
  simp only [readDerInteger_derInteger short rSmall, last, outcome_ok_bind]
  rfl

/-- On a curve of 256 bits, a signature of two one-byte numbers fills 64 bytes. -/
theorem rawSignature_inverts_short
    : ∃ raw,
        derToRawSignature readDerSequence [48, 6, 2, 1, 1, 2, 1, 2] 256 = .ok raw
        ∧ raw.length = 64
        ∧ rawToDerSignature derSequence raw 256 = .ok [48, 6, 2, 1, 1, 2, 1, 2] := by
  have encoded : derSequence 1 2 = [48, 6, 2, 1, 1, 2, 1, 2] := by decide
  have positive : 1 ≤ 256 := by decide
  obtain ⟨converts, _⟩ := rawSignature_inverts positive
    (fun r s => readDerSequence_derSequence (by decide))
  rw [← encoded]
  exact converts 1 2 (Nat.one_lt_pow (by decide) (by decide)) (by decide)

end PyJwt
