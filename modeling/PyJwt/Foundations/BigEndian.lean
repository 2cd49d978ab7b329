import Mathlib.Algebra.Group.Nat.Defs
import Mathlib.Data.List.Induction
import Mathlib.Data.Nat.Log

/-! Natural numbers as big-endian byte strings of a fixed width. -/

namespace Foundations.BigEndian

/-- The number a byte string denotes, most significant byte first. -/
def ofBytes (bytes : List UInt8) : Nat :=
  bytes.foldl (fun number byte => number * 256 + byte.toNat) 0

/-- The low `width` bytes of `number`, most significant byte first. -/
def lowBytes : Nat → Nat → List UInt8
  | 0, _ => []
  | width + 1, number => lowBytes width (number / 256) ++ [UInt8.ofNat (number % 256)]

/-- The encoding of `number` in exactly `width` bytes, when it fits. -/
def toBytes? (width number : Nat) : Option (List UInt8) :=
  if number < 256 ^ width then some (lowBytes width number) else none

/-- The number of bits of `number`, with none for zero. -/
def bitLength (number : Nat) : Nat :=
  if number = 0 then 0 else number.log2 + 1

@[simp] theorem ofBytes_nil : ofBytes [] = 0 := rfl

@[simp] theorem ofBytes_append_singleton (bytes : List UInt8) (byte : UInt8)
    : ofBytes (bytes ++ [byte]) = ofBytes bytes * 256 + byte.toNat := by
  simp [ofBytes]

@[simp] theorem lowBytes_length (width number : Nat)
    : (lowBytes width number).length = width := by
  induction width generalizing number with
  | zero => rfl
  | succ width ih => simp [lowBytes, ih]

/-- Reading the low bytes back gives the number's remainder, by induction on the width. -/
theorem ofBytes_lowBytes (width number : Nat)
    : ofBytes (lowBytes width number) = number % 256 ^ width := by
  induction width generalizing number with
  | zero => simp [lowBytes, Nat.mod_one]
  | succ width ih =>
      have byte : (UInt8.ofNat (number % 256)).toNat = number % 256 := by
        simp
      rw [lowBytes, ofBytes_append_singleton, ih, byte, Nat.pow_succ', Nat.mod_mul]
      omega

/-- A number that fits its width is read back unchanged. -/
theorem ofBytes_of_toBytes? {width number : Nat} {bytes : List UInt8}
    (h : toBytes? width number = some bytes)
    : ofBytes bytes = number := by
  unfold toBytes? at h
  split at h
  · rename_i fits
    rw [← Option.some.inj h, ofBytes_lowBytes, Nat.mod_eq_of_lt fits]
  · cases h

theorem toBytes?_of_lt {width number : Nat} (h : number < 256 ^ width)
    : toBytes? width number = some (lowBytes width number) :=
  if_pos h

/-- A number has fewer bits than its bit length says. -/
theorem lt_two_pow_bitLength (number : Nat) : number < 2 ^ bitLength number := by
  unfold bitLength
  split
  · rename_i zero
    simp [zero]
  · exact Nat.lt_log2_self

/-- Rounding a bit count up to whole bytes keeps the room for the bits. -/
theorem two_pow_le_bytes (bits : Nat) : 2 ^ bits ≤ 256 ^ ((bits + 7) / 8) := by
  calc 2 ^ bits ≤ 2 ^ (8 * ((bits + 7) / 8)) := Nat.pow_le_pow_right (by decide) (by omega)
    _ = 256 ^ ((bits + 7) / 8) := by rw [Nat.pow_mul]

/-- A byte string denotes a number that fits its length. -/
theorem ofBytes_lt (bytes : List UInt8) : ofBytes bytes < 256 ^ bytes.length := by
  induction bytes using List.reverseRecOn with
  | nil => simp
  | append_singleton bytes byte ih =>
      have small := byte.toNat_lt
      rw [ofBytes_append_singleton, List.length_append, List.length_singleton, Nat.pow_succ]
      omega

/-- A byte string is the low bytes of the number it denotes, by induction from its end. -/
theorem lowBytes_ofBytes (bytes : List UInt8)
    : lowBytes bytes.length (ofBytes bytes) = bytes := by
  induction bytes using List.reverseRecOn with
  | nil => rfl
  | append_singleton bytes byte ih =>
      have small := byte.toNat_lt
      have high : (ofBytes bytes * 256 + byte.toNat) / 256 = ofBytes bytes := by omega
      have low : (ofBytes bytes * 256 + byte.toNat) % 256 = byte.toNat := by omega
      rw [List.length_append, List.length_singleton, ofBytes_append_singleton, lowBytes, high,
        low, ih, UInt8.ofNat_toNat]

/-- Byte strings of one length denote different numbers. -/
theorem eq_of_ofBytes {bytes other : List UInt8} (length : bytes.length = other.length)
    (number : ofBytes bytes = ofBytes other)
    : bytes = other := by
  rw [← lowBytes_ofBytes bytes, length, number, lowBytes_ofBytes]

/-- A number fits exactly the widths that are no less than its bit length. -/
theorem bitLength_le_iff {number bits : Nat} : bitLength number ≤ bits ↔ number < 2 ^ bits := by
  unfold bitLength
  split
  · rename_i zero
    rw [zero]
    exact iff_of_true (Nat.zero_le _) (Nat.two_pow_pos bits)
  · rename_i positive
    exact Nat.succ_le_iff.trans (Nat.log2_lt positive)

-----------------------------------------------------------------------------------------
-- The shortest form
-----------------------------------------------------------------------------------------

/-- The bytes denote the number, and no fewer do. Zero is denoted by one byte, too. -/
structure Shortest (number : Nat) (bytes : List UInt8) : Prop where
  denotes : ofBytes bytes = number
  nonempty : bytes ≠ []
  least : ∀ other, other ≠ [] → ofBytes other = number → bytes.length ≤ other.length

theorem Shortest.unique {number : Nat} {bytes other : List UInt8} (h : Shortest number bytes)
    (h' : Shortest number other)
    : bytes = other := by
  have length := Nat.le_antisymm (h.least other h'.nonempty h'.denotes)
    (h'.least bytes h.nonempty h.denotes)
  exact eq_of_ofBytes length (h.denotes.trans h'.denotes.symm)

/-- Zero has one byte. -/
theorem shortest_zero : Shortest 0 [0] where
  denotes := rfl
  nonempty := List.cons_ne_nil _ _
  least _ nonempty _ := List.length_pos_iff.mpr nonempty

/-- A positive number has as many bytes as its bits fill. -/
theorem shortest_lowBytes {number : Nat} (positive : 0 < number)
    : Shortest number (lowBytes ((bitLength number + 7) / 8) number) := by
  have fits : number < 256 ^ ((bitLength number + 7) / 8) :=
    (lt_two_pow_bitLength number).trans_le (two_pow_le_bytes _)
  have bits : 0 < bitLength number := by
    unfold bitLength
    rw [if_neg (Nat.pos_iff_ne_zero.mp positive)]
    exact Nat.succ_pos _
  refine {
    denotes := ofBytes_of_toBytes? (toBytes?_of_lt fits)
    nonempty := ?_
    least := ?_
  }
  · intro empty
    have length := congrArg List.length empty
    rw [lowBytes_length, List.length_nil] at length
    omega
  · intro other _ denotes
    have small := ofBytes_lt other
    rw [denotes, show 256 = 2 ^ 8 from rfl, ← Nat.pow_mul, ← bitLength_le_iff] at small
    rw [lowBytes_length]
    omega

/-- The first byte counts for all that follow, by induction from the end. -/
theorem ofBytes_cons (byte : UInt8) (rest : List UInt8)
    : ofBytes (byte :: rest) = byte.toNat * 256 ^ rest.length + ofBytes rest := by
  induction rest using List.reverseRecOn with
  | nil => simp [ofBytes]
  | append_singleton rest last ih =>
      rw [← List.cons_append, ofBytes_append_singleton, ih, ofBytes_append_singleton,
        List.length_append, List.length_singleton, Nat.pow_succ, Nat.add_mul, Nat.mul_assoc,
        Nat.add_assoc]

/-- The shortest form has no leading zero byte, unless it is one zero byte. -/
theorem shortest_of_head {bytes : List UInt8}
    (h : bytes = [0] ∨ ∃ byte rest, bytes = byte :: rest ∧ byte ≠ 0)
    : Shortest (ofBytes bytes) bytes := by
  rcases h with rfl | ⟨byte, rest, rfl, leading⟩
  · exact shortest_zero
  · refine ⟨rfl, List.cons_ne_nil _ _, fun other _ denotes => ?_⟩
    have high : 256 ^ rest.length ≤ ofBytes (byte :: rest) := by
      have positive : 0 < byte.toNat :=
        Nat.pos_of_ne_zero (fun zero => leading (UInt8.toNat_inj.mp zero))
      rw [ofBytes_cons]
      exact (Nat.le_mul_of_pos_left _ positive).trans (Nat.le_add_right _ _)
    have small := ofBytes_lt other
    rw [denotes] at small
    have lengths := (Nat.pow_lt_pow_iff_right (by decide)).mp (high.trans_lt small)
    rw [List.length_cons]
    exact lengths

end Foundations.BigEndian
