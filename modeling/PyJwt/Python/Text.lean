import Mathlib.Data.List.Basic

/-! Python text and bytes. A `str` is a sequence of code points, lone surrogates included;
only a `str` without them has a UTF-8 encoding.
-/

namespace PyJwt.Python

/-- Python `bytes`. -/
abbrev Bytes := List UInt8

/-- One code point of a Python `str`: a Unicode scalar value or a lone surrogate. -/
inductive CodePoint
  | scalar (char : Char)
  | surrogate (offset : Fin 0x800)
  deriving DecidableEq

/-- The numeric value `ord` gives. -/
def CodePoint.ord : CodePoint → Nat
  | scalar char => char.toNat
  | surrogate offset => 0xD800 + offset.val

/-- Python `str`. -/
structure PyStr where
  codePoints : List CodePoint
  deriving DecidableEq

/-- A source literal `"..."`. -/
def PyStr.ofString (text : String) : PyStr :=
  ⟨text.toList.map .scalar⟩

instance : Coe String PyStr := ⟨PyStr.ofString⟩

/-- A source literal `b"..."`, all of whose characters are ASCII. -/
def ascii (text : String) : Bytes :=
  text.toList.map (fun char => UInt8.ofNat char.toNat)

instance : Append PyStr := ⟨fun left right => ⟨left.codePoints ++ right.codePoints⟩⟩

@[simp] theorem PyStr.append_codePoints (left right : PyStr)
    : (left ++ right).codePoints = left.codePoints ++ right.codePoints :=
  rfl

/-- Literals denote different strings exactly when they are spelled differently. -/
@[simp] theorem PyStr.ofString_inj {left right : String}
    : PyStr.ofString left = PyStr.ofString right ↔ left = right := by
  constructor
  · intro same
    have chars : left.toList.map CodePoint.scalar = right.toList.map CodePoint.scalar := by
      simpa only [PyStr.ofString, PyStr.mk.injEq] using same
    have injective : Function.Injective CodePoint.scalar := fun a b eq => by
      simpa only [CodePoint.scalar.injEq] using eq
    exact String.toList_inj.mp (injective.list_map chars)
  · rintro rfl
    rfl

/-- `str.encode("utf-8")` of one code point; a surrogate has no encoding. -/
def CodePoint.encode : CodePoint → Option Bytes
  | scalar char => some (String.utf8EncodeChar char)
  | surrogate _ => none

/-- `str.encode("utf-8")`; `none` is the `UnicodeEncodeError`. -/
def encodeCodePoints : List CodePoint → Option Bytes
  | [] => some []
  | head :: rest => do
      let first ← head.encode
      let more ← encodeCodePoints rest
      return first ++ more

def PyStr.encode (text : PyStr) : Option Bytes :=
  encodeCodePoints text.codePoints

/-- `bytes.decode("utf-8")`; `none` is the `UnicodeDecodeError`. The strict codec accepts
exactly the encodings of Unicode scalar values, as Lean's own decoder does.
-/
def decodeUtf8 (input : Bytes) : Option PyStr :=
  (ByteArray.utf8Decode? input.toByteArray).map (fun chars => ⟨chars.toList.map .scalar⟩)

@[simp] theorem encodeCodePoints_nil : encodeCodePoints [] = some [] := rfl

/-- An ASCII byte below `0x80` read as a character encodes to itself. -/
theorem utf8EncodeChar_ofNat {byte : UInt8} (h : byte < 0x80)
    : String.utf8EncodeChar (Char.ofNat byte.toNat) = [byte] := by
  have small : byte.toNat < 128 := h
  have valid : byte.toNat.isValidChar := Or.inl (by omega)
  have value : (Char.ofNat byte.toNat).val.toNat = byte.toNat := by
    rw [Char.ofNat, dif_pos valid]
    rfl
  simp only [String.utf8EncodeChar, value]
  rw [if_pos (by omega)]
  simp

/-- The text that a run of ASCII bytes spells. -/
def asciiText (input : Bytes) : PyStr :=
  ⟨input.map (fun byte => .scalar (Char.ofNat byte.toNat))⟩

/-- ASCII text encodes back to its bytes, by induction on the bytes. -/
theorem encode_asciiText {input : Bytes} (h : ∀ byte ∈ input, byte < 0x80)
    : (asciiText input).encode = some input := by
  induction input with
  | nil => rfl
  | cons head rest ih =>
      have tail := ih (fun byte member => h byte (List.mem_cons_of_mem head member))
      simp only [PyStr.encode, asciiText] at tail ⊢
      simp only [List.map_cons, encodeCodePoints, tail, CodePoint.encode,
        utf8EncodeChar_ofNat (h head List.mem_cons_self)]
      rfl

/-- ASCII bytes are their own characters' UTF-8 encoding. -/
theorem utf8Encode_ascii {input : Bytes} (h : ∀ byte ∈ input, byte < 0x80)
    : (input.map (fun byte => Char.ofNat byte.toNat)).utf8Encode = input.toByteArray := by
  have flat : input.flatMap
      (fun byte => String.utf8EncodeChar (Char.ofNat byte.toNat)) = input := by
    induction input with
    | nil => rfl
    | cons head rest ih =>
        rw [List.flatMap_cons, utf8EncodeChar_ofNat (h head List.mem_cons_self),
          ih (fun byte member => h byte (List.mem_cons_of_mem head member))]
        rfl
  rw [List.utf8Encode, List.flatMap_map, flat]

/-- Decoding ASCII bytes never fails, and yields the text they spell. -/
theorem decodeUtf8_ascii {input : Bytes} (h : ∀ byte ∈ input, byte < 0x80)
    : decodeUtf8 input = some (asciiText input) := by
  rw [decodeUtf8, ← utf8Encode_ascii h, List.utf8Decode?_utf8Encode]
  simp [asciiText]

end PyJwt.Python
