import Mathlib.Data.List.Basic

/-! Base64 as the standard library computes it: the padded encoder, the lenient decoder
that drops foreign bytes, and their URL-safe variants.
-/

namespace Foundations.Base64

/-- The padding byte `=`. -/
def pad : UInt8 := 61

/-- The standard alphabet: the digit for a value below 64. -/
def digit (value : Nat) : UInt8 :=
  if value < 26 then UInt8.ofNat (65 + value)
  else if value < 52 then UInt8.ofNat (97 + (value - 26))
  else if value < 62 then UInt8.ofNat (48 + (value - 52))
  else if value = 62 then 43
  else 47

/-- The value of a digit; `none` for a byte outside the alphabet. -/
def value? (byte : UInt8) : Option Nat :=
  let code := byte.toNat
  if 65 ≤ code ∧ code ≤ 90 then some (code - 65)
  else if 97 ≤ code ∧ code ≤ 122 then some (code - 97 + 26)
  else if 48 ≤ code ∧ code ≤ 57 then some (code - 48 + 52)
  else if code = 43 then some 62
  else if code = 47 then some 63
  else none

/-- Every value is read back from its digit, which is never the padding byte. -/
theorem value?_digit : ∀ value < 64, value? (digit value) = some value ∧ digit value ≠ pad := by
  decide

-----------------------------------------------------------------------------------------
-- Encoding
-----------------------------------------------------------------------------------------

/-- The digits of a byte string, without padding. -/
def body : List UInt8 → List UInt8
  | [] => []
  | [a] => [digit (a.toNat / 4), digit (a.toNat % 4 * 16)]
  | [a, b] =>
      [
        digit (a.toNat / 4),
        digit (a.toNat % 4 * 16 + b.toNat / 16),
        digit (b.toNat % 16 * 4)
      ]
  | a :: b :: c :: rest =>
      digit (a.toNat / 4) :: digit (a.toNat % 4 * 16 + b.toNat / 16)
        :: digit (b.toNat % 16 * 4 + c.toNat / 64) :: digit (c.toNat % 64) :: body rest

/-- `binascii.b2a_base64(input, newline=False)`: the digits, padded to whole quads. -/
def encode (input : List UInt8) : List UInt8 :=
  body input ++ List.replicate ((3 - input.length % 3) % 3) pad

/-- The digits come in quads, but for the ones that encode an incomplete last triple. -/
theorem body_length_mod (input : List UInt8)
    : (body input).length % 4
      = if input.length % 3 = 0 then 0 else input.length % 3 + 1 := by
  induction input using body.induct with
  | case1 => rfl
  | case2 a => rfl
  | case3 a b => rfl
  | case4 a b c rest ih =>
      simp only [body, List.length_cons]
      rw [show (body rest).length + 1 + 1 + 1 + 1 = (body rest).length + 4 by omega,
        show rest.length + 1 + 1 + 1 = rest.length + 3 by omega, Nat.add_mod_right,
        Nat.add_mod_right, ih]

/-- Encoding uses alphabet digits only, by induction on triples. -/
theorem body_digits (input : List UInt8)
    : ∀ byte ∈ body input, ∃ value < 64, byte = digit value := by
  have bound (a : UInt8) : a.toNat < 256 := a.toNat_lt
  induction input using body.induct with
  | case1 => simp [body]
  | case2 a =>
      intro byte member
      simp only [body, List.mem_cons, List.not_mem_nil, or_false] at member
      have := bound a
      rcases member with rfl | rfl
      · exact ⟨_, by omega, rfl⟩
      · exact ⟨_, by omega, rfl⟩
  | case3 a b =>
      intro byte member
      simp only [body, List.mem_cons, List.not_mem_nil, or_false] at member
      have := bound a
      have := bound b
      rcases member with rfl | rfl | rfl
      · exact ⟨_, by omega, rfl⟩
      · exact ⟨_, by omega, rfl⟩
      · exact ⟨_, by omega, rfl⟩
  | case4 a b c rest ih =>
      intro byte member
      simp only [body, List.mem_cons] at member
      have := bound a
      have := bound b
      have := bound c
      rcases member with rfl | rfl | rfl | rfl | member
      · exact ⟨_, by omega, rfl⟩
      · exact ⟨_, by omega, rfl⟩
      · exact ⟨_, by omega, rfl⟩
      · exact ⟨_, by omega, rfl⟩
      · exact ih byte member

-----------------------------------------------------------------------------------------
-- Lenient decoding
-----------------------------------------------------------------------------------------

/-- Why `binascii.a2b_base64` raises `binascii.Error`. -/
inductive Malformed
  | oneExtraDigit
  | incorrectPadding
  deriving DecidableEq

/-- The loop of `binascii.a2b_base64` in its non-strict mode, `quadPos` digits into a quad.
`leftChar` holds the bits not yet written and `pads` counts the padding seen since the
last digit. A quad closed by padding ends the input; other foreign bytes are dropped.
-/
def decodeFrom (quadPos leftChar pads : Nat) : List UInt8 → Except Malformed (List UInt8)
  | [] =>
      if quadPos = 0 then .ok []
      else if quadPos = 1 then .error .oneExtraDigit
      else .error .incorrectPadding
  | byte :: rest =>
      if byte = pad then
        if 2 ≤ quadPos then
          if 4 ≤ quadPos + (pads + 1) then .ok []
          else decodeFrom quadPos leftChar (pads + 1) rest
        else decodeFrom quadPos leftChar pads rest
      else
        match value? byte with
        | none => decodeFrom quadPos leftChar pads rest
        | some value =>
            if quadPos = 0 then decodeFrom 1 value 0 rest
            else if quadPos = 1 then
              (decodeFrom 2 (value % 16) 0 rest).map
                (fun output => UInt8.ofNat (leftChar * 4 + value / 16) :: output)
            else if quadPos = 2 then
              (decodeFrom 3 (value % 4) 0 rest).map
                (fun output => UInt8.ofNat (leftChar * 16 + value / 4) :: output)
            else
              (decodeFrom 0 0 0 rest).map
                (fun output => UInt8.ofNat (leftChar * 64 + value) :: output)

/-- `binascii.a2b_base64(input, strict_mode=False)`. -/
def decode (input : List UInt8) : Except Malformed (List UInt8) :=
  decodeFrom 0 0 0 input

/-- One digit advances the loop by its value. -/
theorem decodeFrom_digit (quadPos leftChar pads : Nat) {value : Nat} (h : value < 64)
    (rest : List UInt8)
    : decodeFrom quadPos leftChar pads (digit value :: rest)
      = if quadPos = 0 then decodeFrom 1 value 0 rest
        else if quadPos = 1 then
          (decodeFrom 2 (value % 16) 0 rest).map
            (fun output => UInt8.ofNat (leftChar * 4 + value / 16) :: output)
        else if quadPos = 2 then
          (decodeFrom 3 (value % 4) 0 rest).map
            (fun output => UInt8.ofNat (leftChar * 16 + value / 4) :: output)
        else
          (decodeFrom 0 0 0 rest).map
            (fun output => UInt8.ofNat (leftChar * 64 + value) :: output) := by
  obtain ⟨known, notPad⟩ := value?_digit value h
  simp only [decodeFrom, if_neg notPad, known]

/-- Four digits that encode three bytes decode to them. -/
theorem decodeFrom_quad (a b c : UInt8) (rest : List UInt8)
    : decodeFrom 0 0 0
          (digit (a.toNat / 4) :: digit (a.toNat % 4 * 16 + b.toNat / 16)
            :: digit (b.toNat % 16 * 4 + c.toNat / 64) :: digit (c.toNat % 64) :: rest)
      = (decodeFrom 0 0 0 rest).map (fun output => a :: b :: c :: output) := by
  have ha : a.toNat < 256 := a.toNat_lt
  have hb : b.toNat < 256 := b.toNat_lt
  have hc : c.toNat < 256 := c.toNat_lt
  have first : a.toNat / 4 * 4 + (a.toNat % 4 * 16 + b.toNat / 16) / 16 = a.toNat := by omega
  have second : (a.toNat % 4 * 16 + b.toNat / 16) % 16 * 16
      + (b.toNat % 16 * 4 + c.toNat / 64) / 4 = b.toNat := by omega
  have third : (b.toNat % 16 * 4 + c.toNat / 64) % 4 * 64 + c.toNat % 64 = c.toNat := by omega
  rw [decodeFrom_digit 0 0 0 (by omega), if_pos rfl, decodeFrom_digit 1 _ 0 (by omega),
    if_neg (by omega), if_pos rfl, decodeFrom_digit 2 _ 0 (by omega), if_neg (by omega),
    if_neg (by omega), if_pos rfl, decodeFrom_digit 3 _ 0 (by omega), if_neg (by omega),
    if_neg (by omega), if_neg (by omega), first, second, third]
  cases decodeFrom 0 0 0 rest <;> simp [Except.map]

/-- Decoding the padded digits of a byte string gives it back, by induction on triples. -/
theorem decode_encode (input : List UInt8) : decode (encode input) = .ok input := by
  unfold decode encode
  induction input using body.induct with
  | case1 => rfl
  | case2 a =>
      have ha : a.toNat < 256 := a.toNat_lt
      have first : a.toNat / 4 * 4 + a.toNat % 4 * 16 / 16 = a.toNat := by omega
      simp only [body, List.length_singleton, List.cons_append, List.nil_append]
      rw [decodeFrom_digit 0 0 0 (by omega), if_pos rfl, decodeFrom_digit 1 _ 0 (by omega),
        if_neg (by omega), if_pos rfl, first]
      simp [List.replicate, decodeFrom, Except.map]
  | case3 a b =>
      have ha : a.toNat < 256 := a.toNat_lt
      have hb : b.toNat < 256 := b.toNat_lt
      have first : a.toNat / 4 * 4 + (a.toNat % 4 * 16 + b.toNat / 16) / 16 = a.toNat := by
        omega
      have second : (a.toNat % 4 * 16 + b.toNat / 16) % 16 * 16 + b.toNat % 16 * 4 / 4
          = b.toNat := by omega
      simp only [body, List.length_cons, List.length_nil, List.cons_append, List.nil_append]
      rw [decodeFrom_digit 0 0 0 (by omega), if_pos rfl, decodeFrom_digit 1 _ 0 (by omega),
        if_neg (by omega), if_pos rfl, decodeFrom_digit 2 _ 0 (by omega), if_neg (by omega),
        if_neg (by omega), if_pos rfl, first, second]
      simp [decodeFrom, Except.map]
  | case4 a b c rest ih =>
      have same : (3 - (a :: b :: c :: rest).length % 3) % 3 = (3 - rest.length % 3) % 3 := by
        simp only [List.length_cons]
        omega
      simp only [body, List.cons_append]
      rw [decodeFrom_quad, same, ih]
      rfl

-----------------------------------------------------------------------------------------
-- The URL-safe variants
-----------------------------------------------------------------------------------------

/-- `+` and `/` become `-` and `_`. -/
def toUrlSafe (byte : UInt8) : UInt8 :=
  if byte = 43 then 45 else if byte = 47 then 95 else byte

/-- `-` and `_` become `+` and `/`. -/
def ofUrlSafe (byte : UInt8) : UInt8 :=
  if byte = 45 then 43 else if byte = 95 then 47 else byte

/-- `base64.urlsafe_b64encode(input)`. -/
def urlsafeEncode (input : List UInt8) : List UInt8 :=
  (encode input).map toUrlSafe

/-- `base64.urlsafe_b64decode(input)`. -/
def urlsafeDecode (input : List UInt8) : Except Malformed (List UInt8) :=
  decode (input.map ofUrlSafe)

/-- The URL-safe alphabet: letters, digits, hyphen and underscore. -/
def UrlSafe (byte : UInt8) : Prop :=
  (65 ≤ byte ∧ byte ≤ 90) ∨ (97 ≤ byte ∧ byte ≤ 122) ∨ (48 ≤ byte ∧ byte ≤ 57)
    ∨ byte = 45 ∨ byte = 95

instance (byte : UInt8) : Decidable (UrlSafe byte) :=
  inferInstanceAs (Decidable (_ ∨ _))

/-- A digit's URL-safe form is in the alphabet, translates back, and is not padding. -/
theorem toUrlSafe_digit
    : ∀ value < 64,
        UrlSafe (toUrlSafe (digit value))
        ∧ ofUrlSafe (toUrlSafe (digit value)) = digit value
        ∧ toUrlSafe (digit value) ≠ pad := by
  decide

/-- Dropping the padding of a URL-safe encoding leaves its translated digits. -/
theorem urlsafeEncode_filter (input : List UInt8)
    : (urlsafeEncode input).filter (fun byte => byte ≠ pad) = (body input).map toUrlSafe := by
  have digits : ((body input).map toUrlSafe).filter (fun byte => byte ≠ pad)
      = (body input).map toUrlSafe := by
    apply List.filter_eq_self.mpr
    intro byte member
    obtain ⟨plain, inner, rfl⟩ := List.mem_map.mp member
    obtain ⟨value, bound, rfl⟩ := body_digits input plain inner
    simpa using (toUrlSafe_digit value bound).2.2
  have padding (count : Nat)
      : ((List.replicate count pad).map toUrlSafe).filter (fun byte => byte ≠ pad) = [] := by
    simp [toUrlSafe, pad]
  rw [urlsafeEncode, encode, List.map_append, List.filter_append, digits, padding,
    List.append_nil]

/-- The unpadded URL-safe digits stay inside the alphabet. -/
theorem urlSafe_of_mem {input : List UInt8} {byte : UInt8}
    (h : byte ∈ (body input).map toUrlSafe)
    : UrlSafe byte := by
  obtain ⟨plain, inner, rfl⟩ := List.mem_map.mp h
  obtain ⟨value, bound, rfl⟩ := body_digits input plain inner
  exact (toUrlSafe_digit value bound).1

/-- Padding the URL-safe digits up to whole quads makes them decode to the input. -/
theorem urlsafeDecode_padded (input : List UInt8)
    : urlsafeDecode
          ((body input).map toUrlSafe
            ++ List.replicate ((4 - (body input).length % 4) % 4) pad)
      = .ok input := by
  have digits : ((body input).map toUrlSafe).map ofUrlSafe = body input := by
    rw [List.map_map, List.map_congr_left (g := id) ?_, List.map_id]
    intro byte member
    obtain ⟨value, bound, rfl⟩ := body_digits input byte member
    exact (toUrlSafe_digit value bound).2.1
  have count : (4 - (body input).length % 4) % 4 = (3 - input.length % 3) % 3 := by
    rw [body_length_mod]
    split <;> omega
  rw [urlsafeDecode, List.map_append, digits, List.map_replicate, count]
  exact decode_encode input

end Foundations.Base64
