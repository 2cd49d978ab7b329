import Mathlib.Data.List.TakeWhile
import PyJwt.Python.Json

/-! JSON text as `json.dumps` writes it and `json.loads` reads it, for values without
fractional numbers, and that reading inverts writing.
-/

namespace PyJwt.Python.JsonText

-----------------------------------------------------------------------------------------
-- Writing
-----------------------------------------------------------------------------------------

def hexDigit (number : Nat) : Char := (number % 16).digitChar

/-- `\uXXXX` of one UTF-16 code unit. -/
def escapeUnit (unit : Nat) : List Char :=
  [
    '\\', 'u', hexDigit (unit / 4096), hexDigit (unit / 256), hexDigit (unit / 16),
    hexDigit unit
  ]

/-- The short escapes: the character and the letter that stands for it. -/
def shortEscapes : List (Char × Char) :=
  [
    ('"', '"'), ('\\', '\\'), ('\n', 'n'), ('\r', 'r'), ('\t', 't'),
    (Char.ofNat 8, 'b'), (Char.ofNat 12, 'f')
  ]

/-- `ensure_ascii=True`: everything but printable ASCII is escaped, beyond the basic plane
as a surrogate pair.
-/
def escape : CodePoint → List Char
  | .surrogate offset => escapeUnit (0xD800 + offset.val)
  | .scalar char =>
      let code := char.toNat
      match shortEscapes.find? (fun entry => entry.1 = char) with
      | some entry => ['\\', entry.2]
      | none =>
          if 32 ≤ code ∧ code ≤ 126 then [char]
          else if code < 0x10000 then escapeUnit code
          else
            escapeUnit (0xD800 + (code - 0x10000) / 0x400)
              ++ escapeUnit (0xDC00 + (code - 0x10000) % 0x400)

/-- A string in quotes. -/
def writeStr (text : PyStr) : List Char :=
  '"' :: text.codePoints.flatMap escape ++ ['"']

/-- `, ` or `,`. -/
def itemSeparator (compact : Bool) : List Char :=
  if compact then [','] else [',', ' ']

/-- `: ` or `:`. -/
def keySeparator (compact : Bool) : List Char :=
  if compact then [':'] else [':', ' ']

def writeInt (value : Int) : List Char :=
  if value < 0 then '-' :: Nat.toDigits 10 value.natAbs else Nat.toDigits 10 value.natAbs

mutual
/-- The text of a value; a fractional number has none here. -/
def write (compact : Bool) : Json → List Char
  | .null => ['n', 'u', 'l', 'l']
  | .bool true => ['t', 'r', 'u', 'e']
  | .bool false => ['f', 'a', 'l', 's', 'e']
  | .int value => writeInt value
  | .float .nan => ['N', 'a', 'N']
  | .float .posInf => ['I', 'n', 'f', 'i', 'n', 'i', 't', 'y']
  | .float .negInf => ['-', 'I', 'n', 'f', 'i', 'n', 'i', 't', 'y']
  | .float (.finite _) => []
  | .str text => writeStr text
  | .list [] => ['[', ']']
  | .list (head :: rest) => '[' :: (write compact head ++ writeItems compact rest)
  | .dict [] => ['{', '}']
  | .dict ((key, value) :: rest) =>
      '{' :: (writeStr key ++ (keySeparator compact
        ++ (write compact value ++ writeEntries compact rest)))

/-- What follows the first item of a list. -/
def writeItems (compact : Bool) : List Json → List Char
  | [] => [']']
  | head :: rest =>
      itemSeparator compact ++ (write compact head ++ writeItems compact rest)

/-- What follows the first entry of a dictionary. -/
def writeEntries (compact : Bool) : List (PyStr × Json) → List Char
  | [] => ['}']
  | (key, value) :: rest =>
      itemSeparator compact ++ (writeStr key ++ (keySeparator compact
        ++ (write compact value ++ writeEntries compact rest)))
end

-----------------------------------------------------------------------------------------
-- Values that have a text
-----------------------------------------------------------------------------------------

def isScalar : CodePoint → Bool
  | .scalar _ => true
  | .surrogate _ => false

/-- The string has no lone surrogates. -/
def scalars (text : PyStr) : Bool := text.codePoints.all isScalar

mutual
/-- The value holds no fractional number and no lone surrogate. -/
def textual : Json → Bool
  | .null | .bool _ | .int _ => true
  | .float (.finite _) => false
  | .float .nan | .float .posInf | .float .negInf => true
  | .str text => scalars text
  | .list items => textualItems items
  | .dict entries => textualEntries entries

def textualItems : List Json → Bool
  | [] => true
  | head :: rest => textual head && textualItems rest

def textualEntries : List (PyStr × Json) → Bool
  | [] => true
  | (key, value) :: rest => scalars key && (textual value && textualEntries rest)
end

-----------------------------------------------------------------------------------------
-- Reading
-----------------------------------------------------------------------------------------

def isSpace (char : Char) : Bool :=
  char = ' ' || char = '\n' || char = '\r' || char = '\t'

def skipSpace (input : List Char) : List Char :=
  input.dropWhile isSpace

def hexValue? (char : Char) : Option Nat :=
  let code := char.toNat
  if 48 ≤ code ∧ code ≤ 57 then some (code - 48)
  else if 97 ≤ code ∧ code ≤ 102 then some (code - 97 + 10)
  else if 65 ≤ code ∧ code ≤ 70 then some (code - 65 + 10)
  else none

/-- The code point of one UTF-16 code unit, a lone surrogate when it is half of a pair. -/
def ofUnit (unit : Nat) : CodePoint :=
  if surrogate : 0xD800 ≤ unit ∧ unit < 0xE000 then
    .surrogate ⟨unit - 0xD800, by omega⟩
  else .scalar (Char.ofNat unit)

def readUnit (a b c d : Char) : Option CodePoint := do
  let a ← hexValue? a
  let b ← hexValue? b
  let c ← hexValue? c
  let d ← hexValue? d
  return ofUnit (((a * 16 + b) * 16 + c) * 16 + d)

/-- The code points up to the closing quote, and what follows it. -/
def readChars : List Char → Option (List CodePoint × List Char)
  | [] => none
  | head :: rest =>
      if head = '"' then some ([], rest)
      else if head = '\\' then
        match rest with
        | [] => none
        | letter :: rest =>
            if letter = 'u' then
              match rest with
              | a :: b :: c :: d :: rest => do
                  let codePoint ← readUnit a b c d
                  let (more, after) ← readChars rest
                  return (codePoint :: more, after)
              | _ => none
            else do
              let (char, _) ←
                if letter = '/' then some ('/', '/')
                else shortEscapes.find? (fun entry => entry.2 = letter)
              let (more, after) ← readChars rest
              return (.scalar char :: more, after)
      else if head.toNat < 32 then none
      else do
        let (more, after) ← readChars rest
        return (.scalar head :: more, after)

theorem readChars_quote (rest : List Char) : readChars ('"' :: rest) = some ([], rest) := by
  rw [readChars.eq_def]
  rfl

/-- Escaped surrogate pairs are one code point. -/
def joinPairs : List CodePoint → List CodePoint
  | [] => []
  | .surrogate high :: rest =>
      match rest with
      | .surrogate low :: more =>
          if high.val < 0x400 ∧ 0x400 ≤ low.val then
            .scalar (Char.ofNat (0x10000 + high.val * 0x400 + (low.val - 0x400)))
              :: joinPairs more
          else .surrogate high :: joinPairs (.surrogate low :: more)
      | more => .surrogate high :: joinPairs more
  | .scalar char :: rest => .scalar char :: joinPairs rest

/-- A string whose opening quote has been read. -/
def readStr (input : List Char) : Option (PyStr × List Char) :=
  (readChars input).map (fun parts => (⟨joinPairs parts.1⟩, parts.2))

def readNat (input : List Char) : Option (Nat × List Char) :=
  let digits := input.takeWhile Char.isDigit
  if digits = [] then none
  else some (Nat.ofDigitChars 10 digits 0, input.dropWhile Char.isDigit)

def readInt : List Char → Option (Int × List Char)
  | [] => none
  | head :: rest =>
      if head = '-' then (readNat rest).map (fun parts => (-(parts.1 : Int), parts.2))
      else (readNat (head :: rest)).map (fun parts => ((parts.1 : Int), parts.2))

/-- The named constants. -/
def constants : List (List Char × Json) :=
  [
    (['n', 'u', 'l', 'l'], .null),
    (['t', 'r', 'u', 'e'], .bool true),
    (['f', 'a', 'l', 's', 'e'], .bool false),
    (['N', 'a', 'N'], .float .nan),
    (['I', 'n', 'f', 'i', 'n', 'i', 't', 'y'], .float .posInf),
    (['-', 'I', 'n', 'f', 'i', 'n', 'i', 't', 'y'], .float .negInf)
  ]

def readConstant (input : List Char) : Option (Json × List Char) :=
  (constants.find? (fun entry => entry.1.isPrefixOf input)).map
    (fun entry => (entry.2, input.drop entry.1.length))

mutual
/-- A value at the start of the input, and what follows it. -/
def readValue : Nat → List Char → Option (Json × List Char)
  | 0, _ => none
  | _ + 1, [] => none
  | fuel + 1, head :: rest =>
      if head = '"' then (readStr rest).map (fun parts => (.str parts.1, parts.2))
      else if head = '[' then
        match skipSpace rest with
        | ']' :: after => some (.list [], after)
        | inner => (readItems fuel inner).map (fun parts => (.list parts.1, parts.2))
      else if head = '{' then
        match skipSpace rest with
        | '}' :: after => some (.dict [], after)
        | inner => (readEntries fuel inner).map (fun parts => (.dict parts.1, parts.2))
      else
        match readInt (head :: rest) with
        | some parts => some (.int parts.1, parts.2)
        | none => readConstant (head :: rest)

/-- The items up to the closing bracket. -/
def readItems : Nat → List Char → Option (List Json × List Char)
  | 0, _ => none
  | fuel + 1, input => do
      let (head, after) ← readValue fuel input
      match skipSpace after with
      | ']' :: after => some ([head], after)
      | ',' :: more => do
          let (rest, after) ← readItems fuel (skipSpace more)
          return (head :: rest, after)
      | _ => none

/-- The entries up to the closing brace. -/
def readEntries : Nat → List Char → Option (List (PyStr × Json) × List Char)
  | fuel + 1, '"' :: input => do
      let (key, after) ← readStr input
      match skipSpace after with
      | ':' :: after => do
          let (value, after) ← readValue fuel (skipSpace after)
          match skipSpace after with
          | '}' :: after => some ([(key, value)], after)
          | ',' :: more => do
              let (rest, after) ← readEntries fuel (skipSpace more)
              return ((key, value) :: rest, after)
          | _ => none
      | _ => none
  | _, _ => none
end

theorem readValue_quote (fuel : Nat) (rest : List Char)
    : readValue (fuel + 1) ('"' :: rest)
      = (readStr rest).map (fun parts => (.str parts.1, parts.2)) := by
  rw [readValue]
  rfl

/-- A whole text: one value between blanks. Every level of the value takes two units of
fuel and at least one character.
-/
def read (input : List Char) : Option Json := do
  let (value, after) ← readValue (2 * input.length + 1) (skipSpace input)
  if skipSpace after = [] then return value else none

-----------------------------------------------------------------------------------------
-- Reading strings back
-----------------------------------------------------------------------------------------

theorem hexValue?_hexDigit (number : Nat) : hexValue? (hexDigit number) = some (number % 16) := by
  have table : ∀ digit < 16, hexValue? digit.digitChar = some digit := by decide
  exact table (number % 16) (Nat.mod_lt _ (by decide))

/-- The four digits of a code unit are read back as the code point it stands for. -/
theorem readUnit_escapeUnit {unit : Nat} (h : unit < 0x10000)
    : readUnit (hexDigit (unit / 4096)) (hexDigit (unit / 256)) (hexDigit (unit / 16))
          (hexDigit unit)
      = some (ofUnit unit) := by
  have whole : ((unit / 4096 % 16 * 16 + unit / 256 % 16) * 16 + unit / 16 % 16) * 16
      + unit % 16 = unit := by omega
  simp [readUnit, hexValue?_hexDigit, whole]

/-- A short escape is read as the character its letter stands for. -/
theorem readChars_short {letter : Char} {entry : Char × Char} (notUnit : letter ≠ 'u')
    (notSlash : letter ≠ '/')
    (h : shortEscapes.find? (fun other => other.2 = letter) = some entry) (rest : List Char)
    : readChars ('\\' :: letter :: rest)
      = (readChars rest).map (fun parts => (.scalar entry.1 :: parts.1, parts.2)) := by
  rw [readChars.eq_def]
  simp only [if_neg notUnit, if_neg notSlash, h]
  cases readChars rest <;> rfl

/-- A character that needs no escape is read as itself. -/
theorem readChars_plain {char : Char} (notQuote : char ≠ '"') (notSlash : char ≠ '\\')
    (h : 32 ≤ char.toNat) (rest : List Char)
    : readChars (char :: rest)
      = (readChars rest).map (fun parts => (.scalar char :: parts.1, parts.2)) := by
  rw [readChars.eq_def]
  simp only [if_neg notQuote, if_neg notSlash, if_neg (show ¬char.toNat < 32 by omega)]
  cases readChars rest <;> rfl

/-- An escaped code unit is read as one code point. -/
theorem readChars_escapeUnit {unit : Nat} (h : unit < 0x10000) (rest : List Char)
    : readChars (escapeUnit unit ++ rest)
      = (readChars rest).map (fun parts => (ofUnit unit :: parts.1, parts.2)) := by
  rw [escapeUnit, List.cons_append, readChars.eq_def]
  simp only [List.cons_append, List.nil_append, readUnit_escapeUnit h]
  cases readChars rest <;> rfl

/-- What a reader sees of a character before pairs are joined. -/
def units (char : Char) : List CodePoint :=
  if char.toNat < 0x10000 then [.scalar char]
  else
    [
      ofUnit (0xD800 + (char.toNat - 0x10000) / 0x400),
      ofUnit (0xDC00 + (char.toNat - 0x10000) % 0x400)
    ]

theorem char_toNat_lt (char : Char) : char.toNat < 0x110000 := by
  rcases char.valid with low | ⟨_, high⟩
  · exact Nat.lt_trans low (by decide)
  · exact high

theorem ofUnit_char (char : Char) : ofUnit char.toNat = .scalar char := by
  have outside : ¬(0xD800 ≤ char.toNat ∧ char.toNat < 0xE000) := by
    rcases char.valid with low | ⟨high, _⟩
    · exact fun bad => absurd bad.1 (Nat.not_le.mpr low)
    · exact fun bad => absurd bad.2 (Nat.not_lt.mpr high)
  simp [ofUnit, outside]

/-- A written character is read as its code units. -/
theorem readChars_escape (char : Char) (rest : List Char)
    : readChars (escape (.scalar char) ++ rest)
      = (readChars rest).map (fun parts => (units char ++ parts.1, parts.2)) := by
  cases found : shortEscapes.find? (fun entry => entry.1 = char) with
  | some entry =>
      have known := List.find?_some found
      have same : entry.1 = char := by simpa using known
      subst same
      have table : ∀ entry ∈ shortEscapes,
          units entry.1 = [.scalar entry.1] ∧ entry.2 ≠ 'u' ∧ entry.2 ≠ '/'
          ∧ shortEscapes.find? (fun other => other.2 = entry.2) = some entry := by
        decide
      obtain ⟨single, notUnit, notSlash, back⟩ := table entry (List.mem_of_find?_eq_some found)
      simp only [escape, found, List.cons_append, List.nil_append, single,
        readChars_short notUnit notSlash back]
  | none =>
      have absent : ∀ entry ∈ shortEscapes, entry.1 ≠ char := by
        simpa using List.find?_eq_none.mp found
      simp only [escape, found]
      split
      · rename_i printable
        have notQuote : char ≠ '"' := Ne.symm (absent ('"', '"') (by decide))
        have notSlash : char ≠ '\\' := Ne.symm (absent ('\\', '\\') (by decide))
        simp only [List.cons_append, List.nil_append, units,
          if_pos (show char.toNat < 0x10000 by omega),
          readChars_plain notQuote notSlash printable.1]
      · split
        · rename_i plane
          rw [readChars_escapeUnit plane, ofUnit_char, units, if_pos plane]
          rfl
        · rename_i beyond
          have limit := char_toNat_lt char
          rw [List.append_assoc, readChars_escapeUnit (by omega),
            readChars_escapeUnit (by omega), units, if_neg beyond]
          cases readChars rest <;> simp

/-- Joining pairs undoes the split of a character into code units. -/
theorem joinPairs_units (char : Char) (rest : List CodePoint)
    : joinPairs (units char ++ rest) = .scalar char :: joinPairs rest := by
  unfold units
  split
  · simp [joinPairs]
  · rename_i beyond
    have limit := char_toNat_lt char
    have high : (0xD800 ≤ 0xD800 + (char.toNat - 0x10000) / 0x400
        ∧ 0xD800 + (char.toNat - 0x10000) / 0x400 < 0xE000) := by omega
    have low : (0xD800 ≤ 0xDC00 + (char.toNat - 0x10000) % 0x400
        ∧ 0xDC00 + (char.toNat - 0x10000) % 0x400 < 0xE000) := by omega
    have pair : 0xD800 + (char.toNat - 0x10000) / 0x400 - 0xD800 < 0x400
        ∧ 0x400 ≤ 0xDC00 + (char.toNat - 0x10000) % 0x400 - 0xD800 := by omega
    have whole : 0x10000 + (0xD800 + (char.toNat - 0x10000) / 0x400 - 0xD800) * 0x400
        + (0xDC00 + (char.toNat - 0x10000) % 0x400 - 0xD800 - 0x400) = char.toNat := by omega
    simp only [ofUnit, dif_pos high, dif_pos low, List.cons_append, List.nil_append,
      joinPairs, if_pos pair, whole, Char.ofNat_toNat]

theorem scalars_spelled {text : PyStr} (h : scalars text = true)
    : ∃ chars : List Char, text.codePoints = chars.map .scalar := by
  obtain ⟨codePoints⟩ := text
  simp only [scalars] at h ⊢
  induction codePoints with
  | nil => exact ⟨[], rfl⟩
  | cons head rest ih =>
      simp only [List.all_cons, Bool.and_eq_true] at h
      obtain ⟨chars, spelled⟩ := ih h.2
      cases head with
      | scalar char => exact ⟨char :: chars, by rw [spelled, List.map_cons]⟩
      | surrogate offset => exact absurd h.1 (by simp [isScalar])

/-- A written string is read back, by induction on its characters. -/
theorem readStr_writeStr {text : PyStr} (h : scalars text = true) (rest : List Char)
    : readStr (text.codePoints.flatMap escape ++ '"' :: rest) = some (text, rest) := by
  obtain ⟨chars, spelled⟩ := scalars_spelled h
  have body : readChars (text.codePoints.flatMap escape ++ '"' :: rest)
      = some (chars.flatMap units, rest) := by
    rw [spelled]
    clear spelled
    induction chars with
    | nil => simp [readChars_quote]
    | cons head tail ih =>
        rw [List.map_cons, List.flatMap_cons, List.append_assoc, readChars_escape, ih]
        simp
  have joined (chars : List Char) : joinPairs (chars.flatMap units) = chars.map .scalar := by
    induction chars with
    | nil => rfl
    | cons head tail ih => rw [List.flatMap_cons, joinPairs_units, ih, List.map_cons]
  simp only [readStr, body, Option.map_some, joined, ← spelled]

-----------------------------------------------------------------------------------------
-- Reading values back
-----------------------------------------------------------------------------------------

/-- What follows a value in a text cannot continue a number. -/
def Ends (rest : List Char) : Prop :=
  ∀ head ∈ rest.head?, head.isDigit = false

/-- A written natural number is read back. -/
theorem readNat_toDigits (number : Nat) {rest : List Char} (h : Ends rest)
    : readNat (Nat.toDigits 10 number ++ rest) = some (number, rest) := by
  have digits : ∀ char ∈ Nat.toDigits 10 number, char.isDigit = true := fun _ member =>
    Nat.isDigit_of_mem_toDigits (by decide) (by decide) member
  have stop : rest.takeWhile Char.isDigit = [] ∧ rest.dropWhile Char.isDigit = rest := by
    cases rest with
    | nil => exact ⟨rfl, rfl⟩
    | cons head tail =>
        have ended : head.isDigit = false := h head rfl
        simp [ended]
  simp only [readNat, List.takeWhile_append_of_pos digits,
    List.dropWhile_append_of_pos digits, stop.1, stop.2, List.append_nil,
    if_neg Nat.toDigits_ne_nil, Nat.ofDigitChars_ten_toDigits]

/-- A digit starts no other kind of value. -/
theorem digit_ne {char : Char} (h : char.isDigit = true)
    : char ≠ '"' ∧ char ≠ '[' ∧ char ≠ '{' ∧ char ≠ '-' := by
  refine ⟨?_, ?_, ?_, ?_⟩
  all_goals
    rintro rfl
    revert h
    decide

/-- A written integer starts with a digit or the sign, and is read back. -/
theorem readInt_writeInt (value : Int) {rest : List Char} (h : Ends rest)
    : ∃ head tail,
        writeInt value = head :: tail
        ∧ head ≠ '"' ∧ head ≠ '[' ∧ head ≠ '{'
        ∧ readInt (head :: (tail ++ rest)) = some (value, rest) := by
  have back := readNat_toDigits value.natAbs h
  unfold writeInt
  split
  · rename_i negative
    refine ⟨'-', _, rfl, by decide, by decide, by decide, ?_⟩
    have same : -(value.natAbs : Int) = value := by omega
    simp only [readInt, if_true, back, Option.map_some, same]
  · rename_i positive
    cases spelled : Nat.toDigits 10 value.natAbs with
    | nil => exact absurd spelled Nat.toDigits_ne_nil
    | cons head tail =>
        have isDigit : head.isDigit = true :=
          Nat.isDigit_of_mem_toDigits (by decide) (by decide)
            (spelled ▸ List.mem_cons_self : head ∈ Nat.toDigits 10 value.natAbs)
        obtain ⟨notQuote, notBracket, notBrace, notSign⟩ := digit_ne isDigit
        refine ⟨head, tail, rfl, notQuote, notBracket, notBrace, ?_⟩
        have same : (value.natAbs : Int) = value := by omega
        rw [spelled, List.cons_append] at back
        simp only [readInt, if_neg notSign, back, Option.map_some, same]

/-- A written value starts with a character that is neither blank nor a closing bracket. -/
theorem write_head (compact : Bool) {value : Json} (h : textual value = true)
    : ∃ head tail,
        write compact value = head :: tail ∧ isSpace head = false ∧ head ≠ ']' := by
  cases value with
  | null => exact ⟨_, _, rfl, by decide, by decide⟩
  | bool value => cases value <;> exact ⟨_, _, rfl, by decide, by decide⟩
  | float value =>
      cases value with
      | finite number => simp [textual] at h
      | posInf => exact ⟨_, _, rfl, by decide, by decide⟩
      | negInf => exact ⟨_, _, rfl, by decide, by decide⟩
      | nan => exact ⟨_, _, rfl, by decide, by decide⟩
  | str text => exact ⟨_, _, rfl, by decide, by decide⟩
  | list items => cases items <;> exact ⟨_, _, rfl, by decide, by decide⟩
  | dict entries => cases entries <;> exact ⟨_, _, rfl, by decide, by decide⟩
  | int value =>
      have space (char : Char) (digit : char.isDigit = true)
          : isSpace char = false ∧ char ≠ ']' := by
        refine ⟨?_, ?_⟩
        · simp only [isSpace, Bool.or_eq_false_iff, decide_eq_false_iff_not]
          refine ⟨⟨⟨?_, ?_⟩, ?_⟩, ?_⟩
          all_goals
            rintro rfl
            revert digit
            decide
        · rintro rfl
          revert digit
          decide
      simp only [write, writeInt]
      split
      · exact ⟨_, _, rfl, by decide, by decide⟩
      · cases spelled : Nat.toDigits 10 value.natAbs with
        | nil => exact absurd spelled Nat.toDigits_ne_nil
        | cons head tail =>
            have isDigit : head.isDigit = true :=
              Nat.isDigit_of_mem_toDigits (by decide) (by decide)
                (spelled ▸ List.mem_cons_self : head ∈ Nat.toDigits 10 value.natAbs)
            exact ⟨head, tail, rfl, space head isDigit⟩

/-- No blank is skipped in front of a written value. -/
theorem skipSpace_write (compact : Bool) {value : Json} (h : textual value = true)
    (rest : List Char)
    : skipSpace (write compact value ++ rest) = write compact value ++ rest := by
  obtain ⟨head, tail, spelled, solid, _⟩ := write_head compact h
  simp [spelled, skipSpace, solid]

theorem ends_writeItems (compact : Bool) (items : List Json) (rest : List Char)
    : Ends (writeItems compact items ++ rest) := by
  cases items <;> cases compact <;> simp [Ends, writeItems, itemSeparator]

theorem ends_writeEntries (compact : Bool) (entries : List (PyStr × Json))
    (rest : List Char)
    : Ends (writeEntries compact entries ++ rest) := by
  cases entries with
  | nil => simp [Ends, writeEntries]
  | cons head tail =>
      obtain ⟨key, value⟩ := head
      cases compact <;> simp [Ends, writeEntries, itemSeparator]

theorem writeStr_append (text : PyStr) (rest : List Char)
    : writeStr text ++ rest = '"' :: (text.codePoints.flatMap escape ++ '"' :: rest) := by
  simp [writeStr]

theorem one_le_writeStr (text : PyStr) : 1 ≤ (writeStr text).length := by
  simp [writeStr]

/-- The separators are read past: what follows starts with no blank. -/
theorem skipSpace_separator {separator : Char} (compact : Bool) {rest : List Char}
    (solid : isSpace separator = false) (h : skipSpace rest = rest)
    : ∃ more,
        skipSpace ((if compact then [separator] else [separator, ' ']) ++ rest)
            = separator :: more
        ∧ skipSpace more = rest := by
  cases compact with
  | true => exact ⟨rest, by simp [skipSpace, solid], h⟩
  | false =>
      refine ⟨' ' :: rest, by simp [skipSpace, solid], ?_⟩
      simpa [skipSpace, isSpace] using h

theorem readValue_writeInt (fuel : Nat) (value : Int) {rest : List Char} (h : Ends rest)
    : readValue (fuel + 1) (writeInt value ++ rest) = some (.int value, rest) := by
  obtain ⟨head, tail, spelled, notQuote, notBracket, notBrace, back⟩ :=
    readInt_writeInt value h
  rw [spelled, List.cons_append, readValue, if_neg notQuote, if_neg notBracket,
    if_neg notBrace, back]

/-- A bracket opens a list whose first item starts with no blank or closing bracket. -/
theorem readValue_bracket {fuel : Nat} {head : Char} {tail : List Char}
    (solid : isSpace head = false) (notClosing : head ≠ ']')
    : readValue (fuel + 1) ('[' :: head :: tail)
      = (readItems fuel (head :: tail)).map (fun parts => (.list parts.1, parts.2)) := by
  have start : skipSpace (head :: tail) = head :: tail := by
    simp [skipSpace, solid]
  simp only [readValue, Char.reduceEq, if_false, if_true, start]
  split
  · rename_i closing
    simp only [List.cons.injEq] at closing
    exact absurd closing.1 notClosing
  · rfl

/-- A brace opens a dictionary whose first key starts with its quote. -/
theorem readValue_brace {fuel : Nat} {tail : List Char}
    : readValue (fuel + 1) ('{' :: '"' :: tail)
      = (readEntries fuel ('"' :: tail)).map (fun parts => (.dict parts.1, parts.2)) := by
  have start : skipSpace ('"' :: tail) = '"' :: tail := by
    simp [skipSpace, isSpace]
  simp only [readValue, Char.reduceEq, if_false, if_true, start]
  rfl

/-- Reading an entry reads its key, the colon and its value, and goes on from there. -/
theorem readEntries_entry {compact : Bool} {fuel : Nat} {key : PyStr} {value : Json}
    {rest : List Char} (plainKey : scalars key = true) (plain : textual value = true)
    (h : readValue fuel (write compact value ++ rest) = some (value, rest))
    : readEntries (fuel + 1)
          (writeStr key ++ (keySeparator compact ++ (write compact value ++ rest)))
      = match skipSpace rest with
        | '}' :: after => some ([(key, value)], after)
        | ',' :: more =>
            (readEntries fuel (skipSpace more)).map
              (fun parts => ((key, value) :: parts.1, parts.2))
        | _ => none := by
  obtain ⟨more, atColon, skipped⟩ :=
    skipSpace_separator compact (by decide : isSpace ':' = false)
      (skipSpace_write compact plain rest)
  simp only [writeStr_append, readEntries, readStr_writeStr plainKey, Option.bind_eq_bind,
    Option.bind_some, keySeparator, atColon, skipped, h]
  split
  · rfl
  · rename_i after _
    cases readEntries fuel (skipSpace after) <;> rfl
  · rfl

mutual
/-- A written value is read back in front of any text that ends it, by induction on the
value. Fuel is needed for two units a character.
-/
theorem readValue_write (compact : Bool)
    : ∀ (value : Json) (fuel : Nat) (rest : List Char),
        textual value = true
        → Ends rest
        → 2 * (write compact value ++ rest).length + 1 ≤ fuel
        → readValue fuel (write compact value ++ rest) = some (value, rest)
  | _, 0, _, _, _, enough => by omega
  | .null, _ + 1, _, _, _, _ => rfl
  | .bool true, _ + 1, _, _, _, _ => rfl
  | .bool false, _ + 1, _, _, _, _ => rfl
  | .float .nan, _ + 1, _, _, _, _ => rfl
  | .float .posInf, _ + 1, _, _, _, _ => rfl
  | .float .negInf, _ + 1, _, _, _, _ => rfl
  | .float (.finite _), _ + 1, _, plain, _, _ => by simp [textual] at plain
  | .int value, fuel + 1, rest, _, ends, _ => readValue_writeInt fuel value ends
  | .str text, fuel + 1, rest, plain, _, _ => by
      simp only [textual] at plain
      simp only [write, writeStr_append, readValue_quote, readStr_writeStr plain,
        Option.map_some]
  | .list [], _ + 1, _, _, _, _ => rfl
  | .list (head :: items), fuel + 1, rest, plain, _, enough => by
      simp only [textual, textualItems, Bool.and_eq_true] at plain
      simp only [write, List.cons_append, List.length_cons, List.append_assoc] at enough ⊢
      have inner := readItems_write compact head items fuel rest plain.1 plain.2 (by omega)
      obtain ⟨first, tail, spelled, solid, notClosing⟩ := write_head compact plain.1
      rw [spelled, List.cons_append] at inner ⊢
      rw [readValue_bracket solid notClosing, inner, Option.map_some]
  | .dict [], _ + 1, _, _, _, _ => rfl
  | .dict ((key, value) :: entries), fuel + 1, rest, plain, _, enough => by
      simp only [textual, textualEntries, Bool.and_eq_true] at plain
      simp only [write, List.cons_append, List.length_cons, List.append_assoc] at enough ⊢
      have inner := readEntries_write compact key value entries fuel rest plain.1
        plain.2.1 plain.2.2 (by omega)
      rw [writeStr_append] at inner ⊢
      rw [readValue_brace, inner, Option.map_some]

/-- The items of a written list are read back, by induction on them. -/
theorem readItems_write (compact : Bool)
    : ∀ (head : Json) (items : List Json) (fuel : Nat) (rest : List Char),
        textual head = true
        → textualItems items = true
        → 2 * (write compact head ++ (writeItems compact items ++ rest)).length + 2 ≤ fuel
        → readItems fuel (write compact head ++ (writeItems compact items ++ rest))
          = some (head :: items, rest)
  | _, _, 0, _, _, _, enough => by omega
  | head, [], fuel + 1, rest, plain, _, enough => by
      have first := readValue_write compact head fuel (writeItems compact [] ++ rest) plain
        (ends_writeItems compact [] rest) (by omega)
      simp only [readItems, first]
      rfl
  | head, next :: items, fuel + 1, rest, plain, plainItems, enough => by
      simp only [textualItems, Bool.and_eq_true] at plainItems
      have first := readValue_write compact head fuel
        (writeItems compact (next :: items) ++ rest) plain
        (ends_writeItems compact (next :: items) rest) (by omega)
      have start := skipSpace_write compact plainItems.1 (writeItems compact items ++ rest)
      obtain ⟨more, atComma, skipped⟩ :=
        skipSpace_separator compact (by decide : isSpace ',' = false) start
      have others := readItems_write compact next items fuel rest plainItems.1 plainItems.2
        (by
          obtain ⟨first, tail, spelled, _⟩ := write_head compact plain
          have long : 1 ≤ (itemSeparator compact).length := by cases compact <;> decide
          simp only [writeItems, spelled, List.length_append, List.length_cons] at enough ⊢
          omega)
      simp only [readItems, first, Option.bind_eq_bind, Option.bind_some]
      simp only [writeItems, itemSeparator, List.append_assoc, atComma, skipped, others]
      rfl

/-- The entries of a written dictionary are read back, by induction on them. -/
theorem readEntries_write (compact : Bool)
    : ∀ (key : PyStr) (value : Json) (entries : List (PyStr × Json)) (fuel : Nat)
        (rest : List Char),
        scalars key = true
        → textual value = true
        → textualEntries entries = true
        → 2 * (writeStr key ++ (keySeparator compact
            ++ (write compact value ++ (writeEntries compact entries ++ rest)))).length + 1
          ≤ fuel
        → readEntries fuel (writeStr key ++ (keySeparator compact
            ++ (write compact value ++ (writeEntries compact entries ++ rest))))
          = some ((key, value) :: entries, rest)
  | _, _, _, 0, _, _, _, _, enough => by omega
  | key, value, [], fuel + 1, rest, plainKey, plain, _, enough => by
      have first := readValue_write compact value fuel (writeEntries compact [] ++ rest)
        plain (ends_writeEntries compact [] rest)
        (by
          have quoted := one_le_writeStr key
          simp only [List.length_append] at enough ⊢
          omega)
      rw [readEntries_entry plainKey plain first]
      rfl
  | key, value, (nextKey, next) :: entries, fuel + 1, rest, plainKey, plain, plainRest,
      enough => by
      simp only [textualEntries, Bool.and_eq_true] at plainRest
      have first := readValue_write compact value fuel
        (writeEntries compact ((nextKey, next) :: entries) ++ rest) plain
        (ends_writeEntries compact _ rest)
        (by
          have quoted := one_le_writeStr key
          simp only [List.length_append] at enough ⊢
          omega)
      have others := readEntries_write compact nextKey next entries fuel rest plainRest.1
        plainRest.2.1 plainRest.2.2
        (by
          have quoted := one_le_writeStr key
          simp only [writeEntries, List.length_append] at enough ⊢
          omega)
      have start : skipSpace (writeStr nextKey ++ (keySeparator compact
          ++ (write compact next ++ (writeEntries compact entries ++ rest))))
          = writeStr nextKey ++ (keySeparator compact
            ++ (write compact next ++ (writeEntries compact entries ++ rest))) := by
        simp [writeStr_append, skipSpace, isSpace]
      obtain ⟨more, atComma, skipped⟩ :=
        skipSpace_separator compact (by decide : isSpace ',' = false) start
      rw [readEntries_entry plainKey plain first]
      simp only [writeEntries, itemSeparator, List.append_assoc, atComma, skipped, others,
        Option.map_some]
end

/-- Reading inverts writing, with either separators. -/
theorem read_write (compact : Bool) {value : Json} (h : textual value = true)
    : read (write compact value) = some value := by
  have whole := readValue_write compact value (2 * (write compact value).length + 1) [] h
    (by simp [Ends]) (by simp)
  have start := skipSpace_write compact h []
  simp only [List.append_nil] at whole start
  simp only [read, start, whole, Option.bind_eq_bind, Option.bind_some]
  rfl

end PyJwt.Python.JsonText
