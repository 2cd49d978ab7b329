import PyJwt.Foundations.Base64

/-! What the lenient Base64 decoder accepts. It drops foreign bytes wherever they stand, so all
that counts is how many digits there are, and where the padding stands among them.
-/

namespace Foundations.Base64

/-- The number of digits of the alphabet. -/
def digitCount (input : List UInt8) : Nat :=
  input.countP (fun byte => (value? byte).isSome)

@[simp] theorem digitCount_nil : digitCount [] = 0 := rfl

@[simp] theorem digitCount_append (left right : List UInt8)
    : digitCount (left ++ right) = digitCount left + digitCount right :=
  List.countP_append

theorem digitCount_cons_digit {byte : UInt8} {value : Nat} (isDigit : value? byte = some value)
    (rest : List UInt8)
    : digitCount (byte :: rest) = digitCount rest + 1 := by
  simp [digitCount, isDigit]

theorem digitCount_cons_foreign {byte : UInt8} (foreign : value? byte = none)
    (rest : List UInt8)
    : digitCount (byte :: rest) = digitCount rest := by
  simp [digitCount, foreign]

theorem value?_pad : value? pad = none := by
  decide

@[simp] theorem digitCount_cons_pad (rest : List UInt8)
    : digitCount (pad :: rest) = digitCount rest :=
  digitCount_cons_foreign value?_pad rest

-----------------------------------------------------------------------------------------
-- Quads closed by padding
-----------------------------------------------------------------------------------------

/-- There was padding since the last digit, `pads` times before the bytes began. -/
def PadSince (pads : Nat) (before : List UInt8) : Prop :=
  (∃ first middle, before = first ++ pad :: middle ∧ digitCount middle = 0)
  ∨ digitCount before = 0 ∧ pads = 1

theorem padSince_nil {pads : Nat} : PadSince pads [] ↔ pads = 1 := by
  simp [PadSince]

/-- A byte other than padding stands at the head of what comes before the padding. -/
theorem cons_eq_append_pad {byte : UInt8} (notPad : byte ≠ pad) {before : List UInt8}
    {holds : List UInt8 → Prop}
    : (∃ first middle, byte :: before = first ++ pad :: middle ∧ holds middle)
      ↔ ∃ first middle, before = first ++ pad :: middle ∧ holds middle := by
  constructor
  · intro h
    obtain ⟨first, middle, same, held⟩ := h
    cases first with
    | nil => exact absurd (List.cons.inj same).1 notPad
    | cons head first => exact ⟨first, middle, (List.cons.inj same).2, held⟩
  · intro h
    obtain ⟨first, middle, rfl, held⟩ := h
    exact ⟨byte :: first, middle, rfl, held⟩

theorem padSince_cons_digit {byte : UInt8} {value : Nat} (isDigit : value? byte = some value)
    (pads : Nat) (before : List UInt8)
    : PadSince pads (byte :: before) ↔ PadSince 0 before := by
  have notPad : byte ≠ pad := by
    intro same
    rw [same, value?_pad] at isDigit
    cases isDigit
  unfold PadSince
  rw [cons_eq_append_pad notPad, digitCount_cons_digit isDigit]
  simp

theorem padSince_cons_foreign {byte : UInt8} (notPad : byte ≠ pad)
    (foreign : value? byte = none) (pads : Nat) (before : List UInt8)
    : PadSince pads (byte :: before) ↔ PadSince pads before := by
  unfold PadSince
  rw [cons_eq_append_pad notPad, digitCount_cons_foreign foreign]

theorem padSince_cons_pad (before : List UInt8)
    : PadSince 0 (pad :: before) ↔ PadSince 1 before := by
  unfold PadSince
  constructor
  · intro h
    rcases h with ⟨first, middle, same, clean⟩ | ⟨_, impossible⟩
    · cases first with
      | nil => exact Or.inr ⟨(List.cons.inj same).2 ▸ clean, rfl⟩
      | cons head first => exact Or.inl ⟨first, middle, (List.cons.inj same).2, clean⟩
    · cases impossible
  · intro h
    rcases h with ⟨first, middle, rfl, clean⟩ | ⟨clean, _⟩
    · exact Or.inl ⟨pad :: first, middle, rfl, clean⟩
    · exact Or.inl ⟨[], before, rfl, clean⟩

/-- Padding ends the bytes before `before` at a third digit of a quad, or at a second one if
there was padding since.
-/
def ClosesAt (quadPos pads : Nat) (before : List UInt8) : Prop :=
  (quadPos + digitCount before) % 4 = 3
  ∨ (quadPos + digitCount before) % 4 = 2 ∧ PadSince pads before

theorem closesAt_nil {quadPos pads : Nat} (inQuad : quadPos < 4)
    : ClosesAt quadPos pads [] ↔ quadPos = 3 ∨ quadPos = 2 ∧ pads = 1 := by
  unfold ClosesAt
  rw [padSince_nil, digitCount_nil, Nat.add_zero, Nat.mod_eq_of_lt inQuad]

theorem closesAt_cons_foreign {byte : UInt8} (notPad : byte ≠ pad)
    (foreign : value? byte = none) (quadPos pads : Nat) (before : List UInt8)
    : ClosesAt quadPos pads (byte :: before) ↔ ClosesAt quadPos pads before := by
  unfold ClosesAt
  rw [digitCount_cons_foreign foreign, padSince_cons_foreign notPad foreign]

/-- A digit goes on to the next position, modulo four, and forgets earlier padding. -/
theorem closesAt_cons_digit {byte : UInt8} {value : Nat} (isDigit : value? byte = some value)
    {quadPos quadPos' : Nat} (same : quadPos' % 4 = (quadPos + 1) % 4) (pads : Nat)
    (before : List UInt8)
    : ClosesAt quadPos pads (byte :: before) ↔ ClosesAt quadPos' 0 before := by
  have count : (quadPos + (digitCount before + 1)) % 4 = (quadPos' + digitCount before) % 4 := by
    omega
  unfold ClosesAt
  rw [digitCount_cons_digit isDigit, padSince_cons_digit isDigit, count]

/-- Padding after a second digit is remembered. -/
theorem closesAt_cons_pad (quadPos : Nat) (before : List UInt8)
    : ClosesAt quadPos 0 (pad :: before) ↔ ClosesAt quadPos 1 before := by
  unfold ClosesAt
  rw [digitCount_cons_pad, padSince_cons_pad]

/-- Earlier padding is forgotten: a second digit has yet to come. -/
theorem closesAt_cons_early_pad {quadPos : Nat} (early : quadPos < 2) (before : List UInt8)
    : ClosesAt quadPos 0 (pad :: before) ↔ ClosesAt quadPos 0 before := by
  rw [closesAt_cons_pad]
  unfold ClosesAt
  refine or_congr_right (and_congr_right (fun second => ?_))
  have digits : digitCount before ≠ 0 := by omega
  unfold PadSince
  refine or_congr_right (iff_of_false ?_ ?_)
  · exact fun h => digits h.1
  · exact fun h => digits h.1

/-- Some padding closes an incomplete quad. -/
def Closes (quadPos pads : Nat) (input : List UInt8) : Prop :=
  ∃ before after, input = before ++ pad :: after ∧ ClosesAt quadPos pads before

theorem not_closes_nil {quadPos pads : Nat} : ¬Closes quadPos pads [] := by
  intro h
  obtain ⟨before, after, same, _⟩ := h
  exact List.append_ne_nil_of_right_ne_nil before (List.cons_ne_nil pad after) same.symm

/-- A byte that is no padding, or does not close the quad, only moves on what comes before the
padding that does.
-/
theorem closes_cons {byte : UInt8} {quadPos pads quadPos' pads' : Nat}
    (notHere : byte = pad → ¬ClosesAt quadPos pads [])
    (moves : ∀ before,
      ClosesAt quadPos pads (byte :: before) ↔ ClosesAt quadPos' pads' before)
    (rest : List UInt8)
    : Closes quadPos pads (byte :: rest) ↔ Closes quadPos' pads' rest := by
  constructor
  · intro h
    obtain ⟨before, after, same, closes⟩ := h
    cases before with
    | nil => exact absurd closes (notHere (List.cons.inj same).1)
    | cons head before =>
        obtain ⟨rfl, tail⟩ := List.cons.inj same
        exact ⟨before, after, tail, (moves before).mp closes⟩
  · intro h
    obtain ⟨before, after, rfl, closes⟩ := h
    exact ⟨byte :: before, after, rfl, (moves before).mpr closes⟩

-----------------------------------------------------------------------------------------
-- The decoder
-----------------------------------------------------------------------------------------

/-- The decoder returns. -/
def Accepts {ε α : Type} (outcome : Except ε α) : Prop := ∃ value, outcome = .ok value

theorem accepts_ok {ε α : Type} (value : α) : Accepts (.ok value : Except ε α) := ⟨value, rfl⟩

theorem not_accepts_error {ε α : Type} (error : ε) : ¬Accepts (.error error : Except ε α) := by
  intro h
  obtain ⟨_, impossible⟩ := h
  cases impossible

theorem accepts_map {ε α β : Type} {outcome : Except ε α} {f : α → β}
    : Accepts (outcome.map f) ↔ Accepts outcome := by
  cases outcome with
  | ok value => exact iff_of_true (accepts_ok _) (accepts_ok _)
  | error error => exact iff_of_false (not_accepts_error _) (not_accepts_error _)

/-- The loop returns exactly when padding closes an incomplete quad or the digits fill their
quads, by induction on the input.
-/
theorem accepts_decodeFrom {quadPos leftChar pads : Nat} (inQuad : quadPos < 4)
    (padded : pads = 0 ∨ pads = 1 ∧ quadPos = 2) (input : List UInt8)
    : Accepts (decodeFrom quadPos leftChar pads input)
      ↔ Closes quadPos pads input ∨ (quadPos + digitCount input) % 4 = 0 := by
  induction input generalizing quadPos leftChar pads with
  | nil =>
      rw [or_iff_right not_closes_nil, digitCount_nil]
      unfold decodeFrom
      split
      · rename_i start
        exact iff_of_true (accepts_ok _) (by omega)
      · split
        · exact iff_of_false (not_accepts_error _) (by omega)
        · exact iff_of_false (not_accepts_error _) (by omega)
  | cons byte rest ih =>
      by_cases isPad : byte = pad
      · subst isPad
        have closesNow := @closesAt_nil quadPos pads inQuad
        rw [decodeFrom, if_pos rfl, digitCount_cons_pad]
        split
        · rename_i inside
          split
          · rename_i full
            refine iff_of_true (accepts_ok _) (Or.inl ⟨[], rest, rfl, closesNow.mpr ?_⟩)
            omega
          · rename_i notFull
            obtain ⟨rfl, rfl⟩ : quadPos = 2 ∧ pads = 0 := by omega
            have notYet : ¬ClosesAt 2 0 [] := by
              rw [closesNow]
              decide
            rw [ih (by decide) (Or.inr ⟨rfl, rfl⟩),
              closes_cons (fun _ => notYet) (closesAt_cons_pad 2)]
        · rename_i outside
          obtain rfl : pads = 0 := by omega
          have notYet : ¬ClosesAt quadPos 0 [] := by
            rw [closesNow]
            omega
          rw [ih inQuad (Or.inl rfl),
            closes_cons (fun _ => notYet) (closesAt_cons_early_pad (by omega))]
      · cases found : value? byte with
        | none =>
            rw [decodeFrom, if_neg isPad, digitCount_cons_foreign found,
              closes_cons (absurd · isPad) (closesAt_cons_foreign isPad found quadPos pads)]
            simp only [found]
            exact ih inQuad padded
        | some value =>
            have next (quadPos' : Nat) (same : quadPos' % 4 = (quadPos + 1) % 4)
                : Closes quadPos pads (byte :: rest)
                    ∨ (quadPos + digitCount (byte :: rest)) % 4 = 0
                  ↔ Closes quadPos' 0 rest ∨ (quadPos' + digitCount rest) % 4 = 0 := by
              rw [closes_cons (absurd · isPad) (closesAt_cons_digit found same pads),
                digitCount_cons_digit found,
                show (quadPos + (digitCount rest + 1)) % 4 = (quadPos' + digitCount rest) % 4
                  by omega]
            rw [decodeFrom, if_neg isPad]
            simp only [found]
            split
            · rw [next 1 (by omega)]
              exact ih (by decide) (Or.inl rfl)
            · split
              · rw [next 2 (by omega), accepts_map]
                exact ih (by decide) (Or.inl rfl)
              · split
                · rw [next 3 (by omega), accepts_map]
                  exact ih (by decide) (Or.inl rfl)
                · rw [next 0 (by omega), accepts_map]
                  exact ih (by decide) (Or.inl rfl)

/-- The decoder returns exactly when padding closes an incomplete quad or the digits fill their
quads.
-/
theorem accepts_decode (input : List UInt8)
    : Accepts (decode input) ↔ Closes 0 0 input ∨ digitCount input % 4 = 0 := by
  have loop := @accepts_decodeFrom 0 0 0 (by decide) (Or.inl rfl) input
  rw [Nat.zero_add] at loop
  exact loop

-----------------------------------------------------------------------------------------
-- Appended padding
-----------------------------------------------------------------------------------------

/-- The last byte is padding that closes a quad, or it makes no difference. -/
theorem closes_concat_pad {quadPos pads : Nat} {input : List UInt8}
    : Closes quadPos pads (input ++ [pad])
      ↔ Closes quadPos pads input ∨ ClosesAt quadPos pads input := by
  constructor
  · intro h
    obtain ⟨before, after, same, closes⟩ := h
    rcases List.eq_nil_or_concat after with rfl | ⟨middle, last, rfl⟩
    · obtain ⟨rfl, _⟩ := List.append_inj' same rfl
      exact Or.inr closes
    · rw [List.concat_eq_append, ← List.cons_append, ← List.append_assoc] at same
      exact Or.inl ⟨before, middle, (List.append_inj' same rfl).1, closes⟩
  · intro h
    rcases h with ⟨before, after, rfl, closes⟩ | closes
    · exact ⟨before, after ++ [pad], by simp, closes⟩
    · exact ⟨input, [], rfl, closes⟩

@[simp] theorem digitCount_padding (count : Nat) : digitCount (List.replicate count pad) = 0 := by
  induction count with
  | zero => rfl
  | succ count ih => rw [List.replicate_succ, digitCount_cons_pad, ih]

/-- Appended padding closes a quad at its first byte after three digits, and at its second one
after two, or at its first if there was padding since them. By induction on the padding.
-/
theorem closes_padded {input : List UInt8} {count : Nat}
    : Closes 0 0 (input ++ List.replicate count pad)
      ↔ Closes 0 0 input
        ∨ digitCount input % 4 = 3 ∧ 1 ≤ count
        ∨ digitCount input % 4 = 2 ∧ (2 ≤ count ∨ 1 ≤ count ∧ PadSince 0 input) := by
  have padSince (count : Nat)
      : PadSince 0 (input ++ List.replicate count pad) ↔ 1 ≤ count ∨ PadSince 0 input := by
    cases count with
    | zero => simp
    | succ count =>
        refine iff_of_true (Or.inl ⟨input, List.replicate count pad, ?_, ?_⟩)
          (Or.inl (Nat.succ_pos count))
        · rw [List.replicate_succ]
        · exact digitCount_padding count
  induction count with
  | zero => simp
  | succ count ih =>
      have next : Closes 0 0 (input ++ List.replicate (count + 1) pad)
          ↔ Closes 0 0 (input ++ List.replicate count pad)
            ∨ ClosesAt 0 0 (input ++ List.replicate count pad) := by
        rw [List.replicate_succ', ← List.append_assoc]
        exact closes_concat_pad
      have here : ClosesAt 0 0 (input ++ List.replicate count pad)
          ↔ digitCount input % 4 = 3
            ∨ digitCount input % 4 = 2 ∧ (1 ≤ count ∨ PadSince 0 input) := by
        unfold ClosesAt
        rw [padSince, digitCount_append, digitCount_padding, Nat.zero_add, Nat.add_zero]
      refine next.trans ((or_congr ih here).trans ?_)
      constructor
      · intro h
        rcases h with (closed | ⟨third, _⟩ | ⟨second, more | ⟨_, since⟩⟩)
          | third | ⟨second, more | since⟩
        · exact Or.inl closed
        · exact Or.inr (Or.inl ⟨third, by omega⟩)
        · exact Or.inr (Or.inr ⟨second, Or.inl (by omega)⟩)
        · exact Or.inr (Or.inr ⟨second, Or.inr ⟨by omega, since⟩⟩)
        · exact Or.inr (Or.inl ⟨third, by omega⟩)
        · exact Or.inr (Or.inr ⟨second, Or.inl (by omega)⟩)
        · exact Or.inr (Or.inr ⟨second, Or.inr ⟨by omega, since⟩⟩)
      · intro h
        rcases h with closed | ⟨third, _⟩ | ⟨second, more | ⟨_, since⟩⟩
        · exact Or.inl (Or.inl closed)
        · exact Or.inr (Or.inl third)
        · exact Or.inr (Or.inr ⟨second, Or.inl (by omega)⟩)
        · exact Or.inr (Or.inr ⟨second, Or.inr since⟩)

/-- Input without padding closes no quad of its own. -/
theorem not_closes_of_not_mem {quadPos pads : Nat} {input : List UInt8} (clean : pad ∉ input)
    : ¬Closes quadPos pads input := by
  intro h
  obtain ⟨before, after, rfl, _⟩ := h
  exact clean (by simp)

theorem not_padSince_of_not_mem {input : List UInt8} (clean : pad ∉ input)
    : ¬PadSince 0 input := by
  intro h
  rcases h with ⟨first, middle, rfl, _⟩ | ⟨_, impossible⟩
  · exact clean (by simp)
  · cases impossible

-----------------------------------------------------------------------------------------
-- Bytes that are dropped
-----------------------------------------------------------------------------------------

/-- The decoder reads digits and padding, and drops every other byte. -/
def isRead (byte : UInt8) : Bool := byte = pad || (value? byte).isSome

/-- Without the bytes that it drops, the decoder does the same, by induction on the input. -/
theorem decodeFrom_filter (input : List UInt8)
    : ∀ quadPos leftChar pads,
        decodeFrom quadPos leftChar pads (input.filter isRead)
        = decodeFrom quadPos leftChar pads input := by
  induction input with
  | nil =>
      intro quadPos leftChar pads
      rfl
  | cons byte rest ih =>
      intro quadPos leftChar pads
      by_cases isPad : byte = pad
      · have read : isRead byte = true := by simp [isRead, isPad]
        rw [List.filter_cons_of_pos read]
        simp only [decodeFrom, if_pos isPad, ih]
      · cases digit : value? byte with
        | none =>
            have dropped : ¬isRead byte = true := by simp [isRead, isPad, digit]
            simp only [List.filter_cons_of_neg dropped, decodeFrom, if_neg isPad, digit, ih]
        | some value =>
            have read : isRead byte = true := by simp [isRead, digit]
            simp only [List.filter_cons_of_pos read, decodeFrom, if_neg isPad, digit, ih]

end Foundations.Base64
