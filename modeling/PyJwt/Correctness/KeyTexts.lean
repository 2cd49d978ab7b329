import PyJwt.Correctness.VerifiedDecoding

/-! Which texts are refused as HMAC secrets: the guard is a search for a regular expression,
and this says what it finds.
-/

namespace PyJwt

open Foundations
open Python

-----------------------------------------------------------------------------------------
-- Armour
-----------------------------------------------------------------------------------------

/-- `word` and the label between hyphens; next to them a space may stand for a hyphen. -/
def Marker (word label text : Bytes) : Prop :=
  ∃ left right,
    (left = 45 ∨ left = 32)
    ∧ (right = 45 ∨ right = 32)
    ∧ text = ascii "----" ++ left :: (word ++ (label ++ right :: ascii "----"))

/-- A line feed, or a carriage return and a line feed. -/
def LineEnd (text : Bytes) : Prop :=
  text = ascii "\n" ∨ text = ascii "\r\n"

/-- Somewhere the text holds content between two markers of one label, and line ends separate
it from both.
-/
def ArmourLines (text : Bytes) : Prop :=
  ∃ label ∈ pems,
    ∃ before opening first content last closing after,
      Marker (ascii "BEGIN ") label opening
      ∧ LineEnd first
      ∧ content ≠ []
      ∧ LineEnd last
      ∧ Marker (ascii "END ") label closing
      ∧ text = before ++ (opening ++ (first ++ (content ++ (last ++ closing)))) ++ after

-----------------------------------------------------------------------------------------
-- What the expression matches
-----------------------------------------------------------------------------------------

/-- The part of `_PEM_RE` before its first line end. -/
def openingPattern (labels : List Bytes) : List (Pattern UInt8) :=
  [
    .literal (ascii "----"), hyphenOrSpace, .literal (ascii "BEGIN "),
    .group 1 (.oneOf (labels.map .literal)), hyphenOrSpace, .literal (ascii "----")
  ]

def lineEndPattern : List (Pattern UInt8) :=
  [.opt (.literal (ascii "\r")), .literal (ascii "\n")]

/-- The part of `_PEM_RE` after its second line end. -/
def closingPattern : List (Pattern UInt8) :=
  [
    .literal (ascii "----"), hyphenOrSpace, .literal (ascii "END "), .backref 1,
    hyphenOrSpace, .literal (ascii "----")
  ]

theorem pemRe_eq (labels : List Bytes)
    : pemRe labels
      = .concat (openingPattern labels ++ (lineEndPattern ++ ([.many1 (fun _ => true)]
        ++ (lineEndPattern ++ (closingPattern
          ++ [.opt (.literal (ascii "\r")), .opt (.literal (ascii "\n"))]))))) :=
  rfl

variable {labels : List Bytes} {text : Bytes} {before after : Pattern.Captures UInt8}

theorem matches_hyphenOrSpace_iff
    : Pattern.Matches hyphenOrSpace before text after
      ↔ ∃ byte, text = [byte] ∧ (byte = 45 ∨ byte = 32) ∧ after = before := by
  simp [hyphenOrSpace, Pattern.matches_symbol_iff]

theorem matches_lineEnd_iff
    : Pattern.Matches (.concat lineEndPattern) before text after
      ↔ LineEnd text ∧ after = before := by
  simp only [lineEndPattern, Pattern.matches_concat_cons_iff, Pattern.matches_concat_nil_iff,
    Pattern.matches_opt_iff, Pattern.matches_literal_iff, LineEnd]
  constructor
  · intro h
    obtain ⟨_, _, _, rfl, taken, _, _, _, rfl, ⟨rfl, rfl⟩, rfl, rfl⟩ := h
    rcases taken with ⟨rfl, rfl⟩ | ⟨rfl, rfl⟩
    · exact ⟨Or.inl rfl, rfl⟩
    · exact ⟨Or.inr rfl, rfl⟩
  · intro h
    obtain ⟨rfl | rfl, rfl⟩ := h
    · exact ⟨[], ascii "\n", after, rfl, Or.inl ⟨rfl, rfl⟩, _, [], after, rfl, ⟨rfl, rfl⟩,
        rfl, rfl⟩
    · exact ⟨ascii "\r", ascii "\n", after, rfl, Or.inr ⟨rfl, rfl⟩, _, [], after, rfl,
        ⟨rfl, rfl⟩, rfl, rfl⟩

/-- The opening part matches the marker of a label, and captures the label. -/
theorem matches_opening_iff
    : Pattern.Matches (.concat (openingPattern labels)) before text after
      ↔ ∃ label ∈ labels,
          Marker (ascii "BEGIN ") label text ∧ after = before.set 1 label := by
  simp only [openingPattern, Pattern.matches_concat_cons_iff, Pattern.matches_concat_nil_iff,
    Pattern.matches_literal_iff, Pattern.matches_group_iff, Pattern.matches_oneOf_iff,
    matches_hyphenOrSpace_iff, List.mem_map, Marker]
  constructor
  · intro h
    obtain ⟨_, _, _, rfl, ⟨rfl, rfl⟩, _, _, _, rfl, ⟨left, rfl, isLeft, rfl⟩, _, _, _, rfl,
      ⟨rfl, rfl⟩, label, _, _, rfl, ⟨_, ⟨_, ⟨_, member, rfl⟩, literal⟩, rfl⟩, _, _, _, rfl,
      ⟨right, rfl, isRight, rfl⟩, _, _, _, rfl, ⟨rfl, rfl⟩, rfl, rfl⟩ := h
    obtain ⟨rfl, rfl⟩ := Pattern.matches_literal_iff.mp literal
    exact ⟨label, member, ⟨left, right, isLeft, isRight, by simp⟩, rfl⟩
  · intro h
    obtain ⟨label, member, ⟨left, right, isLeft, isRight, rfl⟩, rfl⟩ := h
    refine ⟨_, _, before, rfl, ⟨rfl, rfl⟩, [left], _, before, rfl, ⟨left, rfl, isLeft, rfl⟩,
      _, _, before, rfl, ⟨rfl, rfl⟩, label, _, _, rfl,
      ⟨before, ⟨_, ⟨label, member, rfl⟩, ?_⟩, rfl⟩, [right], _, _, rfl,
      ⟨right, rfl, isRight, rfl⟩, _, [], _, (List.append_nil _).symm, ⟨rfl, rfl⟩, rfl, rfl⟩
    exact Pattern.matches_literal_iff.mpr ⟨rfl, rfl⟩

/-- The closing part matches the marker of the captured label. -/
theorem matches_closing_iff {label : Bytes} (captured : before 1 = some label)
    : Pattern.Matches (.concat closingPattern) before text after
      ↔ Marker (ascii "END ") label text ∧ after = before := by
  simp only [closingPattern, Pattern.matches_concat_cons_iff, Pattern.matches_concat_nil_iff,
    Pattern.matches_literal_iff, Pattern.matches_backref_iff, matches_hyphenOrSpace_iff,
    Marker]
  constructor
  · intro h
    obtain ⟨_, _, _, rfl, ⟨rfl, rfl⟩, _, _, _, rfl, ⟨left, rfl, isLeft, rfl⟩, _, _, _, rfl,
      ⟨rfl, rfl⟩, _, _, _, rfl, ⟨found, rfl⟩, _, _, _, rfl, ⟨right, rfl, isRight, rfl⟩, _, _,
      _, rfl, ⟨rfl, rfl⟩, rfl, rfl⟩ := h
    obtain rfl := Option.some.inj (captured.symm.trans found)
    exact ⟨⟨left, right, isLeft, isRight, by simp⟩, rfl⟩
  · intro h
    obtain ⟨⟨left, right, isLeft, isRight, rfl⟩, rfl⟩ := h
    exact ⟨_, _, after, rfl, ⟨rfl, rfl⟩, [left], _, after, rfl, ⟨left, rfl, isLeft, rfl⟩,
      _, _, after, rfl, ⟨rfl, rfl⟩, label, _, after, rfl, ⟨captured, rfl⟩, [right], _, after,
      rfl, ⟨right, rfl, isRight, rfl⟩, _, [], after, (List.append_nil _).symm, ⟨rfl, rfl⟩,
      rfl, rfl⟩

/-- What `is_pem_format` finds, for the labels in any order. -/
theorem isPemFormat_iff (order : labels.Perm pems) {key : Bytes}
    : isPemFormat labels key = true ↔ ArmourLines key := by
  unfold isPemFormat ArmourLines
  rw [Pattern.search_iff]
  simp only [pemRe_eq, Pattern.matches_concat_append_iff, matches_opening_iff,
    matches_lineEnd_iff]
  constructor
  · intro h
    obtain ⟨before, _, after, _, rfl, opening, _, _, rfl, ⟨label, member, opens, rfl⟩, first,
      _, _, rfl, ⟨firstEnd, rfl⟩, content, _, _, rfl, body, last, _, _, rfl, ⟨lastEnd, rfl⟩,
      closing, trailing, _, rfl, closes, _⟩ := h
    obtain ⟨_, _, _, rfl, many, rest⟩ := Pattern.matches_concat_cons_iff.mp body
    obtain ⟨rfl, rfl⟩ := Pattern.matches_concat_nil_iff.mp rest
    obtain ⟨nonempty, _, rfl⟩ := Pattern.matches_many1_iff.mp many
    have captured : (Pattern.Captures.set (fun _ => none) 1 label) 1 = some label := rfl
    obtain ⟨isClosing, _⟩ := (matches_closing_iff captured).mp closes
    refine ⟨label, order.mem_iff.mp member, before, opening, first, _, last, closing,
      trailing ++ after, opens, firstEnd, nonempty, lastEnd, isClosing, ?_⟩
    simp
  · intro h
    obtain ⟨label, member, before, opening, first, content, last, closing, after, opens,
      firstEnd, nonempty, lastEnd, closes, rfl⟩ := h
    have captured : (Pattern.Captures.set (fun _ => none) 1 label) 1 = some label := rfl
    refine ⟨before, _, after, Pattern.Captures.set (fun _ => none) 1 label, rfl, opening, _, _,
      rfl, ⟨label, order.mem_iff.mpr member, opens, rfl⟩, first, _, _, rfl, ⟨firstEnd, rfl⟩,
      content, _, _, rfl, ?_, last, _, _, rfl, ⟨lastEnd, rfl⟩, closing, [], _,
      (List.append_nil _).symm, (matches_closing_iff captured).mpr ⟨closes, rfl⟩, ?_⟩
    · exact Pattern.matches_concat_cons_iff.mpr ⟨content, [], _, (List.append_nil _).symm,
        Pattern.matches_many1_iff.mpr ⟨nonempty, fun _ _ => rfl, rfl⟩,
        Pattern.matches_concat_nil_iff.mpr ⟨rfl, rfl⟩⟩
    · exact Pattern.matches_concat_cons_iff.mpr ⟨[], [], _, rfl,
        Pattern.matches_opt_iff.mpr (Or.inl ⟨rfl, rfl⟩),
        Pattern.matches_concat_cons_iff.mpr ⟨[], [], _, rfl,
          Pattern.matches_opt_iff.mpr (Or.inl ⟨rfl, rfl⟩),
          Pattern.matches_concat_nil_iff.mpr ⟨rfl, rfl⟩⟩⟩

-----------------------------------------------------------------------------------------
-- Secrets
-----------------------------------------------------------------------------------------

/-- The bytes are an SSH key, or hold armour on lines of its own. -/
def LooksAsymmetric (text : Bytes) : Prop :=
  isSshKey text = true ∨ ArmourLines text

theorem refuses_iff {env : Env} {text : Bytes}
    : (isPemFormat env.pemOrder text || isSshKey text) = true ↔ LooksAsymmetric text := by
  rw [Bool.or_eq_true, isPemFormat_iff env.pemOrder_perm]
  exact or_comm

/-- A secret is prepared as its bytes, exactly where these do not look asymmetric. -/
theorem HMACAlgorithm.prepareKey_eq_ok {env : Env} {key prepared : Key}
    : prepareKey env key = .ok prepared
      ↔ ∃ text,
          forceBytes key.asText = .ok text
          ∧ ¬LooksAsymmetric text
          ∧ prepared = .bytes text := by
  unfold prepareKey
  refine outcome_bind_eq_ok.trans (exists_congr (fun text => and_congr_right (fun _ => ?_)))
  rw [← @refuses_iff env]
  cases isPemFormat env.pemOrder text || isSshKey text with
  | true => simp
  | false =>
      simp only [Bool.false_eq_true, if_false, not_false_eq_true, true_and]
      constructor
      · intro returned
        exact (Except.ok.inj returned).symm
      · intro same
        rw [same]
        rfl

/-- The bytes of an armour block with these surroundings. -/
def armoured (label before gap body gap' after : Bytes) : Bytes :=
  before ++ (ascii "-----BEGIN " ++ (label ++ (ascii "-----" ++ (gap ++ (body ++ (gap'
    ++ (ascii "-----END " ++ (label ++ ascii "-----")))))))) ++ after

/-- A key is refused as an HMAC secret exactly when it is text or bytes that look asymmetric,
whatever the order of the labels; line ends next to both markers are enough for that.
-/
theorem hmac_prepareKey_refuses_iff (env : Env) (key : Key)
    : ((∃ message,
          HMACAlgorithm.prepareKey env key = .error ⟨.invalidKeyError, message⟩)
        ↔ ∃ text, forceBytes key.asText = .ok text ∧ LooksAsymmetric text)
      ∧ (∀ other : Env,
          HMACAlgorithm.prepareKey other key = HMACAlgorithm.prepareKey env key)
      ∧ ∀ label ∈ pems, ∀ before first gap body gap' after : Bytes,
          LineEnd first
          → body ≠ []
          → LooksAsymmetric
            (armoured label before (first ++ gap) body (gap' ++ ascii "\n") after) := by
  refine ⟨?_, ?_, ?_⟩
  · unfold HMACAlgorithm.prepareKey
    cases encodes : forceBytes key.asText with
    | error error =>
        simp only [outcome_error_bind, reduceCtorEq, false_and, exists_false, iff_false,
          Except.error.injEq]
        intro h
        obtain ⟨message, rfl⟩ := h
        cases text : key.asText with
        | bytes value => simp [text, forceBytes] at encodes
        | other => simp [text, forceBytes] at encodes
        | str value =>
            simp only [text, forceBytes, encodeStr] at encodes
            split at encodes
            · cases encodes
            · cases encodes
    | ok text =>
        simp only [outcome_ok_bind, Except.ok.injEq, exists_eq_left']
        rw [← @refuses_iff env]
        cases (isPemFormat env.pemOrder text || isSshKey text) with
        | true => simp
        | false =>
            simp only [Bool.false_eq_true, if_false, iff_false, not_exists]
            intro message impossible
            cases impossible
  · intro other
    unfold HMACAlgorithm.prepareKey
    have same (text : Bytes)
        : (isPemFormat other.pemOrder text || isSshKey text)
          = (isPemFormat env.pemOrder text || isSshKey text) :=
      Bool.eq_iff_iff.mpr (refuses_iff.trans refuses_iff.symm)
    simp only [same]
  · intro label member before first gap body gap' after firstEnd nonempty
    refine Or.inr ⟨label, member, before, ascii "-----BEGIN " ++ (label ++ ascii "-----"),
      first, gap ++ (body ++ gap'), ascii "\n", ascii "-----END " ++ (label ++ ascii "-----"),
      after, ⟨45, 45, Or.inl rfl, Or.inl rfl, rfl⟩, firstEnd, by simp [nonempty], Or.inl rfl,
      ⟨45, 45, Or.inl rfl, Or.inl rfl, rfl⟩, ?_⟩
    simp [armoured]

/-- A block with a line feed next to each marker is refused. -/
theorem hmac_prepareKey_refuses_iff_lines
    : ∃ message,
        HMACAlgorithm.prepareKey digestEnv
            (.bytes
              (armoured (ascii "PUBLIC KEY") [] (ascii "\n") (ascii "AAAA") (ascii "\n") []))
          = .error ⟨.invalidKeyError, message⟩ := by
  obtain ⟨refused, _, lines⟩ := hmac_prepareKey_refuses_iff digestEnv
    (.bytes (armoured (ascii "PUBLIC KEY") [] (ascii "\n") (ascii "AAAA") (ascii "\n") []))
  exact refused.mpr ⟨_, rfl, lines (ascii "PUBLIC KEY") (by decide) [] (ascii "\n") []
    (ascii "AAAA") [] [] (Or.inl rfl) (by decide)⟩

/-- A block on a single line is accepted as a secret, and the Edwards algorithm gives the same
bytes to the loader of public keys.
-/
theorem hmac_prepareKey_singleLine
    : ascii "PUBLIC KEY" ∈ pems
      ∧ HMACAlgorithm.prepareKey digestEnv
          (.bytes (armoured (ascii "PUBLIC KEY") [] [] (ascii "AAAA") [] []))
        = .ok (.bytes (armoured (ascii "PUBLIC KEY") [] [] (ascii "AAAA") [] []))
      ∧ ∃ keyStr,
          OKPAlgorithm.keyStrAndBytes
              (.bytes (armoured (ascii "PUBLIC KEY") [] [] (ascii "AAAA") [] []))
            = .ok (keyStr, armoured (ascii "PUBLIC KEY") [] [] (ascii "AAAA") [] [])
          ∧ ∀ env : Env,
              OKPAlgorithm.loadKey env keyStr
                  (armoured (ascii "PUBLIC KEY") [] [] (ascii "AAAA") [] [])
                = env.crypto.loadPemPublicKey
                  (armoured (ascii "PUBLIC KEY") [] [] (ascii "AAAA") [] []) := by
  refine ⟨by decide, ?_, ?_⟩
  · have unarmoured : (isPemFormat digestEnv.pemOrder
          (armoured (ascii "PUBLIC KEY") [] [] (ascii "AAAA") [] [])
        || isSshKey (armoured (ascii "PUBLIC KEY") [] [] (ascii "AAAA") [] [])) = false := by
      decide
    unfold HMACAlgorithm.prepareKey
    simp only [Key.asText, forceBytes, outcome_ok_bind, unarmoured, Bool.false_eq_true, if_false]
    rfl
  · have isAscii : ∀ byte ∈ armoured (ascii "PUBLIC KEY") [] [] (ascii "AAAA") [] [],
        byte < 0x80 := by
      decide +kernel
    refine ⟨asciiText (armoured (ascii "PUBLIC KEY") [] [] (ascii "AAAA") [] []), ?_,
      fun env => ?_⟩
    · simp only [OKPAlgorithm.keyStrAndBytes, decodeBytes, decodeUtf8_ascii isAscii,
        outcome_ok_bind]
      rfl
    · unfold OKPAlgorithm.loadKey
      rw [if_pos (by decide)]

end PyJwt
