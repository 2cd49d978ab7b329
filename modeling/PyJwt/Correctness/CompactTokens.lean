import PyJwt.Correctness.VerifiedDecoding
import PyJwt.Foundations.LenientBase64

/-! Which byte strings the token parser accepts. It cuts a token at its first and its last
separator, and its decoder drops foreign bytes, so more than compact tokens get through.
-/

namespace PyJwt

open Foundations
open Python

-----------------------------------------------------------------------------------------
-- Compact tokens
-----------------------------------------------------------------------------------------

/-- URL-safe digits, with padding at the end if at all. -/
def CompactSegment (segment : Bytes) : Prop :=
  ∃ (digits : Bytes) (count : Nat),
    segment = digits ++ List.replicate count Base64.pad
    ∧ ∀ byte ∈ digits, Base64.UrlSafe byte

/-- Three such segments, and the two separators between them. -/
def Compact (jwt : Bytes) : Prop :=
  ∃ header payload crypto,
    CompactSegment header
    ∧ CompactSegment payload
    ∧ CompactSegment crypto
    ∧ jwt = joinSegments [header, payload, crypto]

/-- A compact segment holds padding and URL-safe digits only. -/
theorem CompactSegment.bytes {segment : Bytes} (h : CompactSegment segment)
    : ∀ byte ∈ segment, byte = Base64.pad ∨ Base64.UrlSafe byte := by
  obtain ⟨digits, count, rfl, urlSafe⟩ := h
  intro byte member
  rcases List.mem_append.mp member with digit | padding
  · exact Or.inr (urlSafe byte digit)
  · exact Or.inl (List.eq_of_mem_replicate padding)

/-- A compact token holds no byte but these and the separator. -/
theorem Compact.bytes {jwt : Bytes} (h : Compact jwt)
    : ∀ byte ∈ jwt, byte = dot ∨ byte = Base64.pad ∨ Base64.UrlSafe byte := by
  obtain ⟨header, payload, crypto, headerIs, payloadIs, cryptoIs, rfl⟩ := h
  intro byte member
  rw [joinSegments_triple] at member
  simp only [List.mem_append, List.mem_cons] at member
  rcases member with (first | isDot | second) | isDot | third
  · exact Or.inr (headerIs.bytes byte first)
  · exact Or.inl isDot
  · exact Or.inr (payloadIs.bytes byte second)
  · exact Or.inl isDot
  · exact Or.inr (cryptoIs.bytes byte third)

/-- No segment of a compact token holds a separator. -/
theorem CompactSegment.clean {segment : Bytes} (h : CompactSegment segment) : dot ∉ segment :=
  fun member => absurd (h.bytes dot member) (by decide)

/-- A compact token has exactly two separators. -/
theorem Compact.count {jwt : Bytes} (h : Compact jwt) : jwt.count dot = 2 := by
  obtain ⟨header, payload, crypto, headerIs, payloadIs, cryptoIs, rfl⟩ := h
  rw [joinSegments_triple]
  simp [List.count_eq_zero_of_not_mem headerIs.clean,
    List.count_eq_zero_of_not_mem payloadIs.clean, List.count_eq_zero_of_not_mem cryptoIs.clean]

-----------------------------------------------------------------------------------------
-- What the decoder accepts
-----------------------------------------------------------------------------------------

/-- The letters, digits, hyphens, underscores, pluses and slashes of a piece. -/
def pieceDigits (piece : Bytes) : Nat :=
  Base64.digitCount (piece.map Base64.ofUrlSafe)

/-- The digits of the piece fill their quads, or are closed by its own padding, or by the
padding that the length of the whole piece asks for.
-/
def LenientPiece (piece : Bytes) : Prop :=
  pieceDigits piece % 4 = 0
  ∨ Base64.Closes 0 0 (piece.map Base64.ofUrlSafe)
  ∨ pieceDigits piece % 4 = 3 ∧ piece.length % 4 ≠ 0
  ∨ pieceDigits piece % 4 = 2
    ∧ (piece.length % 4 = 1 ∨ piece.length % 4 = 2
      ∨ piece.length % 4 = 3 ∧ Base64.PadSince 0 (piece.map Base64.ofUrlSafe))

/-- A piece decodes exactly when the counts of its digits and of all its bytes agree so. -/
theorem base64urlDecode_returns_iff (piece : Bytes)
    : (∃ data, base64urlDecode (.bytes piece) = .ok data) ↔ LenientPiece piece := by
  have padded : (if piece.length % 4 > 0
        then piece ++ List.replicate (4 - piece.length % 4) Base64.pad
        else piece)
      = piece ++ List.replicate ((4 - piece.length % 4) % 4) Base64.pad := by
    split
    · rw [Nat.mod_eq_of_lt (by omega : 4 - piece.length % 4 < 4)]
    · rename_i whole
      rw [show piece.length % 4 = 0 by omega]
      simp
  have decodes (input : Bytes)
      : (∃ data, urlsafeB64decode input = .ok data)
        ↔ Base64.Accepts (Base64.decode (input.map Base64.ofUrlSafe)) := by
    unfold urlsafeB64decode Base64.urlsafeDecode Base64.Accepts
    split
    · rename_i data decoded
      exact iff_of_true ⟨data, rfl⟩ ⟨data, decoded⟩
    · rename_i failed
      rw [failed]
      simp
    · rename_i failed
      rw [failed]
      simp
  have padding : Base64.ofUrlSafe Base64.pad = Base64.pad := by decide
  simp only [base64urlDecode, forceBytes, outcome_ok_bind, padded, decodes]
  rw [Base64.accepts_decode, List.map_append, List.map_replicate, padding,
    Base64.closes_padded, Base64.digitCount_append, Base64.digitCount_padding, Nat.add_zero]
  unfold LenientPiece pieceDigits
  constructor
  · intro h
    rcases h with (closed | ⟨third, _⟩ | ⟨second, more | ⟨_, since⟩⟩) | whole
    · exact Or.inr (Or.inl closed)
    · exact Or.inr (Or.inr (Or.inl ⟨third, by omega⟩))
    · exact Or.inr (Or.inr (Or.inr ⟨second, by omega⟩))
    · refine Or.inr (Or.inr (Or.inr ⟨second, ?_⟩))
      by_cases three : piece.length % 4 = 3
      · exact Or.inr (Or.inr ⟨three, since⟩)
      · omega
    · exact Or.inl whole
  · intro h
    rcases h with whole | closed | ⟨third, _⟩ | ⟨second, one | two | ⟨three, since⟩⟩
    · exact Or.inr whole
    · exact Or.inl (Or.inl closed)
    · exact Or.inl (Or.inr (Or.inl ⟨third, by omega⟩))
    · exact Or.inl (Or.inr (Or.inr ⟨second, Or.inl (by omega)⟩))
    · exact Or.inl (Or.inr (Or.inr ⟨second, Or.inl (by omega)⟩))
    · exact Or.inl (Or.inr (Or.inr ⟨second, Or.inr ⟨by omega, since⟩⟩))

/-- A piece without padding decodes exactly when no digit is left over alone, and its other
bytes do not use up the padding that the digits need.
-/
theorem lenientPiece_iff_of_not_mem {piece : Bytes} (clean : Base64.pad ∉ piece)
    : LenientPiece piece
      ↔ pieceDigits piece % 4 = 0
        ∨ pieceDigits piece % 4 = 3 ∧ piece.length % 4 ≠ 0
        ∨ pieceDigits piece % 4 = 2 ∧ (piece.length % 4 = 1 ∨ piece.length % 4 = 2) := by
  have cleanMap : Base64.pad ∉ piece.map Base64.ofUrlSafe := by
    intro member
    obtain ⟨byte, inside, same⟩ := List.mem_map.mp member
    have isPad : byte = Base64.pad := by
      unfold Base64.ofUrlSafe at same
      split at same
      · exact absurd same (by decide)
      · split at same
        · exact absurd same (by decide)
        · exact same
    exact clean (isPad ▸ inside)
  unfold LenientPiece
  rw [or_iff_right (Base64.not_closes_of_not_mem cleanMap)]
  simp [Base64.not_padSince_of_not_mem cleanMap]

-----------------------------------------------------------------------------------------
-- What the parser accepts
-----------------------------------------------------------------------------------------

namespace PyJWS

variable {env : Env}

/-- The token is cut in three at its first and its last separator, its header decodes, and the
other two pieces are accepted and the header is the text of an object, or reading that text
raises what the parser does not expect.
-/
def Slips (env : Env) (jwt : Bytes) : Prop :=
  ∃ (segments : Segments) (data : Bytes),
    jwt = segments.serialize
    ∧ base64urlDecode (.bytes segments.header) = .ok data
    ∧ ((∃ object, ReadsObject env data object)
          ∧ LenientPiece segments.payload
          ∧ LenientPiece segments.crypto
        ∨ ∃ error,
            env.json.loadsBytes data = .error error
            ∧ error.isA .valueError = false
            ∧ error.cls ≠ .decodeError)

/-- A token with pieces that are accepted and an object for a header loads. -/
theorem load_of_lenient {segments : Segments} {data : Bytes}
    (decodes : base64urlDecode (.bytes segments.header) = .ok data)
    (isObject : ∃ object, ReadsObject env data object)
    (payload : LenientPiece segments.payload) (crypto : LenientPiece segments.crypto)
    : ∃ loaded, load env (.bytes segments.serialize) = .ok loaded := by
  obtain ⟨object, reads⟩ := isObject
  obtain ⟨payloadData, payloadDecodes⟩ := (base64urlDecode_returns_iff _).mpr payload
  obtain ⟨signature, cryptoDecodes⟩ := (base64urlDecode_returns_iff _).mpr crypto
  exact ⟨⟨payloadData, segments.signingInput, object, signature⟩, load_eq_ok_iff.mpr ⟨segments, {
    token := rfl
    signingInput := rfl
    header := ⟨data, decodes, reads⟩
    payload := payloadDecodes
    signature := cryptoDecodes
  }⟩⟩

/-- The error of `json.loads` on the header's text gets out if it is no `ValueError`. -/
theorem load_of_raises {segments : Segments} {data : Bytes} {error : PyError}
    (decodes : base64urlDecode (.bytes segments.header) = .ok data)
    (raises : env.json.loadsBytes data = .error error) (other : error.isA .valueError = false)
    : load env (.bytes segments.serialize) = .error error := by
  have split := splitToken_eq_ok_iff.mpr ⟨segments, rfl, rfl, rfl, rfl, rfl⟩
  have header : decodeSegment segments.header "header" = .ok data :=
    decodeSegment_eq_ok.mpr decodes
  have object : loadObject env data "header" = .error error := by
    unfold loadObject tryExcept
    rw [raises]
    simp only [List.any_cons, other, List.any_nil, Bool.or_self, Bool.false_eq_true, if_false]
    rfl
  unfold load
  simp only [tokenBytes, outcome_ok_bind, split, header, object]
  rfl

/-- The parser accepts only compact tokens and answers every other byte string with
`DecodeError`, exactly as far as the byte string is compact or does not slip through.
-/
theorem load_compact_iff (env : Env) (jwt : Bytes)
    : ((∀ loaded, load env (.bytes jwt) = .ok loaded → Compact jwt)
          ∧ (¬Compact jwt
            → ∃ error, load env (.bytes jwt) = .error error ∧ error.cls = .decodeError))
      ↔ Compact jwt ∨ ¬Slips env jwt := by
  constructor
  · intro h
    refine or_iff_not_imp_left.mpr (fun loose slips => ?_)
    obtain ⟨raised, failed, isDecodeError⟩ := h.2 loose
    obtain ⟨segments, data, rfl, decodes, ⟨isObject, payload, crypto⟩ | ⟨error, raises, other,
      notOwn⟩⟩ := slips
    · obtain ⟨loaded, loads⟩ := load_of_lenient decodes isObject payload crypto
      cases loads.symm.trans failed
    · cases (load_of_raises decodes raises other).symm.trans failed
      exact notOwn isDecodeError
  · intro h
    rcases h with compact | strict
    · exact ⟨fun _ _ => compact, fun loose => absurd compact loose⟩
    · have fails : FailsWith (fun error => error.cls = .decodeError)
          (load env (.bytes jwt)) := by
        refine (failsWith_load (fun _ own => own)).mpr ?_
        intro segments data token decodes error raises
        by_contra unexpected
        simp only [List.any_cons, List.any_nil, Bool.or_false, not_or, Bool.not_eq_true]
          at unexpected
        exact strict ⟨segments, data, token, decodes,
          Or.inr ⟨error, raises, unexpected.1, unexpected.2⟩⟩
      cases outcome : load env (.bytes jwt) with
      | ok loaded =>
          obtain ⟨segments, loads⟩ := load_eq_ok_iff.mp outcome
          obtain ⟨data, decodes, reads⟩ := loads.header
          refine absurd ⟨segments, data, Except.ok.inj loads.token, decodes, Or.inl ⟨⟨_, reads⟩,
            (base64urlDecode_returns_iff _).mp ⟨_, loads.payload⟩,
            (base64urlDecode_returns_iff _).mp ⟨_, loads.signature⟩⟩⟩ strict
      | error error =>
          exact ⟨nofun, fun _ => ⟨error, rfl, fails error outcome⟩⟩

/-- A token with one separator is refused as it should be. -/
theorem load_compact_iff_pair
    : ∃ error,
        load digestEnv (.bytes (ascii "e30.e30")) = .error error
        ∧ error.cls = .decodeError := by
  have few : (ascii "e30.e30").count dot = 1 := by decide
  have strict : ¬Slips digestEnv (ascii "e30.e30") := by
    intro slips
    obtain ⟨segments, _, token, _⟩ := slips
    have two : 2 ≤ segments.serialize.count dot := by
      simp [Segments.serialize, Segments.signingInput, List.count_append]
      omega
    rw [← token, few] at two
    omega
  have loose : ¬Compact (ascii "e30.e30") := by
    intro compact
    have two := compact.count
    rw [few] at two
    cases two
  exact ((load_compact_iff digestEnv (ascii "e30.e30")).mpr (Or.inr strict)).2 loose

/-- A token with four segments loads, and so does one with a foreign byte in a segment. -/
theorem load_loose
    : (∃ loaded, load digestEnv (.bytes (ascii "e30...")) = .ok loaded)
      ∧ ¬Compact (ascii "e30...")
      ∧ (∃ loaded, load digestEnv (.bytes (ascii "e30.!.")) = .ok loaded)
      ∧ ¬Compact (ascii "e30.!.") := by
  have loads (jwt : Bytes)
      (h : returnsWith (fun _ => true) (load digestEnv (.bytes jwt)) = true)
      : ∃ loaded, load digestEnv (.bytes jwt) = .ok loaded := by
    obtain ⟨loaded, isLoaded, _⟩ := of_returnsWith h
    exact ⟨loaded, isLoaded⟩
  refine ⟨loads _ (by decide), fun compact => ?_, loads _ (by decide),
    fun compact => ?_⟩
  · exact absurd compact.count (by decide)
  · exact absurd (compact.bytes 33 (by decide)) (by decide)

end PyJWS

end PyJwt
