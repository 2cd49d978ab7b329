import Mathlib.Data.List.Infix
import Mathlib.Data.List.TakeWhile

/-! Regular expressions with capture groups and back-references, matched by enumerating
every way to match. Greedy and lazy repetition differ only in the order of that
enumeration, which a search for some match does not observe.
-/

namespace Foundations

variable {α : Type}

/-- A pattern over an alphabet. `many1 class` repeats one symbol class. -/
inductive Pattern (α : Type)
  | empty
  | symbol (accepts : α → Bool)
  | many1 (accepts : α → Bool)
  | seq (first second : Pattern α)
  | alt (left right : Pattern α)
  | opt (inner : Pattern α)
  | group (index : Nat) (inner : Pattern α)
  | backref (index : Nat)

namespace Pattern

/-- What each group last captured. -/
abbrev Captures (α : Type) := Nat → Option (List α)

def Captures.set (captures : Captures α) (index : Nat) (text : List α) : Captures α :=
  fun other => if other = index then some text else captures other

/-- A literal run of symbols. -/
def literal [DecidableEq α] : List α → Pattern α
  | [] => .empty
  | head :: rest => .seq (.symbol (fun symbol => symbol = head)) (literal rest)

/-- An alternation; no alternative matches nothing at all. -/
def oneOf : List (Pattern α) → Pattern α
  | [] => .symbol (fun _ => false)
  | [only] => only
  | head :: rest => .alt head (oneOf rest)

/-- Patterns one after another. -/
def concat : List (Pattern α) → Pattern α
  | [] => .empty
  | head :: rest => .seq head (concat rest)

/-- `Matches pattern before text after`: the pattern consumes exactly `text`, starting
with captures `before` and ending with captures `after`.
-/
inductive Matches : Pattern α → Captures α → List α → Captures α → Prop
  | empty {captures} : Matches .empty captures [] captures
  | symbol {accepts captures symbol} (h : accepts symbol = true)
    : Matches (.symbol accepts) captures [symbol] captures
  | many1 {accepts captures text} (nonempty : text ≠ [])
    (h : ∀ symbol ∈ text, accepts symbol = true)
    : Matches (.many1 accepts) captures text captures
  | seq {first second before middle after left right}
    (head : Matches first before left middle) (tail : Matches second middle right after)
    : Matches (.seq first second) before (left ++ right) after
  | altLeft {left right before after text} (h : Matches left before text after)
    : Matches (.alt left right) before text after
  | altRight {left right before after text} (h : Matches right before text after)
    : Matches (.alt left right) before text after
  | optNone {inner captures} : Matches (.opt inner) captures [] captures
  | optSome {inner before after text} (h : Matches inner before text after)
    : Matches (.opt inner) before text after
  | group {index inner before after text} (h : Matches inner before text after)
    : Matches (.group index inner) before text (after.set index text)
  | backref {index captures text} (h : captures index = some text)
    : Matches (.backref index) captures text captures

/-- Every prefix of `input` the pattern can consume, with the captures it ends with. -/
def runs [DecidableEq α] : Pattern α → Captures α → List α → List (List α × Captures α)
  | .empty, captures, _ => [([], captures)]
  | .symbol accepts, captures, input =>
      match input with
      | [] => []
      | head :: _ => if accepts head then [([head], captures)] else []
  | .many1 accepts, captures, input =>
      ((input.takeWhile accepts).inits.filter (fun text => text ≠ [])).map
        (fun text => (text, captures))
  | .seq first second, captures, input =>
      (runs first captures input).flatMap
        (fun head =>
          (runs second head.2 (input.drop head.1.length)).map
            (fun tail => (head.1 ++ tail.1, tail.2)))
  | .alt left right, captures, input => runs left captures input ++ runs right captures input
  | .opt inner, captures, input => ([], captures) :: runs inner captures input
  | .group index inner, captures, input =>
      (runs inner captures input).map (fun result => (result.1, result.2.set index result.1))
  | .backref index, captures, input =>
      match captures index with
      | none => []
      | some text => if text <+: input then [(text, captures)] else []

/-- The enumeration of each kind of pattern, so that a proof opens one pattern at a time. -/
@[simp] theorem runs_empty [DecidableEq α] {captures : Captures α} {input : List α}
    : runs .empty captures input = [([], captures)] :=
  rfl

@[simp] theorem runs_symbol_nil [DecidableEq α] {accepts : α → Bool} {captures : Captures α}
    : runs (.symbol accepts) captures [] = [] :=
  rfl

@[simp] theorem runs_symbol_cons [DecidableEq α] {accepts : α → Bool} {captures : Captures α}
    {head : α} {rest : List α}
    : runs (.symbol accepts) captures (head :: rest)
      = if accepts head then [([head], captures)] else [] :=
  rfl

@[simp] theorem runs_many1 [DecidableEq α] {accepts : α → Bool} {captures : Captures α}
    {input : List α}
    : runs (.many1 accepts) captures input
      = ((input.takeWhile accepts).inits.filter (fun text => text ≠ [])).map
          (fun text => (text, captures)) :=
  rfl

@[simp] theorem runs_seq [DecidableEq α] {first second : Pattern α} {captures : Captures α}
    {input : List α}
    : runs (.seq first second) captures input
      = (runs first captures input).flatMap
          (fun head =>
            (runs second head.2 (input.drop head.1.length)).map
              (fun tail => (head.1 ++ tail.1, tail.2))) :=
  rfl

@[simp] theorem runs_alt [DecidableEq α] {left right : Pattern α} {captures : Captures α}
    {input : List α}
    : runs (.alt left right) captures input
      = runs left captures input ++ runs right captures input :=
  rfl

@[simp] theorem runs_opt [DecidableEq α] {inner : Pattern α} {captures : Captures α}
    {input : List α}
    : runs (.opt inner) captures input = ([], captures) :: runs inner captures input :=
  rfl

@[simp] theorem runs_group [DecidableEq α] {index : Nat} {inner : Pattern α}
    {captures : Captures α} {input : List α}
    : runs (.group index inner) captures input
      = (runs inner captures input).map
          (fun result => (result.1, result.2.set index result.1)) :=
  rfl

@[simp] theorem runs_backref [DecidableEq α] {index : Nat} {captures : Captures α}
    {input : List α}
    : runs (.backref index) captures input
      = (captures index).elim []
          (fun text => if text <+: input then [(text, captures)] else []) := by
  rw [runs]
  cases captures index with
  | none => rfl
  | some text => rfl

/-- `re.search(pattern, input)` finds a match. -/
def search [DecidableEq α] (pattern : Pattern α) (input : List α) : Bool :=
  input.tails.any (fun rest => !(runs pattern (fun _ => none) rest).isEmpty)

/-- A prefix of the accepted run is an accepted prefix, and conversely. -/
theorem isPrefix_takeWhile_iff {accepts : α → Bool} {text input : List α}
    : text <+: input.takeWhile accepts
      ↔ text <+: input ∧ ∀ symbol ∈ text, accepts symbol = true := by
  constructor
  · intro h
    exact ⟨h.trans (List.takeWhile_prefix accepts),
      fun symbol member => List.mem_takeWhile_imp (h.subset member)⟩
  · intro given
    obtain ⟨⟨rest, rfl⟩, h⟩ := given
    rw [List.takeWhile_append_of_pos h]
    exact List.prefix_append text _

/-- Inversion for each kind of pattern, which the enumeration is compared with. -/
theorem matches_empty_iff {text : List α} {before after : Captures α}
    : Matches .empty before text after ↔ text = [] ∧ after = before := by
  constructor
  · intro h
    cases h
    exact ⟨rfl, rfl⟩
  · intro h
    obtain ⟨rfl, rfl⟩ := h
    exact .empty

theorem matches_symbol_iff {accepts : α → Bool} {text : List α} {before after : Captures α}
    : Matches (.symbol accepts) before text after
      ↔ ∃ symbol, text = [symbol] ∧ accepts symbol = true ∧ after = before := by
  constructor
  · intro h
    cases h with
    | symbol accepted => exact ⟨_, rfl, accepted, rfl⟩
  · intro h
    obtain ⟨symbol, rfl, accepted, rfl⟩ := h
    exact .symbol accepted

theorem matches_many1_iff {accepts : α → Bool} {text : List α} {before after : Captures α}
    : Matches (.many1 accepts) before text after
      ↔ text ≠ [] ∧ (∀ symbol ∈ text, accepts symbol = true) ∧ after = before := by
  constructor
  · intro h
    cases h with
    | many1 nonempty accepted => exact ⟨nonempty, accepted, rfl⟩
  · intro h
    obtain ⟨nonempty, accepted, rfl⟩ := h
    exact .many1 nonempty accepted

theorem matches_seq_iff {first second : Pattern α} {text : List α} {before after : Captures α}
    : Matches (.seq first second) before text after
      ↔ ∃ left right middle,
          text = left ++ right
          ∧ Matches first before left middle
          ∧ Matches second middle right after := by
  constructor
  · intro h
    cases h with
    | seq head tail => exact ⟨_, _, _, rfl, head, tail⟩
  · intro h
    obtain ⟨left, right, middle, rfl, head, tail⟩ := h
    exact .seq head tail

theorem matches_alt_iff {left right : Pattern α} {text : List α} {before after : Captures α}
    : Matches (.alt left right) before text after
      ↔ Matches left before text after ∨ Matches right before text after := by
  constructor
  · intro h
    cases h with
    | altLeft h => exact Or.inl h
    | altRight h => exact Or.inr h
  · intro h
    rcases h with h | h
    · exact .altLeft h
    · exact .altRight h

theorem matches_opt_iff {inner : Pattern α} {text : List α} {before after : Captures α}
    : Matches (.opt inner) before text after
      ↔ text = [] ∧ after = before ∨ Matches inner before text after := by
  constructor
  · intro h
    cases h with
    | optNone => exact Or.inl ⟨rfl, rfl⟩
    | optSome taken => exact Or.inr taken
  · intro h
    rcases h with ⟨rfl, rfl⟩ | taken
    · exact .optNone
    · exact .optSome taken

theorem matches_group_iff {index : Nat} {inner : Pattern α} {text : List α}
    {before after : Captures α}
    : Matches (.group index inner) before text after
      ↔ ∃ inside, Matches inner before text inside ∧ after = inside.set index text := by
  constructor
  · intro h
    cases h with
    | group taken => exact ⟨_, taken, rfl⟩
  · intro h
    obtain ⟨inside, taken, rfl⟩ := h
    exact .group taken

theorem matches_backref_iff {index : Nat} {text : List α} {before after : Captures α}
    : Matches (.backref index) before text after
      ↔ before index = some text ∧ after = before := by
  constructor
  · intro h
    cases h with
    | backref captured => exact ⟨captured, rfl⟩
  · intro h
    obtain ⟨captured, rfl⟩ := h
    exact .backref captured

/-- A symbol is enumerated at the head of an input that starts with an accepted one. -/
theorem mem_runs_symbol_iff [DecidableEq α] {accepts : α → Bool} {before after : Captures α}
    {text input : List α}
    : (text, after) ∈ runs (.symbol accepts) before input
      ↔ text <+: input ∧ Matches (.symbol accepts) before text after := by
  rw [matches_symbol_iff]
  constructor
  · intro member
    cases input with
    | nil => cases member
    | cons head rest =>
        by_cases accepted : accepts head = true
        · simp only [runs_symbol_cons, accepted, if_true, List.mem_singleton,
            Prod.mk.injEq] at member
          obtain ⟨rfl, rfl⟩ := member
          exact ⟨List.prefix_append [head] rest, head, rfl, accepted, rfl⟩
        · simp [accepted] at member
  · intro h
    obtain ⟨⟨rest, rfl⟩, symbol, rfl, accepted, rfl⟩ := h
    simp [accepted]

/-- A reference is enumerated where the input starts with what its group captured. -/
theorem mem_runs_backref_iff [DecidableEq α] {index : Nat} {before after : Captures α}
    {text input : List α}
    : (text, after) ∈ runs (.backref index) before input
      ↔ text <+: input ∧ Matches (.backref index) before text after := by
  rw [matches_backref_iff]
  cases captured : before index with
  | none => simp [captured]
  | some stored =>
      by_cases here : stored <+: input
      · simp only [runs_backref, captured, Option.elim_some, here, if_true,
          List.mem_singleton, Prod.mk.injEq, Option.some.injEq]
        constructor
        · intro h
          obtain ⟨rfl, rfl⟩ := h
          exact ⟨here, rfl, rfl⟩
        · intro h
          exact ⟨h.2.1.symm, h.2.2⟩
      · simp only [runs_backref, captured, Option.elim_some, here, if_false,
          List.not_mem_nil, Option.some.injEq, false_iff]
        intro h
        obtain ⟨isPrefix, rfl, _⟩ := h
        exact here isPrefix

/-- The enumeration lists exactly the matching prefixes, by induction on the pattern. -/
theorem mem_runs_iff [DecidableEq α] {pattern : Pattern α} {before after : Captures α}
    {text input : List α}
    : (text, after) ∈ runs pattern before input
      ↔ text <+: input ∧ Matches pattern before text after := by
  induction pattern generalizing before after text input with
  | empty =>
      simp only [runs_empty, List.mem_singleton, Prod.mk.injEq, matches_empty_iff]
      refine (and_iff_right_of_imp (fun h => ?_)).symm
      rw [h.1]
      exact List.nil_prefix
  | symbol accepts => exact mem_runs_symbol_iff
  | many1 accepts =>
      simp only [runs_many1, List.mem_map, List.mem_filter, List.mem_inits, Prod.mk.injEq,
        decide_eq_true_eq, isPrefix_takeWhile_iff, matches_many1_iff]
      constructor
      · intro h
        obtain ⟨_, ⟨⟨isPrefix, accepted⟩, nonempty⟩, rfl, rfl⟩ := h
        exact ⟨isPrefix, nonempty, accepted, rfl⟩
      · intro h
        obtain ⟨isPrefix, nonempty, accepted, rfl⟩ := h
        exact ⟨text, ⟨⟨isPrefix, accepted⟩, nonempty⟩, rfl, rfl⟩
  | seq first second ihFirst ihSecond =>
      simp only [runs_seq, List.mem_flatMap, List.mem_map, Prod.exists, Prod.mk.injEq,
        matches_seq_iff]
      constructor
      · intro h
        obtain ⟨left, middle, head, right, last, tail, rfl, rfl⟩ := h
        obtain ⟨⟨rest, rfl⟩, headMatches⟩ := ihFirst.mp head
        rw [List.drop_left] at tail
        obtain ⟨⟨more, rfl⟩, tailMatches⟩ := ihSecond.mp tail
        exact ⟨⟨more, by simp⟩, left, right, middle, rfl, headMatches, tailMatches⟩
      · intro h
        obtain ⟨⟨more, rfl⟩, left, right, middle, rfl, head, tail⟩ := h
        refine ⟨left, middle, ihFirst.mpr ⟨⟨right ++ more, by simp⟩, head⟩,
          right, after, ihSecond.mpr ⟨?_, tail⟩, rfl, rfl⟩
        rw [List.append_assoc, List.drop_left]
        exact List.prefix_append right more
  | alt left right ihLeft ihRight =>
      simp only [runs_alt, List.mem_append, ihLeft, ihRight, matches_alt_iff]
      exact and_or_left.symm
  | opt inner ih =>
      simp only [runs_opt, List.mem_cons, Prod.mk.injEq, ih, matches_opt_iff, and_or_left]
      refine or_congr_left (and_iff_right_of_imp (fun h => ?_)).symm
      rw [h.1]
      exact List.nil_prefix
  | group index inner ih =>
      simp only [runs_group, List.mem_map, Prod.exists, Prod.mk.injEq, ih, matches_group_iff]
      constructor
      · intro h
        obtain ⟨found, last, ⟨here, h⟩, rfl, rfl⟩ := h
        exact ⟨here, last, h, rfl⟩
      · intro h
        obtain ⟨here, last, h, rfl⟩ := h
        exact ⟨text, last, ⟨here, h⟩, rfl, rfl⟩
  | backref index => exact mem_runs_backref_iff

/-- A search succeeds exactly when some part of the input matches. -/
theorem search_iff [DecidableEq α] {pattern : Pattern α} {input : List α}
    : pattern.search input = true
      ↔ ∃ before text after captures,
          input = before ++ text ++ after
          ∧ Matches pattern (fun _ => none) text captures := by
  simp only [search, List.any_eq_true, List.mem_tails, Bool.not_eq_true',
    List.isEmpty_eq_false_iff_exists_mem, Prod.exists]
  constructor
  · intro h
    obtain ⟨rest, ⟨before, rfl⟩, text, captures, member⟩ := h
    obtain ⟨⟨after, rfl⟩, h⟩ := mem_runs_iff.mp member
    exact ⟨before, text, after, captures, by simp, h⟩
  · intro given
    obtain ⟨before, text, after, captures, rfl, h⟩ := given
    exact ⟨text ++ after, ⟨before, by simp⟩, text, captures,
      mem_runs_iff.mpr ⟨List.prefix_append text after, h⟩⟩

/-- A literal consumes itself and captures nothing, by induction on its symbols. -/
theorem matches_literal_iff [DecidableEq α] {expected text : List α}
    {before after : Captures α}
    : Matches (literal expected) before text after ↔ text = expected ∧ after = before := by
  induction expected generalizing text before with
  | nil => exact matches_empty_iff
  | cons head rest ih =>
      simp only [literal, matches_seq_iff, matches_symbol_iff, ih, decide_eq_true_eq]
      constructor
      · intro h
        obtain ⟨_, _, middle, rfl, ⟨symbol, rfl, rfl, rfl⟩, rfl, rfl⟩ := h
        exact ⟨rfl, rfl⟩
      · intro h
        obtain ⟨rfl, rfl⟩ := h
        exact ⟨[head], rest, after, rfl, ⟨head, rfl, rfl, rfl⟩, rfl, rfl⟩

/-- An alternation matches what one of its alternatives does, by induction on the list. -/
theorem matches_oneOf_iff {patterns : List (Pattern α)} {text : List α}
    {before after : Captures α}
    : Matches (oneOf patterns) before text after
      ↔ ∃ pattern ∈ patterns, Matches pattern before text after := by
  induction patterns with
  | nil => simp [oneOf, matches_symbol_iff]
  | cons head rest ih =>
      cases rest with
      | nil => simp [oneOf]
      | cons next more =>
          simp only [oneOf, List.mem_cons, exists_eq_or_imp, matches_alt_iff] at ih ⊢
          rw [ih]

/-- A concatenation of no patterns consumes nothing. -/
theorem matches_concat_nil_iff {text : List α} {before after : Captures α}
    : Matches (concat []) before text after ↔ text = [] ∧ after = before :=
  matches_empty_iff

/-- A concatenation consumes its parts in order. -/
theorem matches_concat_cons_iff {head : Pattern α} {rest : List (Pattern α)}
    {text : List α} {before after : Captures α}
    : Matches (concat (head :: rest)) before text after
      ↔ ∃ left right middle,
          text = left ++ right
          ∧ Matches head before left middle
          ∧ Matches (concat rest) middle right after :=
  matches_seq_iff

/-- A concatenation of two lists of patterns consumes what each of them does. -/
theorem matches_concat_append_iff {left right : List (Pattern α)} {text : List α}
    {before after : Captures α}
    : Matches (concat (left ++ right)) before text after
      ↔ ∃ first second middle,
          text = first ++ second
          ∧ Matches (concat left) before first middle
          ∧ Matches (concat right) middle second after := by
  induction left generalizing text before with
  | nil => simp [matches_concat_nil_iff]
  | cons head rest ih =>
      simp only [List.cons_append, matches_concat_cons_iff, ih]
      constructor
      · intro h
        obtain ⟨first, _, middle, rfl, here, second, third, last, rfl, tail, more⟩ := h
        exact ⟨first ++ second, third, last, (List.append_assoc _ _ _).symm,
          ⟨first, second, middle, rfl, here, tail⟩, more⟩
      · intro h
        obtain ⟨_, third, last, rfl, ⟨first, second, middle, rfl, here, tail⟩, more⟩ := h
        exact ⟨first, second ++ third, middle, List.append_assoc _ _ _, here, second, third,
          last, rfl, tail, more⟩

end Pattern

end Foundations
