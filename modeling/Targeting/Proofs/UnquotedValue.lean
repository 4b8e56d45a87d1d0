import Targeting.Proofs.RangeText
import Targeting.Proofs.SingleField

/-!
# Unquoted values

A field may be given a word without quotes. Such a word is classified: it stands
for a truth value, for a number or for itself. Where the field holds a text, what
the word stands for is spelled out again; where it holds a range, a number asks
for itself.

## Main results

`unquoted_text_is_spelled_out`: what becomes of a word in a text field.
`unquoted_range_is_read_exactly`: a range is the same one with and without quotes.

## Proof strategy

A finite number is spelled by numerals with one point at most, so its word is no
truth value and has no two points in it. A word that spells a whole number is
classified as this number or, beyond the range of doubles, as itself.
-/
namespace Targeting.Item

open Text Number

/-! ### What a word stands for -/

/-- The word names the truth value, in whatever letter case. -/
def Names (value : Bool) (word : List Char) : Prop :=
  word.map Char.toLower = (toString value).toList

/-- The word spells no finite number. -/
def SpellsNoNumber (word : List Char) : Prop := ∀ x, float? word = some x → isFinite x = false

theorem spellsNoNumber_iff {word : List Char} :
    SpellsNoNumber word ↔ ¬ ∃ x, float? word = some x ∧ isFinite x = true := by
  simp only [SpellsNoNumber, not_exists, not_and, Bool.not_eq_true]

theorem hasPoints_eq_false {cs : List Char} (few : cs.count '.' ≤ 1) : hasPoints cs = false := by
  fun_induction hasPoints cs with
  | case1 => simp at few
  | case2 c rest _ ih => exact ih ((List.count_le_count_cons).trans few)
  | case3 => rfl

theorem toLower_of_isNumeral {c : Char} (numeral : isNumeral c = true) :
    c.toLower ≠ 't' ∧ c.toLower ≠ 'f' := by
  rcases Bool.or_eq_true_iff.mp numeral with digit | mark
  · rw [toLower_of_isDigit digit]
    constructor <;> (rintro rfl; cases digit)
  · simp only [List.contains_iff_mem, List.mem_cons, List.not_mem_nil, or_false] at mark
    rcases mark with rfl | rfl | rfl | rfl | rfl | rfl <;> decide

theorem not_names_of_isLiteral {points : Nat} {word : List Char} (literal : IsLiteral points word)
    (value : Bool) : ¬ Names value word := by
  intro named
  have letter : (if value then 't' else 'f') ∈ word.map Char.toLower := by
    rw [named]
    cases value <;> decide
  obtain ⟨c, member, lowered⟩ := List.mem_map.mp letter
  have other := toLower_of_isNumeral (literal.numerals c member)
  cases value with
  | true => exact other.1 lowered
  | false => exact other.2 lowered

section Word

variable {word : List Char}

theorem ofWord_of_names {value : Bool} (named : Names value word) :
    Scalar.ofWord word = .flag value := by
  cases value with
  | true =>
    have lowered : word.map Char.toLower = "true".toList := named
    simp only [Scalar.ofWord, lowered, if_true]
  | false =>
    have lowered : word.map Char.toLower = "false".toList := named
    have other : "false".toList ≠ "true".toList := by decide
    simp only [Scalar.ofWord, lowered, other, if_true, if_false]

section Nameless

variable (nameless : ∀ value, ¬ Names value word)

include nameless

theorem lowered_of_nameless :
    word.map Char.toLower ≠ "true".toList ∧ word.map Char.toLower ≠ "false".toList :=
  ⟨nameless true, nameless false⟩

theorem ofWord_of_points (points : hasPoints word = true) :
    Scalar.ofWord word = .text (String.ofList word) := by
  simp only [Scalar.ofWord, lowered_of_nameless nameless, if_false, points, if_true]

theorem ofWord_of_spellsNoNumber (other : SpellsNoNumber word) :
    Scalar.ofWord word = .text (String.ofList word) := by
  simp only [Scalar.ofWord, lowered_of_nameless nameless, if_false]
  split
  next => rfl
  next =>
    split
    next => rfl
    next x read => rw [other x read, Bool.not_false, if_pos rfl]

end Nameless

section Number

variable (trimmed : trimSpaces word = word) {x : Float} (read : float? word = some x)
  (finite : isFinite x = true)

include trimmed read finite

theorem isLiteral_of_finite : IsLiteral 1 word := trimmed ▸ isLiteral_of_float? read finite

theorem ofWord_of_decimal (fraction : integer? word = none) : Scalar.ofWord word = .decimal x := by
  have literal := isLiteral_of_finite trimmed read finite
  have nameless := lowered_of_nameless (not_names_of_isLiteral literal)
  simp only [Scalar.ofWord, nameless, hasPoints_eq_false literal.few, read, finite, fraction,
    Bool.not_true, Bool.false_eq_true, if_false, ite_self]

end Number

section Integer

variable (trimmed : trimSpaces word = word) {n : Int} (whole : integer? word = some n)

include trimmed whole

theorem isLiteral_of_whole : IsLiteral 0 word := trimmed ▸ isLiteral_of_integer? whole

theorem ofWord_of_whole {x : Float} (read : float? word = some x) (finite : isFinite x = true) :
    Scalar.ofWord word = .whole n := by
  have literal := isLiteral_of_whole trimmed whole
  have pointless : word.contains '.' = false := by
    rw [List.contains_eq_mem, decide_eq_false_iff_not, ← List.count_eq_zero]
    exact Nat.le_zero.mp literal.few
  have powerless : (word.map Char.toLower).contains 'e' = false := by
    rw [List.contains_eq_mem, decide_eq_false_iff_not]
    intro member
    obtain ⟨c, member, lowered⟩ := List.mem_map.mp member
    rcases mem_of_integer? whole (trimmed.symm ▸ member) with digit | rfl | rfl | rfl
    · rw [toLower_of_isDigit digit] at lowered
      subst lowered
      cases digit
    · cases lowered
    · cases lowered
    · cases lowered
  -- The number has no fraction, so it is not classified as a decimal one.
  have round : isWhole x = true := by
    obtain ⟨digits, dropped, run, filled⟩ := exists_digits_of_integer? whole
    rw [float?_of_isDigits run filled dropped] at read
    cases read
    exact isWhole_of_isFinite finite
  have nameless := lowered_of_nameless (not_names_of_isLiteral literal)
  have single := hasPoints_eq_false (literal.few.trans (Nat.zero_le 1))
  simp only [Scalar.ofWord, nameless, single, read, finite, whole, round, pointless, powerless,
    Bool.not_true, Bool.not_false, Bool.and_self, Bool.false_eq_true, if_false, if_true]

/-- A word that spells a whole number stands for the number, or for itself if the number is beyond
the range of doubles. -/
theorem ofWord_of_integer? :
    Scalar.ofWord word = .whole n ∨ Scalar.ofWord word = .text (String.ofList word) := by
  obtain ⟨digits, dropped, run, filled⟩ := exists_digits_of_integer? whole
  have read := float?_of_isDigits run filled dropped
  rcases range : isFinite (wholeFloat (splitSign (trimSpaces word)).1 (valueOf digits)) with _ | _
  · have nameless := not_names_of_isLiteral (isLiteral_of_whole trimmed whole)
    refine .inr (ofWord_of_spellsNoNumber nameless fun x number => ?_)
    rw [read] at number
    cases number
    exact range
  · exact .inl (ofWord_of_whole trimmed whole read range)

end Integer

end Word

/-! ### Text fields -/

/-- The text that a word comes to where a text is asked for. -/
inductive SpeltOut (word : List Char) : String → Prop where
  | truth {value : Bool} (named : Names value word) : SpeltOut word (toString value)
  | whole {x : Float} {n : Int} (number : float? word = some x) (finite : isFinite x = true)
      (integer : integer? word = some n) : SpeltOut word (toString n)
  | decimal {x : Float} (number : float? word = some x) (finite : isFinite x = true)
      (fraction : integer? word = none) : SpeltOut word (decimalText x)
  | itself (nameless : ∀ value, ¬ Names value word) (other : SpellsNoNumber word) :
      SpeltOut word (String.ofList word)

section SpeltOut

variable {word : List Char}

theorem speltOut_iff (trimmed : trimSpaces word = word) {text : String} :
    SpeltOut word text ↔ text = (Scalar.ofWord word).toText := by
  constructor
  · intro spelled
    cases spelled with
    | @truth value named =>
      rw [ofWord_of_names named]
      cases value <;> rfl
    | whole number finite integer =>
      rw [ofWord_of_whole trimmed integer number finite]
      rfl
    | decimal number finite fraction =>
      rw [ofWord_of_decimal trimmed number finite fraction]
      rfl
    | itself nameless other =>
      rw [ofWord_of_spellsNoNumber nameless other]
      rfl
  · rintro rfl
    by_cases named : ∃ value, Names value word
    · obtain ⟨value, named⟩ := named
      rw [ofWord_of_names named]
      cases value <;> exact .truth named
    · by_cases numbered : ∃ x, float? word = some x ∧ isFinite x = true
      · obtain ⟨x, number, finite⟩ := numbered
        cases integer : integer? word with
        | none =>
          rw [ofWord_of_decimal trimmed number finite integer]
          exact .decimal number finite integer
        | some n =>
          rw [ofWord_of_whole trimmed integer number finite]
          exact .whole number finite integer
      · have nameless := not_exists.mp named
        have other := spellsNoNumber_iff.mpr numbered
        rw [ofWord_of_spellsNoNumber nameless other]
        exact .itself nameless other

/-- The word has a character that is no numeral, or more than one point. -/
def IsNoLiteral (word : List Char) : Prop :=
  (∃ c ∈ word, isNumeral c = false) ∨ 2 ≤ word.count '.'

theorem spellsNoNumber_of_isNoLiteral (trimmed : trimSpaces word = word) (other : IsNoLiteral word) :
    SpellsNoNumber word := by
  rw [spellsNoNumber_iff]
  rintro ⟨x, read, finite⟩
  have literal := isLiteral_of_finite trimmed read finite
  rcases other with ⟨c, member, strange⟩ | many
  · rw [literal.numerals c member] at strange
    cases strange
  · exact absurd literal.few (by omega)

/-- The decimal spelling of a whole number is left as it is, however long it is. -/
theorem speltOut_toString {n : Int} (trimmed : trimSpaces (toString n).toList = (toString n).toList) :
    SpeltOut (toString n).toList (toString n) := by
  by_cases numbered : ∃ x, float? (toString n).toList = some x ∧ isFinite x = true
  · obtain ⟨x, number, finite⟩ := numbered
    refine .whole number finite (integer?_toString trimmed ?_)
    -- With more digits the number would be infinite.
    by_contra long
    obtain ⟨y, same, infinite⟩ := exists_float?_toString trimmed (Nat.lt_of_not_le long)
    rw [number] at same
    cases same
    rw [finite] at infinite
    cases infinite
  · have other := spellsNoNumber_iff.mpr numbered
    have spelled : SpeltOut (toString n).toList (String.ofList (toString n).toList) :=
      .itself (not_names_of_isLiteral (isLiteral_toString n)) other
    rwa [String.ofList_toList] at spelled

end SpeltOut

/-- Without quotes, an item or a location is the text that its word is spelled out to; in quotes it is
the word itself. A word is spelled out to itself if it is the decimal spelling of a whole number, and
if it names no truth value and cannot be a literal. -/
theorem unquoted_text_is_spelled_out (word : List Char) (isWord : IsWord word) :
    (∃ text, (∀ other, SpeltOut word other ↔ other = text) ∧
      outcome (conditions (assigned "item" word)) = .ok [{ item := some text }] ∧
      outcome (conditions (assigned "location" word)) = .ok [{ location := some text }]) ∧
    (IsPlain word →
      outcome (conditions (assigned "item" (quotation word))) =
          .ok [{ item := some (String.ofList word) }] ∧
        outcome (conditions (assigned "location" (quotation word))) =
          .ok [{ location := some (String.ofList word) }]) ∧
    ((∀ value, ¬ Names value word) → IsNoLiteral word → SpeltOut word (String.ofList word)) ∧
    ∀ n : Int, word = (toString n).toList → SpeltOut word (String.ofList word) := by
  have item : "item" ∈ fieldNames := by decide
  have location : "location" ∈ fieldNames := by decide
  have trimmed := trimSpaces_of_isWord isWord
  refine ⟨⟨(Scalar.ofWord word).toText, fun other => speltOut_iff trimmed, ?_, ?_⟩, fun plain => ?_,
    fun nameless other => .itself nameless (spellsNoNumber_of_isNoLiteral trimmed other), ?_⟩
  · exact conditions_unquoted item isWord describes_item
  · exact conditions_unquoted location isWord describes_location
  · exact ⟨conditions_quoted item isWord plain describes_item,
      conditions_quoted location isWord plain describes_location⟩
  · rintro n rfl
    rw [String.ofList_toList]
    exact speltOut_toString trimmed

theorem unquoted_text_is_spelled_out_of_padded :
    let word := "007".toList
    outcome (conditions (assigned "item" word)) = .ok [{ item := some "7" }] ∧
      outcome (conditions (assigned "item" (quotation word))) = .ok [{ item := some "007" }] := by
  intro word
  have isWord : IsWord word := isWord_of_isSinglePart (by decide)
  have plain : IsPlain word := ⟨by decide, by decide⟩
  obtain ⟨⟨text, spelled, item, -⟩, quoted, -⟩ := unquoted_text_is_spelled_out word isWord
  have seven : SpeltOut word "7" :=
    (speltOut_iff (trimSpaces_of_isWord isWord)).mpr (by decide +kernel)
  obtain rfl : "7" = text := (spelled "7").mp seven
  exact ⟨item, (quoted plain).1⟩

/-- An item with zeros in front of its number loses them. -/
theorem unquoted_text_is_not_always_kept : ¬ ∀ word, IsWord word →
    outcome (conditions (assigned "item" word)) = .ok [{ item := some (String.ofList word) }] ∧
      outcome (conditions (assigned "location" word)) =
        .ok [{ location := some (String.ofList word) }] := by
  intro always
  have kept := (always "007".toList (isWord_of_isSinglePart (by decide))).1
  exact absurd kept (by decide +kernel)

/-! ### Range fields -/

theorem isSome_splitPoints? (cs : List Char) : (IntRange.splitPoints? cs).isSome = hasPoints cs := by
  fun_induction hasPoints cs with
  | case1 rest => rfl
  | case2 c rest single ih =>
    rw [IntRange.splitPoints?, Option.isSome_map, ih]
    exact single
  | case3 => rfl

/-- A bound is a run of digits behind its sign. -/
theorem digits_of_bound? {cs : List Char} {n : Int} (read : IntRange.bound? cs = some n) :
    IsDigits (splitSign cs).2 ∧ signed? (splitSign cs).1 (splitSign cs).2 = some n := by
  unfold IntRange.bound? at read
  split at read
  next digits => exact ⟨(signed?_eq_some_iff.mp read).2.1, read⟩
  next =>
    have run := (signed?_eq_some_iff.mp read).2.1
    rw [splitSign_of_isDigits run]
    exact ⟨run, read⟩

theorem toRange_text {word : List Char} {range : IntRange}
    (parsed : IntRange.parse? word = some range) :
    (Scalar.text (String.ofList word)).toRange = .ok range := by
  rw [Scalar.toRange, String.toList_ofList, parsed, Option.getD_some]

section Range

variable {word : List Char} {range : IntRange} (isWord : IsWord word)
  (parsed : IntRange.parse? word = some range)

include isWord parsed

theorem mem_of_range {c : Char} (member : c ∈ word) : isDigit c = true ∨ c = '-' ∨ c = '.' := by
  rw [← trim_of_isWord isWord] at member
  exact (IntRange.parse?_iff_spells.mp parsed).mem member

theorem isPlain_of_range : IsPlain word :=
  ⟨fun member => absurd (mem_of_range isWord parsed member) (by decide),
    fun member => absurd (mem_of_range isWord parsed member) (by decide)⟩

theorem not_names_of_range : ∀ value, ¬ Names value word := by
  have literal : IsLiteral (word.count '.') word := by
    refine ⟨fun c member => ?_, Nat.le_refl _⟩
    rcases mem_of_range isWord parsed member with digit | rfl | rfl
    · simp [isNumeral, digit]
    · rfl
    · rfl
  exact not_names_of_isLiteral literal

/-- Whichever way a word is classified that spells a range, it asks for just this range. -/
theorem toRange_ofWord : (Scalar.ofWord word).toRange = .ok range := by
  have text := toRange_text parsed
  have trimmed := trimSpaces_of_isWord isWord
  cases points : hasPoints word with
  | true => rw [ofWord_of_points (not_names_of_range isWord parsed) points, text]
  | false =>
    -- Without two points the range is a single number, and so is what the word stands for.
    have whole : IntRange.splitPoints? word = none := by
      rw [← Option.not_isSome_iff_eq_none, isSome_splitPoints?, points]
      exact Bool.false_ne_true
    have bound : (IntRange.bound? word).map Bounds.exactly = some range := by
      rw [← parsed, IntRange.parse?]
      simp only [trim_of_isWord isWord, whole]
    obtain ⟨n, read, rfl⟩ := Option.map_eq_some_iff.mp bound
    obtain ⟨run, signed⟩ := digits_of_bound? read
    rw [← integer?_of_isDigits trimmed run] at signed
    rcases ofWord_of_integer? trimmed signed with number | itself
    · rw [number]
      rfl
    · rw [itself, text]

end Range

/-- A range asks for the same quantity and the same slots with quotes and without, and no digit of its
bounds is lost. -/
theorem unquoted_range_is_read_exactly (word : List Char) (isWord : IsWord word) (range : IntRange)
    (parsed : IntRange.parse? word = some range) :
    outcome (conditions (assigned "quantity" word)) = .ok [{ quantity := range }] ∧
      outcome (conditions (assigned "quantity" (quotation word))) = .ok [{ quantity := range }] ∧
      outcome (conditions (assigned "slot" word)) = .ok [{ slot := some range }] ∧
      outcome (conditions (assigned "slot" (quotation word))) = .ok [{ slot := some range }] := by
  have quantity : "quantity" ∈ fieldNames := by decide
  have slot : "slot" ∈ fieldNames := by decide
  have plain := isPlain_of_range isWord parsed
  have bare := toRange_ofWord isWord parsed
  have text := toRange_text parsed
  exact ⟨conditions_unquoted quantity isWord (describes_quantity bare),
    conditions_quoted quantity isWord plain (describes_quantity text),
    conditions_unquoted slot isWord (describes_slot bare),
    conditions_quoted slot isWord plain (describes_slot text)⟩

/-- A number that no double is equal to. -/
theorem unquoted_range_is_read_exactly_of_odd :
    let word := "9007199254740993".toList
    let range : IntRange := .exactly 9007199254740993
    IntRange.parse? word = some range ∧
      outcome (conditions (assigned "quantity" word)) = .ok [{ quantity := range }] ∧
      outcome (conditions (assigned "slot" (quotation word))) = .ok [{ slot := some range }] := by
  intro word range
  have isWord : IsWord word := isWord_of_isSinglePart (by decide)
  have parsed : IntRange.parse? word = some range := by decide +kernel
  obtain ⟨bare, -, -, quoted⟩ := unquoted_range_is_read_exactly word isWord range parsed
  exact ⟨parsed, bare, quoted⟩

end Targeting.Item
