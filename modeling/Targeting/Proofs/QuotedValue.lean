import Targeting.Proofs.ItemAcceptance
import Targeting.Proofs.Negation

/-!
# Values in quotes

Double quotes around a value are taken off before it is read, so a value means
the same with and without them. Score lists and item conditions are the
exception: there the quote stands where a brace or a bracket is looked for, and
the whole value is refused.

## Main result

`Query.quotes_are_optional_off_brackets`.
-/
namespace Targeting

open Argument Text

/-- The keys whose values stand in braces or brackets. -/
def Key.isBracketed : Key → Bool
  | .scores | .items => true
  | _ => false

namespace Constraint

variable {key : Key} {value : List Char}

/-- Off the brackets a value is looked at only without its quotes. -/
theorem ofValue?_inQuotes (plain : key.isBracketed = false) (bare : unquote value = value) :
    ofValue? key (inQuotes value) = ofValue? key value := by
  have unquoted : unquote (inQuotes value) = unquote value := by rw [unquote_inQuotes, bare]
  have signed : splitNegation (inQuotes value) = splitNegation value := by
    rw [splitNegation, splitNegation, unquoted]
  cases key with
  | scores | items => cases plain
  | type | name | tag | family | gameMode => simp only [ofValue?, signed]
  | _ => simp only [ofValue?, unquoted]

theorem ofValue?_inQuotes_of_isBracketed (bracketed : key.isBracketed = true) (value : List Char) :
    ofValue? key (inQuotes value) = none := by
  cases key with
  | scores => rfl
  | items =>
    have unopened : ¬ Item.IsOpened (trim (inQuotes value)) := by
      rw [trim_inQuotes]
      rintro ⟨rest, same | same⟩ <;> cases same
    rw [ofValue?, Item.conditions_of_not_isOpened unopened]
    rfl
  | _ => cases bracketed

theorem add_scores (value : List Char) :
    (ofValue? .scores value).elim {} (Query.add {}) = { scores := scoreFilters [value] } := by
  cases inside : insideBraces? value <;> simp [ofValue?, scoreFilters, Query.add, inside]

theorem add_items (value : List Char) :
    (ofValue? .items value).elim {} (Query.add {}) = { items := itemConditions [value] } := by
  cases accepted : (outcome (Item.conditions value)).toOption <;>
    simp [ofValue?, itemConditions, Query.add, accepted]

end Constraint

theorem Query.trim_argument_inQuotes {spelling : String} {key : Key}
    (known : Key.ofText? spelling = some key) (value : List Char) :
    trim (argument spelling (inQuotes value)) = argument spelling (inQuotes value) := by
  obtain ⟨-, -, trimmed, filled⟩ := spelled_of_ofText? known
  obtain ⟨c, rest, spelled⟩ := List.exists_cons_of_ne_nil filled
  have between : argument spelling (inQuotes value) = c :: (rest ++ '=' :: '"' :: value ++ ['"']) := by
    simp [argument, inQuotes, spelled]
  rw [between]
  exact trim_between (not_isBlank_of_trim (trimmed.trans spelled)) (by decide) _

/-- Quotes around the value of an argument that is one token leave it one token, and under most keys
they leave its query as it is. A quoted score list or item condition asks for nothing, so there the
quotes do no harm only to a value that gives no filter or condition anyway. -/
theorem Query.quotes_are_optional_off_brackets {spelling : String} {key : Key}
    (known : Key.ofText? spelling = some key) {value : List Char} (trimmed : trim value = value)
    (bare : unquote value = value)
    (single : split (argument spelling value) = [argument spelling value]) (selector : String) :
    let plain := (Query.read (argument spelling value) selector).value
    let quoted := (Query.read (argument spelling (inQuotes value)) selector).value
    split (argument spelling (inQuotes value)) = [argument spelling (inQuotes value)] ∧
      (key.isBracketed = false → quoted = plain) ∧ (key.isBracketed = true → quoted = {}) ∧
      (quoted = plain ↔ (key = .scores → scoreFilters [value] = []) ∧
        (key = .items → itemConditions [value] = [])) := by
  have holds : Holds {} (argument spelling value) := holds_of_split single rfl
  -- Quotes are no delimiters.
  have quoteless : delimiters (inQuotes value) = delimiters value := by
    simp [delimiters, inQuotes, isDelimiter]
  have same : delimiters (argument spelling (inQuotes value)) =
      delimiters (argument spelling value) := by
    rw [delimiters_argument known, delimiters_argument known, quoteless]
  have holdsQuoted : Holds {} (argument spelling (inQuotes value)) := by
    rwa [← holds_delimiters, same, holds_delimiters]
  have readPlain := value_read_of_holds known holds selector
  have readQuoted := value_read_of_holds known holdsQuoted selector
  rw [trimmed] at readPlain
  rw [trim_inQuotes] at readQuoted
  have off (plain : key.isBracketed = false) :
      (Query.read (argument spelling (inQuotes value)) selector).value =
        (Query.read (argument spelling value) selector).value := by
    rw [readQuoted, readPlain, Constraint.ofValue?_inQuotes plain bare]
  have on (bracketed : key.isBracketed = true) :
      (Query.read (argument spelling (inQuotes value)) selector).value = {} := by
    rw [readQuoted, Constraint.ofValue?_inQuotes_of_isBracketed bracketed, Option.elim_none]
  refine ⟨?_, off, on, ?_⟩
  · rw [split_of_holds holdsQuoted (trim_assignment_ne_nil _ _), trim_argument_inQuotes known]
  · cases key with
    | scores =>
      rw [on rfl, readPlain, Constraint.add_scores]
      simp only [forall_const, reduceCtorEq, false_implies, and_true]
      exact ⟨fun same => (congrArg Query.scores same).symm, fun none => by rw [none]⟩
    | items =>
      rw [on rfl, readPlain, Constraint.add_items]
      simp only [forall_const, reduceCtorEq, false_implies, true_and]
      exact ⟨fun same => (congrArg Query.items same).symm, fun none => by rw [none]⟩
    | _ =>
      simp only [reduceCtorEq, false_implies, and_self, iff_true]
      exact off rfl

/-- A score list in quotes asks for nothing; without them it asks for its score. -/
theorem Query.quotes_are_optional_off_brackets_of_scores :
    let plain := (Query.read "scores=\x7bk=1\x7d".toList "").value
    let quoted := (Query.read "scores=\"\x7bk=1\x7d\"".toList "").value
    plain = { scores := [{ objective := "k", range := ⟨some 1, some 1⟩ }] } ∧ quoted = {} ∧
      quoted ≠ plain := by
  have known : Key.ofText? "scores" = some .scores := by decide +kernel
  have spelled : argument "scores" "\x7bk=1\x7d".toList = "scores=\x7bk=1\x7d".toList := by
    decide +kernel
  have spelledQuoted : argument "scores" (inQuotes "\x7bk=1\x7d".toList) =
      "scores=\"\x7bk=1\x7d\"".toList := by decide +kernel
  have single : split (argument "scores" "\x7bk=1\x7d".toList) =
      [argument "scores" "\x7bk=1\x7d".toList] := by decide +kernel
  have bare : unquote "\x7bk=1\x7d".toList = "\x7bk=1\x7d".toList := by decide +kernel
  obtain ⟨-, -, refused, harmless⟩ :=
    quotes_are_optional_off_brackets known (by decide +kernel) bare single ""
  rw [spelled, spelledQuoted] at harmless
  rw [spelledQuoted] at refused
  refine ⟨by decide +kernel, refused rfl, fun same => ?_⟩
  exact absurd ((harmless.mp same).1 rfl) (by decide +kernel)

end Targeting
