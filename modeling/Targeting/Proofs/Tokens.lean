import Targeting.Proofs.Splitting

/-!
# What splitting keeps

An argument list is a row of stretches that are ended by commas, and a last one.
Its tokens are the stretches without the blanks around them, and the list that is
written from the tokens is split into the same tokens again.

## Main result

`tokens_lose_blanks_only`.

## Proof strategy

A text goes on to its first comma at a level place, or it holds together; so it is
cut into stretches by induction on its length. All but the last one are whole, and
whole tokens are split off again at the commas that they are joined with.
-/
namespace Targeting.Argument

open Text

/-! ### Balanced texts -/

/-- As many braces are closed as opened, and as many brackets. -/
def IsBalanced (text : List Char) : Prop :=
  text.count '{' = text.count '}' ∧ text.count '[' = text.count ']'

instance (text : List Char) : Decidable (IsBalanced text) :=
  inferInstanceAs (Decidable (text.count '{' = text.count '}' ∧ text.count '[' = text.count ']'))

theorem Depth.after_eq (d : Depth) (text : List Char) :
    d.after text = ⟨d.braces + text.count '{' - text.count '}',
      d.brackets + text.count '[' - text.count ']'⟩ := by
  induction text generalizing d with
  | nil => simp
  | cons c text ih =>
    rw [Depth.after_cons, ih]
    unfold Depth.step
    split
    next => simp; omega
    next => simp; omega
    next => simp; omega
    next => simp; omega
    next openBrace closeBrace openBracket closeBracket =>
      rw [List.count_cons_of_ne openBrace, List.count_cons_of_ne closeBrace,
        List.count_cons_of_ne openBracket, List.count_cons_of_ne closeBracket]

theorem isLevel_after_iff (text : List Char) :
    (({} : Depth).after text).isLevel = true ↔ IsBalanced text := by
  simp only [Depth.after_eq, Depth.isLevel, IsBalanced, Bool.and_eq_true, decide_eq_true_eq]
  omega

theorem isBalanced_of_isWhole {text : List Char} (whole : IsWhole text) : IsBalanced text := by
  rw [← isLevel_after_iff, whole.2]
  rfl

theorem isWhole_trim_iff (text : List Char) : IsWhole (trim text) ↔ IsWhole text :=
  isWhole_congr (delimiters_trim text)

theorem holds_trim_iff (d : Depth) (text : List Char) : Holds d (trim text) ↔ Holds d text := by
  rw [← holds_delimiters, delimiters_trim, holds_delimiters]

/-- In a text that holds together no comma stands where it could separate. -/
theorem not_isBalanced_of_holds {before after : List Char} (holds : Holds {} (before ++ ',' :: after)) :
    ¬ IsBalanced before := by
  rw [← isLevel_after_iff]
  intro level
  have behind := ((holds_append {} before (',' :: after)).mp holds).2
  exact ((holds_cons _ ',' after).mp behind).1 ⟨rfl, level⟩

/-! ### Stretches -/

theorem holds_or_separates (d : Depth) (text : List Char) : Holds d text ∨
    ∃ before after, text = before ++ ',' :: after ∧ Holds d before ∧
      (d.after before).isLevel = true := by
  induction text generalizing d with
  | nil => exact .inl (holds_nil d)
  | cons c text ih =>
    by_cases separates : c = ',' ∧ d.isLevel = true
    · obtain ⟨rfl, level⟩ := separates
      exact .inr ⟨[], text, rfl, holds_nil d, level⟩
    · rcases ih (d.step c) with holds | ⟨before, after, rfl, holds, level⟩
      · exact .inl ((holds_cons d c text).mpr ⟨separates, holds⟩)
      · exact .inr ⟨c :: before, after, rfl, (holds_cons d c before).mpr ⟨separates, holds⟩, level⟩

/-- The text of some stretches that are ended by commas, and a last one. -/
def row (ended : List (List Char)) (last : List Char) : List Char :=
  ended.flatMap (· ++ [',']) ++ last

theorem row_cons (first : List Char) (ended : List (List Char)) (last : List Char) :
    row (first :: ended) last = first ++ ',' :: row ended last := by
  simp [row]

/-- A text is a row of stretches, and only the last of them may leave something open. -/
theorem exists_row (text : List Char) : ∃ ended last, text = row ended last ∧
    (∀ stretch ∈ ended, IsWhole stretch) ∧ Holds {} last := by
  induction length : text.length using Nat.strong_induction_on generalizing text with
  | _ n ih =>
    rcases holds_or_separates {} text with holds | ⟨first, rest, rfl, holds, level⟩
    · exact ⟨[], text, rfl, List.forall_mem_nil _, holds⟩
    -- What is left begins behind the comma only, so the induction is on the length.
    · have shorter : rest.length < n := by
        simp only [List.length_append, List.length_cons] at length
        omega
      obtain ⟨ended, last, rfl, whole, holdsLast⟩ := ih rest.length shorter rest rfl
      refine ⟨first :: ended, last, (row_cons first ended last).symm, ?_, holdsLast⟩
      exact List.forall_mem_cons.mpr ⟨⟨holds, (Depth.isLevel_iff _).mp level⟩, whole⟩

/-! ### Tokens -/

/-- The tokens of stretches: what is there without the blanks around it. -/
def tokensOf (stretches : List (List Char)) : List (List Char) :=
  (stretches.map trim).filter (· ≠ [])

theorem tokensOf_append (first second : List (List Char)) :
    tokensOf (first ++ second) = tokensOf first ++ tokensOf second := by
  simp [tokensOf]

theorem exists_stretch {stretches : List (List Char)} {token : List Char}
    (member : token ∈ tokensOf stretches) :
    ∃ stretch ∈ stretches, trim stretch = token ∧ token ≠ [] := by
  obtain ⟨among, filled⟩ := List.mem_filter.mp member
  obtain ⟨stretch, listed, trimmed⟩ := List.mem_map.mp among
  exact ⟨stretch, listed, trimmed, by simpa using filled⟩

theorem split_eq_tokensOf {text : List Char} (holds : Holds {} text) : split text = tokensOf [text] := by
  have single : pieces {} text = [text] := holds
  by_cases seen : trim text = [] <;> simp [split, tokensOf, single, seen]

theorem split_row {ended : List (List Char)} {last : List Char}
    (whole : ∀ stretch ∈ ended, IsWhole stretch) (holds : Holds {} last) :
    split (row ended last) = tokensOf (ended ++ [last]) := by
  induction ended with
  | nil => exact split_eq_tokensOf holds
  | cons first ended ih =>
    obtain ⟨here, others⟩ := List.forall_mem_cons.mp whole
    have level := (isLevel_after_iff first).mpr (isBalanced_of_isWhole here)
    rw [row_cons, split_append_comma level, ih others, split_eq_tokensOf here.1, ← tokensOf_append,
      List.singleton_append, List.cons_append]

/-- Tokens that are joined with commas are split off again, if all but the last one are whole. -/
theorem split_intercalate {tokens : List (List Char)}
    (whole : ∀ token ∈ tokens.dropLast, IsWhole token) (holds : ∀ token ∈ tokens, Holds {} token)
    (trimmed : ∀ token ∈ tokens, trim token = token ∧ token ≠ []) :
    split ([','].intercalate tokens) = tokens := by
  induction tokens with
  | nil => rfl
  | cons first rest ih =>
    obtain ⟨here, behind⟩ := List.forall_mem_cons.mp holds
    obtain ⟨⟨bare, filled⟩, others⟩ := List.forall_mem_cons.mp trimmed
    have alone : split first = [first] := by
      have seen : trim first ≠ [] := by rwa [bare]
      rw [split_of_holds here seen, bare]
    cases rest with
    | nil => simpa using alone
    | cons next rest =>
      -- The first token is not the last one, so the comma behind it separates.
      rw [List.dropLast_cons_cons, List.forall_mem_cons] at whole
      have level := (isLevel_after_iff first).mpr (isBalanced_of_isWhole whole.1)
      rw [List.intercalate_cons_cons, List.append_assoc, List.singleton_append,
        split_append_comma level, ih whole.2 behind others, alone, List.singleton_append]

section Row

variable {ended : List (List Char)} {last token : List Char}

/-- A token that was ended by a comma is whole. -/
theorem isWhole_of_mem_tokensOf (whole : ∀ stretch ∈ ended, IsWhole stretch)
    (member : token ∈ tokensOf ended) : IsWhole token := by
  obtain ⟨stretch, among, rfl, -⟩ := exists_stretch member
  exact (isWhole_trim_iff stretch).mpr (whole stretch among)

theorem holds_of_mem_tokensOf (whole : ∀ stretch ∈ ended, IsWhole stretch) (holds : Holds {} last)
    (member : token ∈ tokensOf (ended ++ [last])) : Holds {} token := by
  rw [tokensOf_append, List.mem_append] at member
  rcases member with among | among
  · exact (isWhole_of_mem_tokensOf whole among).1
  · obtain ⟨stretch, same, rfl, -⟩ := exists_stretch among
    obtain rfl := List.mem_singleton.mp same
    exact (holds_trim_iff {} stretch).mpr holds

/-- Only the last token may come from the last stretch. -/
theorem isWhole_of_mem_dropLast (whole : ∀ stretch ∈ ended, IsWhole stretch)
    (member : token ∈ (tokensOf (ended ++ [last])).dropLast) : IsWhole token := by
  apply isWhole_of_mem_tokensOf whole
  rw [tokensOf_append] at member
  by_cases seen : trim last = []
  · have none : tokensOf [last] = [] := by simp [tokensOf, seen]
    rw [none, List.append_nil] at member
    exact List.dropLast_subset _ member
  · have one : tokensOf [last] = [trim last] := by simp [tokensOf, seen]
    rwa [one, List.dropLast_concat] at member

end Row

/-- A text is a row of stretches that are ended by commas and a last one, and its tokens are what
these are without the blanks around them. No token has a comma that could separate, those that a
comma has ended are balanced, and the tokens are read again from the list that is written of them.
What is added behind a comma after a balanced text is split on its own. -/
theorem tokens_lose_blanks_only (text : List Char) :
    (∀ token ∈ split text, token ≠ [] ∧ (∀ c rest, token = c :: rest → isBlank c = false) ∧
      ∀ front c, token = front ++ [c] → isBlank c = false) ∧
    (∀ token ∈ split text, ∀ before after, token = before ++ ',' :: after → ¬ IsBalanced before) ∧
    (∃ ended last, text = row ended last ∧ split text = tokensOf (ended ++ [last]) ∧
      ∀ token ∈ tokensOf ended, IsBalanced token) ∧
    split ([','].intercalate (split text)) = split text ∧
    (IsBalanced text → ∀ other, split (text ++ ',' :: other) = split text ++ split other) := by
  obtain ⟨ended, last, rfl, whole, holds⟩ := exists_row text
  have tokens := split_row whole holds
  refine ⟨?_, ?_, ⟨ended, last, rfl, tokens, ?_⟩, ?_, ?_⟩
  · intro token member
    obtain ⟨stretch, -, trimmed, filled⟩ := exists_stretch (tokens ▸ member)
    exact ⟨filled, fun c rest same => not_isBlank_of_trim (trimmed.trans same),
      fun front c same => not_isBlank_of_trim_concat (trimmed.trans same)⟩
  · rintro token member before after rfl
    exact not_isBalanced_of_holds (holds_of_mem_tokensOf whole holds (tokens ▸ member))
  · exact fun token member => isBalanced_of_isWhole (isWhole_of_mem_tokensOf whole member)
  · rw [tokens]
    apply split_intercalate
    · exact fun token member => isWhole_of_mem_dropLast whole member
    · exact fun token member => holds_of_mem_tokensOf whole holds member
    · intro token member
      obtain ⟨stretch, -, rfl, filled⟩ := exists_stretch member
      exact ⟨trim_trim stretch, filled⟩
  · exact fun balanced other => split_append_comma ((isLevel_after_iff _).mpr balanced) other

/-- Brackets and braces that cross each other, blanks, and a last token that is left open. -/
theorem tokens_lose_blanks_only_of_crossed :
    let text := " \x7b[,\x7d] ,, b,[c,d".toList
    split text = ["\x7b[,\x7d]".toList, "b".toList, "[c,d".toList] ∧
      split ([','].intercalate (split text)) = split text ∧
      split ("\x7b[,\x7d]".toList ++ ',' :: text) = split "\x7b[,\x7d]".toList ++ split text := by
  intro text
  obtain ⟨-, -, -, joined, -⟩ := tokens_lose_blanks_only text
  obtain ⟨-, -, -, -, separated⟩ := tokens_lose_blanks_only "\x7b[,\x7d]".toList
  exact ⟨by decide +kernel, joined, separated (by decide +kernel) text⟩

end Targeting.Argument
