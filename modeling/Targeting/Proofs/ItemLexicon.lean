import Mathlib.Data.List.Induction
import Targeting.Item.Token

/-!
# The lexicon of item conditions

Which tokens a text consists of, said without a lexer: a word is the longest one
that the text goes on with, a string ends at the first quote that is not
escaped, and only ASCII blanks may stand between tokens.

## Main result

`tokens?_eq_some_iff`: the lexer finds exactly the tokens that the text consists
of, and finds nothing in any other text.
-/
namespace Targeting.Item

open Text

/-! ### Words -/

/-- A start character and further characters of a word. -/
def IsPart (cs : List Char) : Prop :=
  ∃ first rest, cs = first :: rest ∧ isWordStart first = true ∧ ∀ c ∈ rest, isWordChar c = true

/-- Parts with spaces and tabs between them. -/
inductive IsWord : List Char → Prop where
  | part {cs : List Char} (part : IsPart cs) : IsWord cs
  | join {cs joints rest : List Char} (part : IsPart cs) (apart : joints ≠ [])
      (between : ∀ c ∈ joints, isJoint c = true) (word : IsWord rest) :
      IsWord (cs ++ joints ++ rest)

/-- The text begins with the word and with no longer one. -/
structure LongestWord (word text : List Char) : Prop where
  isWord : IsWord word
  begins : word <+: text
  longest : ∀ other, IsWord other → other <+: text → other.length ≤ word.length

theorem isWordChar_of_isWordStart {c : Char} (starts : isWordStart c = true) :
    isWordChar c = true := by
  simp only [isWordStart, Bool.and_eq_true] at starts
  exact starts.1

theorem isBlank_of_isGap {c : Char} (gap : isGap c = true) : isBlank c = true := by
  simp only [isGap, Bool.or_eq_true, decide_eq_true_eq] at gap
  rcases gap with (((rfl | rfl) | rfl) | rfl) | rfl <;> decide

theorem isBlank_of_isJoint {c : Char} (joint : isJoint c = true) : isBlank c = true := by
  simp only [isJoint, Bool.or_eq_true, decide_eq_true_eq] at joint
  rcases joint with rfl | rfl <;> decide

theorem isBlank_of_isWordChar {c : Char} (inside : isWordChar c = true) : isBlank c = false := by
  simp only [isWordChar, Bool.and_eq_true, Bool.not_eq_true'] at inside
  exact inside.2

theorem mark?_of_isWordChar {c : Char} (inside : isWordChar c = true) : mark? c = none := by
  simp only [isWordChar, Bool.and_eq_true, Option.isNone_iff_eq_none] at inside
  exact inside.1

theorem isBlank_of_mark {c : Char} {mark : Token} (marks : mark? c = some mark) :
    isBlank c = false := by
  unfold mark? at marks
  split at marks <;> first | decide | cases marks

theorem isGap_of_not_isBlank {c : Char} (solid : isBlank c = false) : isGap c = false := by
  cases gap : isGap c with
  | false => rfl
  | true => exact absurd (isBlank_of_isGap gap) (by simp [solid])

theorem isJoint_of_isWordStart {c : Char} (starts : isWordStart c = true) : isJoint c = false := by
  cases joint : isJoint c with
  | false => rfl
  | true =>
    have solid := isBlank_of_isWordChar (isWordChar_of_isWordStart starts)
    exact absurd (isBlank_of_isJoint joint) (by simp [solid])

theorem wordRest_eq (cs : List Char) : (wordRest cs).1 ++ (wordRest cs).2 = cs := by
  induction cs with
  | nil => rfl
  | cons c cs ih =>
    unfold wordRest
    split
    · simp [ih]
    · rfl

theorem wordRest_cons_of_pos {c : Char} {cs : List Char}
    (part : (isWordChar c || (isJoint c && partFollows cs)) = true) :
    wordRest (c :: cs) = (c :: (wordRest cs).1, (wordRest cs).2) := by
  rw [wordRest, if_pos part]

theorem wordRest_cons_of_neg {c : Char} {cs : List Char}
    (ends : (isWordChar c || (isJoint c && partFollows cs)) = false) :
    wordRest (c :: cs) = ([], c :: cs) := by
  rw [wordRest, if_neg (by simp [ends])]

theorem partFollows_cons_of_isJoint {c : Char} (joint : isJoint c = true) (cs : List Char) :
    partFollows (c :: cs) = partFollows cs := by
  unfold partFollows
  rw [List.dropWhile_cons_of_pos joint]

theorem partFollows_cons_of_not_isJoint {c : Char} (solid : isJoint c = false) (cs : List Char) :
    partFollows (c :: cs) = isWordStart c := by
  unfold partFollows
  rw [List.dropWhile_cons_of_neg (by simp [solid])]

/-! The rest of a word continues the part that has been read, or the joints behind that part. -/

theorem isWord_append_wordRest (cs : List Char) :
    (∀ part, IsPart part → IsWord (part ++ (wordRest cs).1)) ∧
      (partFollows cs = true → ∀ part joints, IsPart part → joints ≠ [] →
        (∀ c ∈ joints, isJoint c = true) → IsWord (part ++ joints ++ (wordRest cs).1)) := by
  induction cs with
  | nil =>
    constructor
    · intro part isPart
      rw [wordRest, List.append_nil]
      exact .part isPart
    · intro follows
      simp [partFollows] at follows
  | cons c cs ih =>
    obtain ⟨inPart, inJoints⟩ := ih
    constructor
    · intro part isPart
      by_cases inside : isWordChar c = true
      · rw [wordRest_cons_of_pos (by simp [inside]), List.append_cons]
        apply inPart
        obtain ⟨first, rest, rfl, starts, chars⟩ := isPart
        refine ⟨first, rest ++ [c], rfl, starts, ?_⟩
        intro d member
        rcases List.mem_append.mp member with member | member
        · exact chars d member
        · rwa [List.mem_singleton.mp member]
      · by_cases joins : isJoint c = true ∧ partFollows cs = true
        · rw [wordRest_cons_of_pos (by simp [joins]), List.append_cons]
          apply inJoints joins.2 part [c] isPart (by simp)
          simpa using joins.1
        · rw [wordRest_cons_of_neg (by simpa [inside] using joins), List.append_nil]
          exact .part isPart
    · intro follows part joints isPart apart between
      by_cases joint : isJoint c = true
      · rw [partFollows_cons_of_isJoint joint] at follows
        rw [wordRest_cons_of_pos (by simp [joint, follows]), List.append_cons,
          List.append_assoc part joints [c]]
        apply inJoints follows part (joints ++ [c]) isPart (by simp)
        intro d member
        rcases List.mem_append.mp member with member | member
        · exact between d member
        · rwa [List.mem_singleton.mp member]
      · rw [partFollows_cons_of_not_isJoint (by simpa using joint)] at follows
        rw [wordRest_cons_of_pos (by simp [isWordChar_of_isWordStart follows])]
        -- The joints are over, and with this character another part begins.
        exact .join isPart apart between (inPart [c] ⟨c, [], rfl, follows, by simp⟩)

theorem isWord_cons_wordRest {c : Char} (starts : isWordStart c = true) (cs : List Char) :
    IsWord (c :: (wordRest cs).1) :=
  (isWord_append_wordRest cs).1 [c] ⟨c, [], rfl, starts, by simp⟩

theorem wordRest_append_chars {chars : List Char} (inside : ∀ c ∈ chars, isWordChar c = true)
    (tail : List Char) :
    wordRest (chars ++ tail) = (chars ++ (wordRest tail).1, (wordRest tail).2) := by
  induction chars with
  | nil => rfl
  | cons c chars ih =>
    have head : isWordChar c = true := inside c (by simp)
    rw [List.cons_append, wordRest_cons_of_pos (by simp [head]),
      ih fun d member => inside d (by simp [member])]
    rfl

theorem wordRest_append_joints {joints : List Char} (between : ∀ c ∈ joints, isJoint c = true)
    {first : Char} (starts : isWordStart first = true) (tail : List Char) :
    wordRest (joints ++ first :: tail) =
      (joints ++ first :: (wordRest tail).1, (wordRest tail).2) := by
  induction joints with
  | nil => exact wordRest_cons_of_pos (by simp [isWordChar_of_isWordStart starts])
  | cons c joints ih =>
    have later : ∀ d ∈ joints, isJoint d = true := fun d member => between d (by simp [member])
    have follows : partFollows (joints ++ first :: tail) = true := by
      unfold partFollows
      rw [List.dropWhile_append_of_pos later,
        List.dropWhile_cons_of_neg (by simp [isJoint_of_isWordStart starts])]
      exact starts
    rw [List.cons_append, wordRest_cons_of_pos (by simp [between c (by simp), follows]), ih later]
    rfl

/-- A word at the start of a text is read to its end at least. -/
theorem wordRest_append_of_isWord {word : List Char} (isWord : IsWord word) :
    ∃ first rest, word = first :: rest ∧ isWordStart first = true ∧
      ∀ tail, wordRest (rest ++ tail) = (rest ++ (wordRest tail).1, (wordRest tail).2) := by
  induction isWord with
  | part isPart =>
    obtain ⟨first, rest, rfl, starts, inside⟩ := isPart
    exact ⟨first, rest, rfl, starts, wordRest_append_chars inside⟩
  | @join part joints behind isPart _ between _ ih =>
    obtain ⟨first, rest, rfl, starts, inside⟩ := isPart
    obtain ⟨next, others, rfl, begins, reads⟩ := ih
    refine ⟨first, rest ++ joints ++ next :: others, rfl, starts, ?_⟩
    intro tail
    rw [List.append_assoc, List.append_assoc, wordRest_append_chars inside, List.append_assoc,
      List.cons_append, wordRest_append_joints between begins, reads]
    simp

theorem longestWord_wordRest {c : Char} (starts : isWordStart c = true) (cs : List Char) :
    LongestWord (c :: (wordRest cs).1) (c :: cs) := by
  refine ⟨isWord_cons_wordRest starts cs, ?_, ?_⟩
  · exact ⟨(wordRest cs).2, by rw [List.cons_append, wordRest_eq]⟩
  · rintro other isWord ⟨tail, begins⟩
    obtain ⟨first, rest, rfl, -, reads⟩ := wordRest_append_of_isWord isWord
    rw [List.cons_append] at begins
    obtain ⟨rfl, rfl⟩ := List.cons.inj begins
    rw [reads]
    simp

theorem wordRest_of_longestWord {word tail : List Char}
    (longest : LongestWord word (word ++ tail)) :
    ∃ first rest, word = first :: rest ∧ isWordStart first = true ∧
      wordRest (rest ++ tail) = (rest, tail) := by
  obtain ⟨first, rest, rfl, starts, reads⟩ := wordRest_append_of_isWord longest.isWord
  refine ⟨first, rest, rfl, starts, ?_⟩
  -- What the lexer reads is a word as well, so it is no longer than this one.
  have bound := longest.longest _ (isWord_cons_wordRest starts (rest ++ tail))
    ⟨(wordRest (rest ++ tail)).2, by rw [List.cons_append, wordRest_eq]; rfl⟩
  have parts := wordRest_eq tail
  rw [reads] at bound ⊢
  have ends : (wordRest tail).1 = [] := by
    simp only [List.length_cons, List.length_append] at bound
    exact List.eq_nil_of_length_eq_zero (by omega)
  rw [ends, List.nil_append] at parts
  rw [ends, parts, List.append_nil]

theorem isWordChar_of_isPart {part : List Char} (isPart : IsPart part) {c : Char} (member : c ∈ part) :
    isWordChar c = true := by
  obtain ⟨first, rest, rfl, starts, inside⟩ := isPart
  rcases List.mem_cons.mp member with rfl | member
  · exact isWordChar_of_isWordStart starts
  · exact inside c member

theorem isWordChar_or_isJoint {word : List Char} (isWord : IsWord word) :
    ∀ c ∈ word, isWordChar c = true ∨ isJoint c = true := by
  induction isWord with
  | part isPart => exact fun c member => .inl (isWordChar_of_isPart isPart member)
  | join isPart _ between _ ih =>
    rw [List.forall_mem_append, List.forall_mem_append]
    exact ⟨⟨fun c member => .inl (isWordChar_of_isPart isPart member),
      fun c member => .inr (between c member)⟩, ih⟩

theorem exists_last_of_isWord {word : List Char} (isWord : IsWord word) :
    ∃ front last, word = front ++ [last] ∧ isWordChar last = true := by
  induction isWord with
  | part isPart =>
    have filled := isPart
    obtain ⟨first, rest, rfl, -⟩ := filled
    have filled : first :: rest ≠ [] := List.cons_ne_nil first rest
    exact ⟨_, _, (List.dropLast_concat_getLast filled).symm,
      isWordChar_of_isPart isPart (List.getLast_mem filled)⟩
  | @join part joints _ _ _ _ _ ih =>
    obtain ⟨front, last, rfl, inside⟩ := ih
    exact ⟨part ++ joints ++ front, last, by simp, inside⟩

/-- No mark is part of a word. -/
theorem not_mem_of_isWord {word : List Char} (isWord : IsWord word) {c : Char} {mark : Token}
    (marks : mark? c = some mark) : c ∉ word := by
  intro member
  rcases isWordChar_or_isJoint isWord _ member with inside | joint
  · rw [mark?_of_isWordChar inside] at marks
    cases marks
  · have solid := isBlank_of_mark marks
    rw [isBlank_of_isJoint joint] at solid
    cases solid

/-- A word in front of a mark ends there. -/
theorem longestWord_of_mark {word : List Char} (isWord : IsWord word) {c : Char} {mark : Token}
    (marks : mark? c = some mark) (rest : List Char) : LongestWord word (word ++ c :: rest) := by
  refine ⟨isWord, List.prefix_append word (c :: rest), fun other isOther begins => ?_⟩
  by_contra longer
  -- A longer word would have the mark in it.
  have through : word ++ [c] <+: word ++ c :: rest := ⟨rest, (List.append_cons word c rest).symm⟩
  have within : word ++ [c] <+: other :=
    List.prefix_of_prefix_length_le through begins (by simp; omega)
  exact not_mem_of_isWord isOther marks (within.subset (by simp))

/-! ### Strings -/

/-- How many backslashes the text ends with. -/
def backslashes (cs : List Char) : Nat := (cs.reverse.takeWhile (· = '\\')).length

/-- What may stand between the quotes of a string: one line, in which a quote follows an odd number
of backslashes only, and which ends with an even number of them. -/
structure IsRaw (raw : List Char) : Prop where
  oneLine : '\n' ∉ raw
  escapes : ∀ before after, raw = before ++ '"' :: after → backslashes before % 2 = 1
  ends : backslashes raw % 2 = 0

/-- Whether the character behind the text is escaped. -/
def escapesNext (escaped : Bool) (cs : List Char) : Bool :=
  cs.foldl (fun escaped c => c = '\\' && !escaped) escaped

theorem backslashes_snoc (cs : List Char) (c : Char) :
    backslashes (cs ++ [c]) = if c = '\\' then backslashes cs + 1 else 0 := by
  unfold backslashes
  rw [List.reverse_append, List.reverse_singleton, List.singleton_append]
  by_cases escape : c = '\\'
  · rw [if_pos escape, List.takeWhile_cons_of_pos (by simpa using escape), List.length_cons]
  · rw [if_neg escape, List.takeWhile_cons_of_neg (by simpa using escape), List.length_nil]

theorem escapesNext_eq (cs : List Char) :
    escapesNext false cs = decide (backslashes cs % 2 = 1) := by
  induction cs using List.reverseRecOn with
  | nil => rfl
  | append_singleton cs c ih =>
    have step : escapesNext false (cs ++ [c]) = (decide (c = '\\') && !escapesNext false cs) := by
      simp only [escapesNext, List.foldl_append, List.foldl_cons, List.foldl_nil]
    rw [step, ih, backslashes_snoc]
    by_cases escape : c = '\\'
    · simp only [escape, decide_true, Bool.true_and, if_true]
      rw [Bool.eq_iff_iff]
      simp only [Bool.not_eq_true', decide_eq_false_iff_not, decide_eq_true_eq]
      omega
    · simp [escape]

/-- The same where the character in front may already escape the first one. -/
structure RawFrom (escaped : Bool) (raw : List Char) : Prop where
  oneLine : '\n' ∉ raw
  escapes : ∀ before after, raw = before ++ '"' :: after → escapesNext escaped before = true
  ends : escapesNext escaped raw = false

theorem isRaw_iff (raw : List Char) : IsRaw raw ↔ RawFrom false raw := by
  constructor
  · rintro ⟨oneLine, escapes, ends⟩
    refine ⟨oneLine, fun before after parts => ?_, ?_⟩
    · simpa [escapesNext_eq] using escapes before after parts
    · simpa [escapesNext_eq] using ends
  · rintro ⟨oneLine, escapes, ends⟩
    refine ⟨oneLine, fun before after parts => ?_, ?_⟩
    · simpa [escapesNext_eq] using escapes before after parts
    · simpa [escapesNext_eq] using ends

theorem rawFrom_nil (escaped : Bool) : RawFrom escaped [] ↔ escaped = false := by
  constructor
  · exact fun raw => raw.ends
  · exact fun plain => ⟨by simp, by simp, plain⟩

theorem rawFrom_cons (escaped : Bool) (c : Char) (raw : List Char) : RawFrom escaped (c :: raw) ↔
    c ≠ '\n' ∧ (c = '"' → escaped = true) ∧ RawFrom (c = '\\' && !escaped) raw := by
  constructor
  · rintro ⟨oneLine, escapes, ends⟩
    refine ⟨fun feed => oneLine (by simp [feed]), ?_, ?_, ?_, ends⟩
    · rintro rfl
      exact escapes [] raw rfl
    · exact fun member => oneLine (by simp [member])
    · intro before after parts
      exact escapes (c :: before) after (by rw [parts, List.cons_append])
  · rintro ⟨solid, opens, oneLine, escapes, ends⟩
    refine ⟨by simp [Ne.symm solid, oneLine], ?_, ends⟩
    intro before after parts
    cases before with
    | nil =>
      rw [List.nil_append] at parts
      exact opens (List.cons.inj parts).1
    | cons d before =>
      rw [List.cons_append] at parts
      obtain ⟨rfl, shorter⟩ := List.cons.inj parts
      exact escapes before after shorter

/-- A string is read to its closing quote, and only if it has one. -/
theorem stringRest?_eq_some_iff {escaped : Bool} {cs raw tail : List Char} :
    stringRest? escaped cs = some (raw, tail) ↔ cs = raw ++ '"' :: tail ∧ RawFrom escaped raw := by
  induction cs generalizing escaped raw with
  | nil => simp [stringRest?]
  | cons c cs ih =>
    unfold stringRest?
    by_cases closes : c = '"' ∧ escaped = false
    · obtain ⟨rfl, rfl⟩ := closes
      cases raw with
      | nil => simp [rawFrom_nil, eq_comm]
      | cons d raw =>
        simp only [decide_true, Bool.not_false, Bool.true_and, if_true, Option.some.injEq,
          Prod.mk.injEq, reduceCtorEq, false_and, List.cons_append, List.cons.injEq, rawFrom_cons,
          false_iff, not_and]
        rintro ⟨rfl, -⟩ -
        simp
    · have opened : ¬ (decide (c = '"') && !escaped) = true := by simpa using closes
      rw [if_neg opened]
      by_cases feed : c = '\n'
      · subst feed
        cases raw <;> simp [rawFrom_cons]
        rintro rfl
        simp
      · rw [if_neg feed]
        cases raw with
        | nil =>
          simp only [Option.map_eq_some_iff, Prod.mk.injEq, reduceCtorEq, false_and, and_false,
            exists_false, List.nil_append, List.cons.injEq, rawFrom_nil, false_iff, not_and]
          rintro ⟨rfl, -⟩ plain
          exact closes ⟨rfl, plain⟩
        | cons d raw =>
          simp only [Option.map_eq_some_iff, Prod.mk.injEq, List.cons.injEq, List.cons_append,
            rawFrom_cons, Prod.exists]
          constructor
          · rintro ⟨inner, rest, found, ⟨rfl, rfl⟩, rfl⟩
            obtain ⟨rfl, raw⟩ := ih.mp found
            exact ⟨⟨rfl, rfl⟩, feed, by simpa using closes, raw⟩
          · rintro ⟨⟨rfl, rfl⟩, -, -, raw⟩
            exact ⟨_, _, ih.mpr ⟨rfl, raw⟩, ⟨rfl, rfl⟩, rfl⟩

/-! ### Texts -/

/-- The text consists of the tokens and of ASCII blanks between them. -/
inductive Lexes : List Char → List Token → Prop where
  | nil : Lexes [] []
  | gap {c : Char} {rest : List Char} {tokens : List Token} (gap : isGap c = true)
      (lexed : Lexes rest tokens) : Lexes (c :: rest) tokens
  | mark {c : Char} {mark : Token} {rest : List Char} {tokens : List Token}
      (marks : mark? c = some mark) (lexed : Lexes rest tokens) : Lexes (c :: rest) (mark :: tokens)
  | word {word rest : List Char} {tokens : List Token} (longest : LongestWord word (word ++ rest))
      (lexed : Lexes rest tokens) : Lexes (word ++ rest) (.word word :: tokens)
  | quoted {raw rest : List Char} {tokens : List Token} (isRaw : IsRaw raw)
      (lexed : Lexes rest tokens) : Lexes ('"' :: (raw ++ '"' :: rest)) (.quoted raw :: tokens)

theorem lexes_of_tokens {cs : List Char} {tokens : List Token} (found : tokens? cs = some tokens) :
    Lexes cs tokens := by
  fun_induction tokens? cs generalizing tokens with
  | case1 =>
    cases found
    exact .nil
  | case2 c rest gap ih => exact .gap gap (ih found)
  | case3 c rest solid mark marks ih =>
    obtain ⟨others, hit, rfl⟩ := Option.map_eq_some_iff.mp found
    exact .mark marks (ih hit)
  | case4 => cases found
  | case5 rest raw tail closed _ _ ih =>
    obtain ⟨others, hit, rfl⟩ := Option.map_eq_some_iff.mp found
    obtain ⟨rfl, raw⟩ := stringRest?_eq_some_iff.mp closed
    exact .quoted ((isRaw_iff _).mpr raw) (ih hit)
  | case6 c rest _ _ _ starts ih =>
    obtain ⟨others, hit, rfl⟩ := Option.map_eq_some_iff.mp found
    have parts : c :: (wordRest rest).1 ++ (wordRest rest).2 = c :: rest := by
      rw [List.cons_append, wordRest_eq]
    have longest := longestWord_wordRest starts rest
    rw [← parts] at longest ⊢
    exact .word longest (ih hit)
  | case7 => cases found

theorem tokens?_mark {c : Char} {mark : Token} (marks : mark? c = some mark) (rest : List Char) :
    tokens? (c :: rest) = (tokens? rest).map (mark :: ·) := by
  have solid := isGap_of_not_isBlank (isBlank_of_mark marks)
  rw [tokens?, if_neg (by simp [solid])]
  simp only [marks]

theorem tokens?_word {word rest : List Char} (longest : LongestWord word (word ++ rest)) :
    tokens? (word ++ rest) = (tokens? rest).map (.word word :: ·) := by
  obtain ⟨first, others, rfl, starts, reads⟩ := wordRest_of_longestWord longest
  have inside := isWordChar_of_isWordStart starts
  have solid := isGap_of_not_isBlank (isBlank_of_isWordChar inside)
  have unquoted : first ≠ '"' := by
    rintro rfl
    cases starts
  rw [List.cons_append, tokens?, if_neg (by simp [solid])]
  simp only [mark?_of_isWordChar inside, unquoted, starts, reads, if_true, if_false]

theorem tokens?_quoted {raw : List Char} (isRaw : IsRaw raw) (rest : List Char) :
    tokens? ('"' :: (raw ++ '"' :: rest)) = (tokens? rest).map (.quoted raw :: ·) := by
  have closed : stringRest? false (raw ++ '"' :: rest) = some (raw, rest) :=
    stringRest?_eq_some_iff.mpr ⟨rfl, (isRaw_iff raw).mp isRaw⟩
  have opens : mark? '"' = none := rfl
  rw [tokens?, if_neg (by decide)]
  simp only [opens, if_true]
  split
  next absent => simp [closed] at absent
  next raw' rest' found =>
    obtain ⟨rfl, rfl⟩ := Prod.mk.inj (Option.some.inj (closed.symm.trans found))
    rfl

theorem tokens_of_lexes {cs : List Char} {tokens : List Token} (lexed : Lexes cs tokens) :
    tokens? cs = some tokens := by
  induction lexed with
  | nil => rw [tokens?]
  | gap gap _ ih => rw [tokens?, if_pos gap, ih]
  | mark marks _ ih => rw [tokens?_mark marks, ih, Option.map_some]
  | word longest _ ih => rw [tokens?_word longest, ih, Option.map_some]
  | quoted isRaw _ ih => rw [tokens?_quoted isRaw, ih, Option.map_some]

/-- The lexer finds the tokens that a text consists of, and only those. -/
theorem tokens?_eq_some_iff {cs : List Char} {tokens : List Token} :
    tokens? cs = some tokens ↔ Lexes cs tokens :=
  ⟨lexes_of_tokens, tokens_of_lexes⟩

end Targeting.Item
