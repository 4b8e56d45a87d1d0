import Mathlib.Data.List.Basic
import Mathlib.Data.List.TakeWhile
import Targeting.Json.Reader

/-!
# The lexicon of json

Blanks, string literals, words and numbers as relations between characters and
what they stand for, and the scanners as their decision procedures.

## Main results

`readUnits_eq_some_iff`, `readUnsigned_eq_ok_iff` and `readUnsigned_eq_error_iff`:
what is scanned is the lexeme in front of the text. A number ends where neither a
digit nor a fraction nor an exponent can follow.

## Proof strategy

The scanners take the longest run of what they look for, so each is described by
the run and by what cannot follow it.
-/
namespace Targeting.Json

/-! ### Blanks -/

def Gap (cs : List Char) : Prop := ∀ c ∈ cs, isGap c = true

theorem exists_gap (cs : List Char) : ∃ gap, Gap gap ∧ cs = gap ++ skipGaps cs :=
  ⟨cs.takeWhile isGap, fun _ member => List.mem_takeWhile_imp member,
    List.takeWhile_append_dropWhile.symm⟩

theorem skipGaps_append {gap : List Char} (blank : Gap gap) (rest : List Char) :
    skipGaps (gap ++ rest) = skipGaps rest :=
  List.dropWhile_append_of_pos blank

theorem skipGaps_cons {c : Char} (solid : isGap c = false) (rest : List Char) :
    skipGaps (c :: rest) = c :: rest :=
  List.dropWhile_cons_of_neg (by simp [solid])

theorem skipGaps_eq_nil_iff (cs : List Char) : skipGaps cs = [] ↔ Gap cs :=
  List.dropWhile_eq_nil_iff

/-! ### String literals -/

/-- The code units that the characters between two quotes stand for. -/
inductive Units : List Nat → List Char → Prop where
  | nil : Units [] []
  | plain {c : Char} {units : List Nat} {cs : List Char} (unquoted : c ≠ '"') (unescaped : c ≠ '\\')
      (printable : 0x20 ≤ c.toNat) (rest : Units units cs) : Units (c.toNat :: units) (c :: cs)
  | escape {mark : Char} {unit : Nat} {units : List Nat} {cs : List Char}
      (known : escapeUnit? mark = some unit) (rest : Units units cs) :
      Units (unit :: units) ('\\' :: mark :: cs)
  | hex {a b c d : Char} {unit : Nat} {units : List Nat} {cs : List Char}
      (digits : hexUnit? a b c d = some unit) (rest : Units units cs) :
      Units (unit :: units) ('\\' :: 'u' :: a :: b :: c :: d :: cs)

theorem exists_units_of_readUnits {cs tail : List Char} {units : List Nat}
    (read : readUnits cs = some (units, tail)) :
    ∃ literal, cs = literal ++ '"' :: tail ∧ Units units literal := by
  fun_induction readUnits cs generalizing units tail with
  | case1 => cases read
  | case2 rest =>
    cases read
    exact ⟨[], rfl, .nil⟩
  | case3 a b c d rest ih =>
    simp only [Option.bind_eq_bind, Option.bind_eq_some_iff] at read
    obtain ⟨unit, digits, ⟨others, after⟩, hit, same⟩ := read
    cases same
    obtain ⟨literal, rfl, spelled⟩ := ih hit
    exact ⟨_, rfl, .hex digits spelled⟩
  | case4 mark rest _ ih =>
    simp only [Option.bind_eq_bind, Option.bind_eq_some_iff] at read
    obtain ⟨unit, known, ⟨others, after⟩, hit, same⟩ := read
    cases same
    obtain ⟨literal, rfl, spelled⟩ := ih hit
    exact ⟨_, rfl, .escape known spelled⟩
  | case5 => cases read
  | case6 c rest unquoted _ _ printable ih =>
    simp only [Option.bind_eq_bind, Option.bind_eq_some_iff] at read
    obtain ⟨⟨others, after⟩, hit, same⟩ := read
    cases same
    obtain ⟨literal, rfl, spelled⟩ := ih hit
    simp only [Bool.or_eq_true, decide_eq_true_eq, not_or, Nat.not_lt] at printable
    exact ⟨c :: literal, rfl, .plain unquoted printable.2 printable.1 spelled⟩

theorem readUnits_of_units {literal : List Char} {units : List Nat} (spelled : Units units literal)
    (tail : List Char) : readUnits (literal ++ '"' :: tail) = some (units, tail) := by
  induction spelled with
  | nil => rfl
  | plain unquoted unescaped printable _ ih =>
    rw [List.cons_append, readUnits, if_neg (by simp [printable, unescaped]), ih]
    · rfl
    · exact unquoted
    · intro _ _ _ _ _ same
      exact absurd same unescaped
    · intro _ _ same
      exact absurd same unescaped
  | escape known _ ih =>
    rw [List.cons_append, List.cons_append, readUnits]
    · rw [known, ih]
      rfl
    -- The mark of a code unit in digits is no mark of its own.
    · rintro a b c d rest rfl
      cases known
  | hex digits _ ih =>
    simp only [List.cons_append, readUnits, digits, ih]
    rfl

/-- What is read of a literal stands in front of the first quote that is not escaped. -/
theorem readUnits_eq_some_iff {cs tail : List Char} {units : List Nat} :
    readUnits cs = some (units, tail) ↔ ∃ literal, cs = literal ++ '"' :: tail ∧ Units units literal := by
  constructor
  · exact exists_units_of_readUnits
  · rintro ⟨literal, rfl, spelled⟩
    exact readUnits_of_units spelled tail

/-- The text of a literal. -/
def textOf (units : List Nat) : String := String.ofList (joinUnits units)

theorem readString_eq_some_iff {cs tail : List Char} {content : String} :
    readString cs = some (content, tail) ↔
      ∃ units literal, cs = literal ++ '"' :: tail ∧ Units units literal ∧ textOf units = content := by
  rw [readString, Option.map_eq_some_iff]
  constructor
  · rintro ⟨⟨units, after⟩, read, same⟩
    cases same
    obtain ⟨literal, rfl, spelled⟩ := readUnits_eq_some_iff.mp read
    exact ⟨units, literal, rfl, spelled, rfl⟩
  · rintro ⟨units, literal, rfl, spelled, rfl⟩
    exact ⟨(units, tail), readUnits_of_units spelled tail, rfl⟩

/-- A key with its colon, up to the value. -/
inductive Key : String → List Char → Prop where
  | named {units : List Nat} {literal before after : List Char} (spelled : Units units literal)
      (before_gap : Gap before) (after_gap : Gap after) :
      Key (textOf units) ('"' :: (literal ++ '"' :: (before ++ ':' :: after)))

theorem exists_key_of_readKey {cs start : List Char} {key : String}
    (read : readKey cs = some (key, start)) : ∃ front, cs = front ++ start ∧ Key key front := by
  unfold readKey at read
  split at read
  next rest =>
    obtain ⟨⟨content, afterKey⟩, literal, read⟩ := Option.bind_eq_some_iff.mp read
    obtain ⟨units, literal, rfl, spelled, rfl⟩ := readString_eq_some_iff.mp literal
    simp only at read
    split at read
    next behind colon =>
      cases read
      obtain ⟨before, before_gap, same⟩ := exists_gap afterKey
      obtain ⟨after, after_gap, same'⟩ := exists_gap behind
      refine ⟨_, ?_, .named spelled before_gap after_gap⟩
      simp only [List.cons_append, List.append_assoc]
      rw [same, colon, ← same']
    next => cases read
  next => cases read

theorem readKey_append {front start : List Char} {key : String} (named : Key key front)
    (solid : skipGaps start = start) : readKey (front ++ start) = some (key, start) := by
  cases named with
  | @named units literal before after spelled before_gap after_gap =>
    have content : readString (literal ++ '"' :: (before ++ ':' :: (after ++ start))) =
        some (textOf units, before ++ ':' :: (after ++ start)) :=
      readString_eq_some_iff.mpr ⟨units, literal, rfl, spelled, rfl⟩
    simp only [List.cons_append, List.append_assoc, readKey, content, Option.bind_some,
      skipGaps_append before_gap, skipGaps_cons (show isGap ':' = false from rfl),
      skipGaps_append after_gap, solid]

/-! ### Words -/

theorem exists_word_of_readWord {cs rest : List Char} {value : Json}
    (read : readWord cs = some (value, rest)) :
    ∃ word, (word, value) ∈ words ∧ cs = word.toList ++ rest := by
  obtain ⟨⟨word, named⟩, member, read⟩ := List.exists_of_findSome?_eq_some read
  simp only [Option.map_eq_some_iff, Prod.mk.injEq] at read
  obtain ⟨tail, held, rfl, rfl⟩ := read
  exact ⟨word, member, (List.isPrefixOf?_eq_some_iff_append_eq.mp held).symm⟩

theorem readWord_of_word {word : String} {value : Json} (known : (word, value) ∈ words)
    (rest : List Char) : readWord (word.toList ++ rest) = some (value, rest) := by
  simp only [words, List.mem_cons, List.not_mem_nil, or_false, Prod.mk.injEq] at known
  rcases known with ⟨rfl, rfl⟩ | ⟨rfl, rfl⟩ | ⟨rfl, rfl⟩ | ⟨rfl, rfl⟩ | ⟨rfl, rfl⟩ | ⟨rfl, rfl⟩ <;> rfl

/-! ### Digits -/

def Digits (cs : List Char) : Prop := cs ≠ [] ∧ ∀ c ∈ cs, isAsciiDigit c = true

def BeginsDigit (cs : List Char) : Prop := ∃ d rest, cs = d :: rest ∧ isAsciiDigit d = true

theorem beginsDigit_append {digits : List Char} (run : Digits digits) (rest : List Char) :
    BeginsDigit (digits ++ rest) := by
  obtain ⟨d, others, rfl⟩ := List.exists_cons_of_ne_nil run.1
  exact ⟨d, others ++ rest, rfl, run.2 d (by simp)⟩

theorem span_of_not_beginsDigit {cs : List Char} (ends : ¬ BeginsDigit cs) :
    cs.takeWhile isAsciiDigit = [] ∧ cs.dropWhile isAsciiDigit = cs := by
  cases cs with
  | nil => exact ⟨rfl, rfl⟩
  | cons c rest =>
    have other : ¬ isAsciiDigit c = true := fun digit => ends ⟨c, rest, rfl, digit⟩
    exact ⟨List.takeWhile_cons_of_neg other, List.dropWhile_cons_of_neg other⟩

theorem not_beginsDigit_dropWhile (cs : List Char) : ¬ BeginsDigit (cs.dropWhile isAsciiDigit) := by
  rintro ⟨d, rest, left, digit⟩
  have stopped := List.head_dropWhile_not (p := isAsciiDigit) (l := cs) (by simp [left])
  simp [left, digit] at stopped

/-- The longest run of digits in front, if there is one, is the run that no digit follows. -/
theorem readDigits_eq_some_iff {cs digits rest : List Char} :
    readDigits cs = some (digits, rest) ↔
      cs = digits ++ rest ∧ Digits digits ∧ ¬ BeginsDigit rest := by
  unfold readDigits
  simp only
  constructor
  · intro read
    split at read
    next => cases read
    next found =>
      cases read
      refine ⟨List.takeWhile_append_dropWhile.symm, ⟨?_, ?_⟩, not_beginsDigit_dropWhile cs⟩
      · simpa using found
      · exact fun _ member => List.mem_takeWhile_imp member
  · rintro ⟨rfl, ⟨found, all⟩, ends⟩
    obtain ⟨stop, left⟩ := span_of_not_beginsDigit ends
    rw [List.takeWhile_append_of_pos all, List.dropWhile_append_of_pos all, stop, left,
      List.append_nil, if_neg (by simpa using found)]

theorem readDigits_eq_none_iff {cs : List Char} : readDigits cs = none ↔ ¬ BeginsDigit cs := by
  unfold readDigits
  simp only
  constructor
  · rintro missing ⟨d, rest, rfl, digit⟩
    simp [digit] at missing
  · intro ends
    rw [(span_of_not_beginsDigit ends).1]
    rfl

/-! ### The parts of a number -/

/-- The whole digits of a number: a zero alone, or digits that do not begin with one. -/
def Whole (digits : List Char) : Prop :=
  digits = ['0'] ∨ Digits digits ∧ digits.head? ≠ some '0'

/-- A fraction that may be missing. -/
inductive Fraction : Option (List Char) → List Char → Prop where
  | absent : Fraction none []
  | places {digits : List Char} (run : Digits digits) : Fraction (some digits) ('.' :: digits)

def BeginsFraction (cs : List Char) : Prop := ∃ rest, cs = '.' :: rest ∧ BeginsDigit rest

/-- The sign of an exponent. -/
inductive Sign : Bool → List Char → Prop where
  | none : Sign false []
  | plus : Sign false ['+']
  | minus : Sign true ['-']

/-- An exponent that may be missing. -/
inductive Exponent : Option Int → List Char → Prop where
  | absent : Exponent none []
  | power {mark : Char} {negative : Bool} {sign digits : List Char} (marked : mark = 'e' ∨ mark = 'E')
      (signed : Sign negative sign) (run : Digits digits) :
      Exponent (some (integerOf negative digits)) (mark :: (sign ++ digits))

def BeginsExponent (cs : List Char) : Prop :=
  ∃ mark negative sign rest, cs = mark :: (sign ++ rest) ∧ (mark = 'e' ∨ mark = 'E') ∧
    Sign negative sign ∧ BeginsDigit rest

theorem readWhole_eq_some_iff {cs digits rest : List Char} :
    readWhole cs = some (digits, rest) ↔
      cs = digits ++ rest ∧ Whole digits ∧ (digits = ['0'] ∨ ¬ BeginsDigit rest) := by
  -- A zero in front is the whole number, whatever follows it.
  by_cases zero : cs.head? = some '0'
  · obtain ⟨others, rfl⟩ := List.head?_eq_some_iff.mp zero
    rw [readWhole]
    constructor
    · intro read
      cases read
      exact ⟨rfl, .inl rfl, .inl rfl⟩
    · rintro ⟨same, rfl | ⟨⟨found, -⟩, first⟩, -⟩
      · cases same
        rfl
      · obtain ⟨d, digits, rfl⟩ := List.exists_cons_of_ne_nil found
        cases same
        exact absurd rfl first
  · rw [readWhole]
    · rw [readDigits_eq_some_iff]
      constructor
      · rintro ⟨rfl, run, ends⟩
        refine ⟨rfl, .inr ⟨run, fun first => zero ?_⟩, .inr ends⟩
        rw [List.head?_append, first]
        rfl
      · rintro ⟨rfl, rfl | ⟨run, -⟩, other⟩
        · exact absurd rfl zero
        · rcases other with rfl | ends
          · exact absurd rfl zero
          · exact ⟨rfl, run, ends⟩
    · rintro others rfl
      exact zero rfl

theorem readFraction_eq_some_iff {cs digits rest : List Char} :
    readFraction cs = some (digits, rest) ↔
      cs = '.' :: (digits ++ rest) ∧ Digits digits ∧ ¬ BeginsDigit rest := by
  by_cases point : cs.head? = some '.'
  · obtain ⟨others, rfl⟩ := List.head?_eq_some_iff.mp point
    rw [readFraction, readDigits_eq_some_iff, List.cons.injEq, eq_self, true_and]
  · rw [readFraction]
    · constructor
      · exact nofun
      · rintro ⟨rfl, -⟩
        exact absurd rfl point
    · rintro others rfl
      exact point rfl

theorem readFraction_eq_none_iff {cs : List Char} : readFraction cs = none ↔ ¬ BeginsFraction cs := by
  by_cases point : cs.head? = some '.'
  · obtain ⟨others, rfl⟩ := List.head?_eq_some_iff.mp point
    rw [readFraction, readDigits_eq_none_iff]
    simp [BeginsFraction]
  · rw [readFraction]
    · simp only [true_iff]
      rintro ⟨rest, rfl, -⟩
      exact point rfl
    · rintro others rfl
      exact point rfl

theorem exists_sign (cs : List Char) :
    ∃ sign, Sign (Number.splitSign cs).1 sign ∧ cs = sign ++ (Number.splitSign cs).2 := by
  fun_cases Number.splitSign cs with
  | case1 rest => exact ⟨_, .minus, rfl⟩
  | case2 rest => exact ⟨_, .plus, rfl⟩
  | case3 => exact ⟨_, .none, rfl⟩

theorem splitSign_append {negative : Bool} {sign rest : List Char} (signed : Sign negative sign)
    (begins : BeginsDigit rest) : Number.splitSign (sign ++ rest) = (negative, rest) := by
  cases signed with
  | none =>
    -- A digit is not taken for a sign.
    obtain ⟨d, others, rfl, digit⟩ := begins
    rw [List.nil_append, Number.splitSign]
    · rintro _ same
      cases same
      cases digit
    · rintro _ same
      cases same
      cases digit
  | plus => rfl
  | minus => rfl

theorem readExponent_cons {mark : Char} (marked : mark = 'e' ∨ mark = 'E') (rest : List Char) :
    readExponent (mark :: rest) = (readDigits (Number.splitSign rest).2).map fun (digits, tail) =>
      (integerOf (Number.splitSign rest).1 digits, tail) := by
  rw [readExponent, if_pos (by simpa using marked)]

theorem isMark_of_readExponent {cs : List Char} {found : Int × List Char}
    (read : readExponent cs = some found) :
    ∃ mark rest, cs = mark :: rest ∧ (mark = 'e' ∨ mark = 'E') := by
  cases cs with
  | nil => cases read
  | cons mark rest =>
    rw [readExponent] at read
    split at read
    next marked => exact ⟨mark, rest, rfl, by simpa using marked⟩
    next => cases read

theorem readExponent_eq_some_iff {cs rest : List Char} {value : Int} :
    readExponent cs = some (value, rest) ↔
      ∃ power, cs = power ++ rest ∧ Exponent (some value) power ∧ ¬ BeginsDigit rest := by
  constructor
  · intro read
    obtain ⟨mark, others, rfl, marked⟩ := isMark_of_readExponent read
    obtain ⟨sign, signed, same⟩ := exists_sign others
    rw [readExponent_cons marked, Option.map_eq_some_iff] at read
    obtain ⟨⟨digits, tail⟩, run, found⟩ := read
    cases found
    obtain ⟨split, run, ends⟩ := readDigits_eq_some_iff.mp run
    rw [split] at same
    refine ⟨mark :: (sign ++ digits), ?_, .power marked signed run, ends⟩
    rw [same, List.cons_append, List.append_assoc]
  · rintro ⟨power, rfl, raised, ends⟩
    cases raised with
    | power marked signed run =>
      rw [List.cons_append, List.append_assoc, readExponent_cons marked,
        splitSign_append signed (beginsDigit_append run rest)]
      simp only [readDigits_eq_some_iff.mpr ⟨rfl, run, ends⟩, Option.map_some]

theorem readExponent_eq_none_iff {cs : List Char} : readExponent cs = none ↔ ¬ BeginsExponent cs := by
  constructor
  · rintro missing ⟨mark, negative, sign, rest, rfl, marked, signed, begins⟩
    rw [readExponent_cons marked, splitSign_append signed begins, Option.map_eq_none_iff,
      readDigits_eq_none_iff] at missing
    exact missing begins
  · intro ends
    rw [Option.eq_none_iff_forall_ne_some]
    intro found read
    obtain ⟨mark, others, rfl, marked⟩ := isMark_of_readExponent read
    obtain ⟨sign, signed, same⟩ := exists_sign others
    rw [readExponent_cons marked, readDigits_eq_none_iff.mpr] at read
    · cases read
    · intro begins
      exact ends ⟨mark, _, sign, _, congrArg _ same, marked, signed, begins⟩

/-! ### Numbers -/

def minus (negative : Bool) : List Char := if negative then ['-'] else []

/-- The numbers; one without fraction and exponent is whole and not too long. -/
inductive Numeral : Json → List Char → Prop where
  | whole (negative : Bool) {digits : List Char} (whole : Whole digits)
      (short : digits.length ≤ Number.maxDigits) :
      Numeral (.whole (integerOf negative digits)) (minus negative ++ digits)
  | decimal (negative : Bool) {digits places power : List Char} {fraction : Option (List Char)}
      {exponent : Option Int} (whole : Whole digits) (broken : Fraction fraction places)
      (raised : Exponent exponent power) (long : fraction ≠ none ∨ exponent ≠ none) :
      Numeral (.decimal (decimalOf negative digits fraction exponent))
        (minus negative ++ (digits ++ (places ++ power)))

/-- A number does not go on with this text. -/
def Ends (cs : List Char) : Prop := ¬ BeginsDigit cs ∧ ¬ BeginsFraction cs ∧ ¬ BeginsExponent cs

/-- The text begins with a whole number of that many digits, and they are too many. -/
def BeginsLong (count : Nat) (cs : List Char) : Prop :=
  ∃ negative digits rest, cs = minus negative ++ (digits ++ rest) ∧ Whole digits ∧ Ends rest ∧
    digits.length = count ∧ Number.maxDigits < count

theorem ends_nil : Ends [] := ⟨nofun, nofun, nofun⟩

theorem ends_cons {c : Char} (other : isAsciiDigit c = false ∧ c ≠ '.' ∧ c ≠ 'e' ∧ c ≠ 'E')
    (rest : List Char) : Ends (c :: rest) := by
  obtain ⟨digit, point, small, capital⟩ := other
  refine ⟨?_, ?_, ?_⟩
  · rintro ⟨_, _, same, found⟩
    cases same
    simp [digit] at found
  · rintro ⟨_, same, -⟩
    cases same
    exact point rfl
  · rintro ⟨mark, _, _, _, same, marked, -⟩
    cases same
    exact marked.elim small capital

theorem isGap_of_isAsciiDigit {c : Char} (digit : isAsciiDigit c = true) : isGap c = false := by
  cases blank : isGap c with
  | false => rfl
  | true =>
    simp only [isGap, Bool.or_eq_true, decide_eq_true_eq] at blank
    rcases blank with ((rfl | rfl) | rfl) | rfl <;> cases digit

/-- Blanks end a number. -/
theorem ends_gap_append {gap rest : List Char} (blank : Gap gap) (ends : Ends rest) :
    Ends (gap ++ rest) := by
  cases gap with
  | nil => exact ends
  | cons c gap =>
    have first := blank c (by simp)
    simp only [isGap, Bool.or_eq_true, decide_eq_true_eq] at first
    rcases first with ((rfl | rfl) | rfl) | rfl <;> exact ends_cons (by decide) _

section Parts

variable {fraction : Option (List Char)} {exponent : Option Int} {places power rest : List Char}

theorem exists_fraction (cs : List Char) :
    ∃ places, cs = places ++ ((readFraction cs).map (·.2)).getD cs ∧
      Fraction ((readFraction cs).map (·.1)) places := by
  cases read : readFraction cs with
  | none => exact ⟨[], rfl, .absent⟩
  | some found =>
    obtain ⟨same, run, -⟩ := readFraction_eq_some_iff.mp read
    exact ⟨'.' :: found.1, same, .places run⟩

theorem exists_exponent (cs : List Char) :
    ∃ power, cs = power ++ ((readExponent cs).map (·.2)).getD cs ∧
      Exponent ((readExponent cs).map (·.1)) power := by
  cases read : readExponent cs with
  | none => exact ⟨[], rfl, .absent⟩
  | some found =>
    obtain ⟨power, same, raised, -⟩ := readExponent_eq_some_iff.mp read
    exact ⟨power, same, raised⟩

theorem readExponent_append (raised : Exponent exponent power) (ends : Ends rest) :
    readExponent (power ++ rest) = exponent.map (·, rest) := by
  cases exponent with
  | none =>
    cases raised
    exact readExponent_eq_none_iff.mpr ends.2.2
  | some value => exact readExponent_eq_some_iff.mpr ⟨power, rfl, raised, ends.1⟩

/-- An exponent is no part of a fraction. -/
theorem not_begins_exponent (raised : Exponent exponent power) (ends : Ends rest) :
    ¬ BeginsDigit (power ++ rest) ∧ ¬ BeginsFraction (power ++ rest) := by
  cases raised with
  | absent => exact ⟨ends.1, ends.2.1⟩
  | power marked signed run =>
    constructor
    · rintro ⟨_, _, same, digit⟩
      cases same
      rcases marked with rfl | rfl <;> cases digit
    · rintro ⟨_, same, -⟩
      cases same
      rcases marked with same | same <;> cases same

theorem readFraction_append (broken : Fraction fraction places)
    (ends : ¬ BeginsDigit rest ∧ ¬ BeginsFraction rest) :
    readFraction (places ++ rest) = fraction.map (·, rest) := by
  cases broken with
  | absent => exact readFraction_eq_none_iff.mpr ends.2
  | places run => exact readFraction_eq_some_iff.mpr ⟨rfl, run, ends.1⟩

theorem not_begins_fraction (broken : Fraction fraction places) (ends : ¬ BeginsDigit rest) :
    ¬ BeginsDigit (places ++ rest) := by
  cases broken with
  | absent => exact ends
  | places run =>
    rintro ⟨_, _, same, digit⟩
    cases same
    cases digit

end Parts

theorem numeral_of_readUnsigned {negative : Bool} {cs rest : List Char} {value : Json}
    (read : readUnsigned negative cs = .ok (value, rest)) :
    ∃ used, cs = used ++ rest ∧ Numeral value (minus negative ++ used) := by
  unfold readUnsigned at read
  split at read
  next => cases read
  next digits afterWhole found =>
    obtain ⟨rfl, whole, -⟩ := readWhole_eq_some_iff.mp found
    simp only at read
    split at read
    next alone =>
      split at read
      next => cases read
      next short =>
        cases read
        exact ⟨digits, rfl, .whole negative whole (Nat.not_lt.mp short)⟩
    next more =>
      -- What is not there of a fraction or an exponent takes no characters.
      cases read
      obtain ⟨places, split, broken⟩ := exists_fraction afterWhole
      obtain ⟨power, split', raised⟩ :=
        exists_exponent (((readFraction afterWhole).map (·.2)).getD afterWhole)
      refine ⟨digits ++ (places ++ power), ?_, .decimal negative whole broken raised ?_⟩
      · rw [List.append_assoc, List.append_assoc, ← split', ← split]
      · rw [Bool.and_eq_true, not_and_or] at more
        simpa using more

theorem readUnsigned_of_whole {negative : Bool} {digits rest : List Char} (whole : Whole digits)
    (ends : Ends rest) :
    readUnsigned negative (digits ++ rest) =
      if Number.maxDigits < digits.length then .error (.tooManyDigits digits.length)
      else .ok (.whole (integerOf negative digits), rest) := by
  rw [readUnsigned, readWhole_eq_some_iff.mpr ⟨rfl, whole, .inr ends.1⟩]
  simp only [readFraction_eq_none_iff.mpr ends.2.1, Option.map_none, Option.getD_none,
    readExponent_eq_none_iff.mpr ends.2.2]
  rfl

theorem readUnsigned_of_decimal {negative : Bool} {digits places power rest : List Char}
    {fraction : Option (List Char)} {exponent : Option Int} (whole : Whole digits)
    (broken : Fraction fraction places) (raised : Exponent exponent power)
    (long : fraction ≠ none ∨ exponent ≠ none) (ends : Ends rest) :
    readUnsigned negative (digits ++ (places ++ (power ++ rest))) =
      .ok (.decimal (decimalOf negative digits fraction exponent), rest) := by
  -- Each part ends where the next one begins, or where the number does.
  have apart := not_begins_exponent raised ends
  have stops := not_begins_fraction broken apart.1
  rw [readUnsigned, readWhole_eq_some_iff.mpr ⟨rfl, whole, .inr stops⟩]
  simp only [readFraction_append broken apart]
  have behind : ((fraction.map fun digits => (digits, power ++ rest)).map (·.2)).getD
      (places ++ (power ++ rest)) = power ++ rest := by
    cases broken <;> rfl
  simp only [behind, readExponent_append raised ends]
  rw [if_neg]
  · cases raised <;> cases broken <;> rfl
  · rcases long with long | long
    · simp [long]
    · simp [long]

/-! ### Numbers with their signs -/

theorem beginsDigit_of_whole {digits : List Char} (whole : Whole digits) (rest : List Char) :
    BeginsDigit (digits ++ rest) := by
  rcases whole with rfl | ⟨run, -⟩
  · exact ⟨'0', rest, rfl, rfl⟩
  · exact beginsDigit_append run rest

theorem exists_minus (cs : List Char) :
    ∃ negative unsigned, cs = minus negative ++ unsigned ∧
      readNumber cs = readUnsigned negative unsigned := by
  fun_cases readNumber cs with
  | case1 rest => exact ⟨true, rest, rfl, rfl⟩
  | case2 => exact ⟨false, cs, rfl, rfl⟩

theorem readNumber_minus (negative : Bool) {cs : List Char} (begins : BeginsDigit cs) :
    readNumber (minus negative ++ cs) = readUnsigned negative cs := by
  cases negative with
  | true => rfl
  | false =>
    obtain ⟨d, rest, rfl, digit⟩ := begins
    change readNumber (d :: rest) = _
    rw [readNumber]
    rintro _ same
    cases same
    cases digit

theorem numeral_of_readNumber {cs rest : List Char} {value : Json}
    (read : readNumber cs = .ok (value, rest)) :
    ∃ used, cs = used ++ rest ∧ Numeral value used := by
  obtain ⟨negative, unsigned, rfl, same⟩ := exists_minus cs
  obtain ⟨used, rfl, numeral⟩ := numeral_of_readUnsigned (same.symm.trans read)
  exact ⟨minus negative ++ used, (List.append_assoc _ _ _).symm, numeral⟩

theorem readNumber_of_numeral {used rest : List Char} {value : Json} (numeral : Numeral value used)
    (ends : Ends rest) : readNumber (used ++ rest) = .ok (value, rest) := by
  cases numeral with
  | whole negative whole short =>
    rw [List.append_assoc, readNumber_minus negative (beginsDigit_of_whole whole rest),
      readUnsigned_of_whole whole ends, if_neg (Nat.not_lt.mpr short)]
  | decimal negative whole broken raised long =>
    rw [List.append_assoc, List.append_assoc, List.append_assoc,
      readNumber_minus negative (beginsDigit_of_whole whole _),
      readUnsigned_of_decimal whole broken raised long ends]

theorem beginsLong_of_readNumber {cs : List Char} {count : Nat}
    (read : readNumber cs = .error (.tooManyDigits count)) : BeginsLong count cs := by
  obtain ⟨negative, unsigned, rfl, same⟩ := exists_minus cs
  rw [same, readUnsigned] at read
  split at read
  next => cases read
  next digits afterWhole found =>
    obtain ⟨rfl, whole, stop⟩ := readWhole_eq_some_iff.mp found
    simp only at read
    split at read
    next alone =>
      split at read
      next long =>
        cases read
        rw [Bool.and_eq_true, Option.isNone_iff_eq_none, readFraction_eq_none_iff] at alone
        obtain ⟨fraction, exponent⟩ := alone
        rw [readFraction_eq_none_iff.mpr fraction, Option.isNone_iff_eq_none] at exponent
        -- A zero alone is not long.
        have digit : ¬ BeginsDigit afterWhole := by
          rcases stop with rfl | digit
          · exact absurd long (by decide)
          · exact digit
        exact ⟨negative, digits, afterWhole, rfl, whole,
          ⟨digit, fraction, readExponent_eq_none_iff.mp exponent⟩, rfl, long⟩
      next => cases read
    next => cases read

/-- A number is refused for its digits if it is whole and has too many of them. -/
theorem readNumber_eq_error_iff {cs : List Char} {count : Nat} :
    readNumber cs = .error (.tooManyDigits count) ↔ BeginsLong count cs := by
  constructor
  · exact beginsLong_of_readNumber
  · rintro ⟨negative, digits, rest, rfl, whole, ends, rfl, long⟩
    rw [readNumber_minus negative (beginsDigit_of_whole whole rest),
      readUnsigned_of_whole whole ends, if_pos long]

/-! ### Telling numbers from words -/

def BeginsNumber (cs : List Char) : Prop :=
  ∃ negative unsigned, cs = minus negative ++ unsigned ∧ BeginsDigit unsigned

theorem beginsNumber_of_numeral {value : Json} {used : List Char} (numeral : Numeral value used)
    (rest : List Char) : BeginsNumber (used ++ rest) := by
  cases numeral with
  | whole negative whole _ =>
    exact ⟨negative, _, List.append_assoc _ _ _, beginsDigit_of_whole whole rest⟩
  | decimal negative whole _ _ _ =>
    refine ⟨negative, _, List.append_assoc _ _ _, ?_⟩
    rw [List.append_assoc]
    exact beginsDigit_of_whole whole _

theorem beginsNumber_of_beginsLong {count : Nat} {cs : List Char} (long : BeginsLong count cs) :
    BeginsNumber cs := by
  obtain ⟨negative, digits, rest, same, whole, -⟩ := long
  exact ⟨negative, digits ++ rest, same, beginsDigit_of_whole whole rest⟩

/-- No word begins with a digit, and the one that begins with a sign goes on with a letter. -/
theorem readWord_of_beginsNumber {cs : List Char} (begins : BeginsNumber cs) : readWord cs = none := by
  obtain ⟨negative, unsigned, rfl, d, rest, rfl, digit⟩ := begins
  rw [Option.eq_none_iff_forall_ne_some]
  rintro ⟨value, tail⟩ read
  obtain ⟨word, known, same⟩ := exists_word_of_readWord read
  simp only [words, List.mem_cons, List.not_mem_nil, or_false, Prod.mk.injEq] at known
  rcases known with ⟨rfl, -⟩ | ⟨rfl, -⟩ | ⟨rfl, -⟩ | ⟨rfl, -⟩ | ⟨rfl, -⟩ | ⟨rfl, -⟩ <;>
    cases negative <;> cases same <;> cases digit

end Targeting.Json
