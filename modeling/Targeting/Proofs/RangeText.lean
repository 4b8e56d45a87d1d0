import Mathlib.Data.Nat.Digits.Defs
import Targeting.Bounds.Literal
import Targeting.Proofs.NumberText

/-!
# Range literals

The language of ranges: a whole number on its own, or two points with a whole
number on either side, each of which may be missing. A text is read as a range
when it belongs to this language, blanks around it aside, and as the range that
it spells.

## Main results

`ranges_are_read_exactly`: what is read as a range, and that a range that is
written out is read back.

## Proof strategy

No bound has a point in it, so the first two points in a row are those between
the bounds. Each part of the reader then has a part of the language to it.
-/
namespace Targeting.IntRange

open Text Number

/-! ### The language of ranges -/

/-- A run of decimal digits of any script, with their values; the run is not empty and not too long. -/
structure Run (digits : List Char) (values : List Nat) : Prop where
  filled : digits ≠ []
  short : digits.length ≤ maxDigits
  valued : List.Forall₂ (fun digit value => digitValue? digit = some value) digits values

/-- The sum of the digits by their places in the decimal system; the last one counts units. -/
def placeValue (values : List Nat) : Nat := Nat.ofDigits 10 values.reverse

/-- The whole number that a text spells, with a minus sign at most. -/
inductive Numeral : Int → List Char → Prop where
  | plain {digits : List Char} {values : List Nat} (run : Run digits values) :
      Numeral (placeValue values) digits
  | minus {digits : List Char} {values : List Nat} (run : Run digits values) :
      Numeral (-placeValue values) ('-' :: digits)

/-- What stands for a bound, or for its absence. -/
inductive Limit : Option Int → List Char → Prop where
  | absent : Limit none []
  | given {n : Int} {cs : List Char} (numeral : Numeral n cs) : Limit (some n) cs

inductive Spells : IntRange → List Char → Prop where
  | single {n : Int} {cs : List Char} (numeral : Numeral n cs) : Spells (.exactly n) cs
  | between {low high : Option Int} {before after : List Char} (lower : Limit low before)
      (upper : Limit high after) : Spells ⟨low, high⟩ (before ++ '.' :: '.' :: after)

/-! ### Numerals -/

theorem isDigits_of_forall₂ {digits : List Char} {values : List Nat}
    (valued : List.Forall₂ (fun digit value => digitValue? digit = some value) digits values) :
    IsDigits digits ∧ digits.filterMap digitValue? = values := by
  induction valued with
  | nil => exact ⟨List.forall_mem_nil _, rfl⟩
  | cons found _ ih =>
    obtain ⟨run, rest⟩ := ih
    refine ⟨List.forall_mem_cons.mpr ⟨Option.isSome_of_eq_some found, run⟩, ?_⟩
    rw [List.filterMap_cons_some found, rest]

theorem forall₂_of_isDigits {digits : List Char} (run : IsDigits digits) :
    List.Forall₂ (fun digit value => digitValue? digit = some value) digits
      (digits.filterMap digitValue?) := by
  induction digits with
  | nil => exact .nil
  | cons c digits ih =>
    obtain ⟨digit, run⟩ := List.forall_mem_cons.mp run
    obtain ⟨value, found⟩ := Option.isSome_iff_exists.mp digit
    rw [List.filterMap_cons_some found]
    exact .cons found (ih run)

/-- Reading the digits from the front comes to the sum of their places. -/
theorem digitsValue_eq_placeValue (values : List Nat) : digitsValue values = placeValue values := by
  rw [placeValue, Nat.ofDigits_eq_foldr, List.foldr_reverse, digitsValue]
  congr 1
  funext n digit
  exact Nat.add_comm (10 * n) digit

theorem Run.isDigits {digits : List Char} {values : List Nat} (run : Run digits values) :
    IsDigits digits := (isDigits_of_forall₂ run.valued).1

theorem Run.valueOf_eq {digits : List Char} {values : List Nat} (run : Run digits values) :
    valueOf digits = placeValue values := by
  rw [valueOf, (isDigits_of_forall₂ run.valued).2, digitsValue_eq_placeValue]

theorem signed?_iff_run {negative : Bool} {digits : List Char} {n : Int} :
    signed? negative digits = some n ↔ ∃ values, Run digits values ∧
      n = if negative then -(placeValue values : Int) else (placeValue values : Int) := by
  rw [signed?_eq_some_iff]
  constructor
  · rintro ⟨filled, isDigits, short, spelled⟩
    refine ⟨_, ⟨filled, short, forall₂_of_isDigits isDigits⟩, ?_⟩
    rw [spelled, valueOf, digitsValue_eq_placeValue]
  · rintro ⟨values, run, spelled⟩
    refine ⟨run.filled, run.isDigits, run.short, ?_⟩
    rw [spelled, run.valueOf_eq]

/-- There are digits and hyphens in a numeral. -/
theorem Numeral.mem {n : Int} {cs : List Char} (numeral : Numeral n cs) {c : Char} (member : c ∈ cs) :
    isDigit c = true ∨ c = '-' := by
  cases numeral with
  | plain run => exact .inl (run.isDigits c member)
  | minus run =>
    rcases List.mem_cons.mp member with hyphen | member
    · exact .inr hyphen
    · exact .inl (run.isDigits c member)

theorem Numeral.ne_nil {n : Int} {cs : List Char} (numeral : Numeral n cs) : cs ≠ [] := by
  cases numeral with
  | plain run => exact run.filled
  | minus run => exact List.cons_ne_nil _ _

theorem bound?_eq_some_iff {cs : List Char} {n : Int} : bound? cs = some n ↔ Numeral n cs := by
  constructor
  · intro read
    unfold bound? at read
    split at read
    next digits =>
      obtain ⟨values, run, rfl⟩ := signed?_iff_run.mp read
      exact .minus run
    next =>
      obtain ⟨values, run, rfl⟩ := signed?_iff_run.mp read
      exact .plain run
  · intro numeral
    cases numeral with
    | minus run => exact signed?_iff_run.mpr ⟨_, run, rfl⟩
    | plain run =>
      -- No digit is taken for the sign.
      have unsigned : '-' ∉ cs := not_mem_of_isDigits run.isDigits (by decide)
      rw [bound?]
      · exact signed?_iff_run.mpr ⟨_, run, rfl⟩
      · rintro digits rfl
        exact unsigned List.mem_cons_self

/-! ### Bounds -/

theorem Limit.mem {limit : Option Int} {cs : List Char} (limits : Limit limit cs) {c : Char}
    (member : c ∈ cs) : isDigit c = true ∨ c = '-' := by
  cases limits with
  | absent => cases member
  | given numeral => exact numeral.mem member

theorem Limit.not_mem_point {limit : Option Int} {cs : List Char} (limits : Limit limit cs) :
    '.' ∉ cs := fun member => absurd (limits.mem member) (by decide)

theorem optionalBound?_eq_some_iff {cs : List Char} {limit : Option Int} :
    optionalBound? cs = some limit ↔ Limit limit cs := by
  unfold optionalBound?
  constructor
  · intro read
    split at read
    next empty =>
      cases read
      rw [List.isEmpty_iff.mp empty]
      exact .absent
    next =>
      obtain ⟨n, found, rfl⟩ := Option.map_eq_some_iff.mp read
      exact .given (bound?_eq_some_iff.mp found)
  · intro limits
    cases limits with
    | absent => rfl
    | given numeral =>
      rw [if_neg (by simpa using numeral.ne_nil), bound?_eq_some_iff.mpr numeral]
      rfl

/-! ### Points -/

theorem eq_of_splitPoints? {cs before after : List Char}
    (split : splitPoints? cs = some (before, after)) : cs = before ++ '.' :: '.' :: after := by
  fun_induction splitPoints? cs generalizing before with
  | case1 => cases split
  | case2 rest =>
    cases split
    rfl
  | case3 c rest _ ih =>
    obtain ⟨⟨front, behind⟩, hit, same⟩ := Option.map_eq_some_iff.mp split
    cases same
    rw [ih hit, List.cons_append]

theorem splitPoints?_cons {c : Char} (other : c ≠ '.') (cs : List Char) :
    splitPoints? (c :: cs) = (splitPoints? cs).map fun (before, after) => (c :: before, after) := by
  rw [splitPoints?]
  rintro rest rfl
  exact absurd rfl other

theorem splitPoints?_append {before : List Char} (pointless : '.' ∉ before) (after : List Char) :
    splitPoints? (before ++ '.' :: '.' :: after) = some (before, after) := by
  induction before with
  | nil => rfl
  | cons c before ih =>
    rw [List.mem_cons, not_or] at pointless
    obtain ⟨other, pointless⟩ := pointless
    rw [List.cons_append, splitPoints?_cons (Ne.symm other), ih pointless]
    rfl

theorem splitPoints?_eq_none {cs : List Char} (pointless : '.' ∉ cs) : splitPoints? cs = none := by
  rw [Option.eq_none_iff_forall_ne_some]
  rintro ⟨before, after⟩ split
  rw [eq_of_splitPoints? split] at pointless
  simp at pointless

/-! ### Ranges -/

theorem parse?_iff_spells {cs : List Char} {range : IntRange} :
    parse? cs = some range ↔ Spells range (trim cs) := by
  unfold parse?
  generalize trim cs = text
  simp only
  constructor
  · intro read
    split at read
    next =>
      obtain ⟨n, found, rfl⟩ := Option.map_eq_some_iff.mp read
      exact .single (bound?_eq_some_iff.mp found)
    next before after split =>
      simp only [Option.bind_eq_bind, Option.bind_eq_some_iff, Option.pure_def,
        Option.some.injEq] at read
      obtain ⟨low, lower, high, upper, rfl⟩ := read
      rw [eq_of_splitPoints? split]
      exact .between (optionalBound?_eq_some_iff.mp lower) (optionalBound?_eq_some_iff.mp upper)
  · intro spelled
    cases spelled with
    | single numeral =>
      rw [splitPoints?_eq_none (Limit.given numeral).not_mem_point]
      simp only [bound?_eq_some_iff.mpr numeral, Option.map_some]
    | between lower upper =>
      -- The lower bound has no points of its own, so the text is split between the bounds.
      rw [splitPoints?_append lower.not_mem_point]
      simp only [optionalBound?_eq_some_iff.mpr lower, optionalBound?_eq_some_iff.mpr upper]
      rfl

/-- A range is written in digits, hyphens and points. -/
theorem Spells.mem {range : IntRange} {cs : List Char} (spelled : Spells range cs) {c : Char}
    (member : c ∈ cs) : isDigit c = true ∨ c = '-' ∨ c = '.' := by
  cases spelled with
  | single numeral => exact (numeral.mem member).imp_right .inl
  | between lower upper =>
    simp only [List.mem_append, List.mem_cons] at member
    rcases member with front | point | point | behind
    · exact (lower.mem front).imp_right .inl
    · exact .inr (.inr point)
    · exact .inr (.inr point)
    · exact (upper.mem behind).imp_right .inl

theorem Spells.trim_eq_self {range : IntRange} {cs : List Char} (spelled : Spells range cs) :
    trim cs = cs := by
  apply trim_of_solid
  intro c member
  rcases spelled.mem member with digit | rfl | rfl
  · exact not_isBlank_of_isDigit digit
  · decide
  · decide

/-! ### Ranges that are written out -/

/-- The decimal digits of the number are not too many to be read. -/
def IsShort (n : Int) : Prop := (Nat.toDigits 10 n.natAbs).length ≤ maxDigits

/-- A bound in decimal, or nothing. -/
def limitText (limit : Option Int) : List Char := limit.elim [] fun n => (toString n).toList

def written (range : IntRange) : List Char :=
  limitText range.low ++ '.' :: '.' :: limitText range.high

theorem exists_run_toDigits {m : Nat} (short : (Nat.toDigits 10 m).length ≤ maxDigits) :
    ∃ values, Run (Nat.toDigits 10 m) values ∧ placeValue values = m := by
  have run : Run (Nat.toDigits 10 m) _ :=
    ⟨Nat.toDigits_ne_nil, short, forall₂_of_isDigits (isDigits_toDigits m)⟩
  exact ⟨_, run, run.valueOf_eq.symm.trans (valueOf_toDigits m)⟩

theorem numeral_toString {n : Int} (short : IsShort n) : Numeral n (toString n).toList := by
  obtain ⟨values, run, value⟩ := exists_run_toDigits short
  cases n with
  | ofNat m =>
    rw [Int.ofNat_eq_natCast, toList_toString_natCast]
    have numeral := Numeral.plain run
    rwa [value] at numeral
  | negSucc m =>
    rw [toList_toString_negSucc]
    have numeral := Numeral.minus run
    rwa [value] at numeral

theorem limit_limitText {limit : Option Int} (short : ∀ n ∈ limit, IsShort n) :
    Limit limit (limitText limit) := by
  cases limit with
  | none => exact .absent
  | some n => exact .given (numeral_toString (short n rfl))

/-- A text is read as a range just when it spells one, blanks around it aside, and then as the range
that it spells. So a range with bounds of no more than 4300 digits is read back from its decimal
spelling, and a number of no more digits is read as the range of this one number. -/
theorem ranges_are_read_exactly :
    (∀ cs range, parse? cs = some range ↔ Spells range (trim cs)) ∧
    (∀ range : IntRange, (∀ n ∈ range.low, IsShort n) → (∀ n ∈ range.high, IsShort n) →
      parse? (written range) = some range) ∧
    ∀ n : Int, IsShort n → parse? (toString n).toList = some (.exactly n) := by
  refine ⟨fun cs range => parse?_iff_spells, fun range lower upper => ?_, fun n short => ?_⟩
  · have spelled : Spells range (written range) :=
      .between (limit_limitText lower) (limit_limitText upper)
    rwa [parse?_iff_spells, spelled.trim_eq_self]
  · have spelled : Spells (.exactly n) (toString n).toList := .single (numeral_toString short)
    rwa [parse?_iff_spells, spelled.trim_eq_self]

/-- Half-open ranges are read back, and three points in a row do not spell a range. -/
theorem ranges_are_read_exactly_of_half_open :
    IsShort (-5) ∧ written ⟨some (-5), none⟩ = "-5..".toList ∧
      parse? "-5..".toList = some ⟨some (-5), none⟩ ∧ ¬ ∃ range, Spells range "1...3".toList := by
  have short : IsShort (-5) := by
    rw [IsShort]
    decide
  obtain ⟨read, back, -⟩ := ranges_are_read_exactly
  have spelled : parse? (written ⟨some (-5), none⟩) = some ⟨some (-5), none⟩ :=
    back ⟨some (-5), none⟩ (by rintro n ⟨⟩; exact short) (by rintro n ⟨⟩)
  have text : written ⟨some (-5), none⟩ = "-5..".toList := by decide +kernel
  refine ⟨short, text, text ▸ spelled, ?_⟩
  rintro ⟨range, other⟩
  have refused : parse? "1...3".toList = none := by decide +kernel
  have parsed := (read "1...3".toList range).mpr (other.trim_eq_self.symm ▸ other)
  rw [refused] at parsed
  cases parsed

/-- Digits of any script spell a bound, zeros in front included. -/
example : parse? " -٠٧..٤٢ ".toList = some ⟨some (-7), some 42⟩ := by decide +kernel

end Targeting.IntRange
