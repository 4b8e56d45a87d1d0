import Mathlib.Data.List.TakeWhile
import Targeting.Proofs.JsonLexicon
import Targeting.Proofs.Trimming
import Targeting.Proofs.WholeNumber

/-!
# Number literals

Which texts are read as numbers, and what becomes of the digits: a whole literal
is read as the double next to the number that it spells, and its own decimal
spelling is read as itself.

## Main results

`float?_of_signed` and `isLiteral_of_float?`.

## Proof strategy

Underscores and signs are taken away first, and what is left of a whole literal
is digits alone. A text that is read to its end consists of the parts that the
scanner takes from it, and each of these parts is a literal on its own.
-/
namespace Targeting.Number

open Text

/-! ### Digits -/

/-- All characters are digits. -/
def IsDigits (cs : List Char) : Prop := ∀ c ∈ cs, isDigit c = true

/-- The number that the digits of a text spell. -/
def valueOf (cs : List Char) : Nat := digitsValue (cs.filterMap digitValue?)

theorem exists_digitZero {c : Char} (digit : isDigit c = true) :
    ∃ start ∈ digitZeros, start ≤ c.toNat ∧ c.toNat < start + 10 := by
  obtain ⟨value, found⟩ := Option.isSome_iff_exists.mp digit
  obtain ⟨start, hit, -⟩ := Option.map_eq_some_iff.mp found
  have inside := List.find?_some hit
  simp only [Bool.and_eq_true, decide_eq_true_eq] at inside
  exact ⟨start, List.mem_of_find?_eq_some hit, inside⟩

/-- A digit is one of ASCII or stands far behind it. -/
theorem code_of_isDigit {c : Char} (digit : isDigit c = true) :
    c.toNat ≤ 0x39 ∨ 0x660 ≤ c.toNat := by
  obtain ⟨start, zero, low, high⟩ := exists_digitZero digit
  have zeros : ∀ start ∈ digitZeros, start = 0x30 ∨ 0x660 ≤ start := by decide
  rcases zeros start zero with rfl | far
  · exact .inl (by omega)
  · exact .inr (by omega)

theorem not_isBlank_of_isDigit {c : Char} (digit : isDigit c = true) : isBlank c = false := by
  obtain ⟨start, zero, low, high⟩ := exists_digitZero digit
  -- The digits of a script all stand on one side of a run of blanks.
  have apart : ∀ start ∈ digitZeros, ∀ blanks ∈ (0x1C, 0x1F) :: spaceTable,
      start + 10 ≤ blanks.1 ∨ blanks.2 < start := by decide
  have table : isBlank c = Intervals.holds ((0x1C, 0x1F) :: spaceTable) c := by
    rw [isBlank, isSpace, Bool.or_comm]
    rfl
  rw [table, Bool.eq_false_iff, ne_eq, Intervals.holds_iff]
  rintro ⟨blanks, member, front, back⟩
  rcases apart start zero blanks member with before | behind
  · omega
  · omega

theorem toLower_of_isDigit {c : Char} (digit : isDigit c = true) : c.toLower = c := by
  unfold Char.toLower
  split
  next upper =>
    have low : 0x41 ≤ c.toNat := UInt32.le_iff_toNat_le.mp upper.1
    have high : c.toNat ≤ 0x5A := UInt32.le_iff_toNat_le.mp upper.2
    have code := code_of_isDigit digit
    omega
  next => rfl

theorem mapM_digitValue? {cs : List Char} (digits : IsDigits cs) :
    cs.mapM digitValue? = some (cs.filterMap digitValue?) := by
  induction cs with
  | nil => rfl
  | cons c cs ih =>
    obtain ⟨digit, digits⟩ := List.forall_mem_cons.mp digits
    obtain ⟨value, found⟩ := Option.isSome_iff_exists.mp digit
    rw [List.mapM_cons, found, ih digits, List.filterMap_cons_some found]
    rfl

theorem isDigits_of_mapM {cs : List Char} {values : List Nat}
    (found : cs.mapM digitValue? = some values) : IsDigits cs := by
  induction cs generalizing values with
  | nil => exact List.forall_mem_nil _
  | cons c cs ih =>
    rw [List.mapM_cons] at found
    obtain ⟨value, digit, found⟩ := Option.bind_eq_some_iff.mp found
    obtain ⟨others, rest, -⟩ := Option.bind_eq_some_iff.mp found
    exact List.forall_mem_cons.mpr ⟨Option.isSome_of_eq_some digit, ih rest⟩

theorem natOfDigits?_eq_some_iff {cs : List Char} {n : Nat} :
    natOfDigits? cs = some n ↔ IsDigits cs ∧ cs.length ≤ maxDigits ∧ n = valueOf cs := by
  unfold natOfDigits?
  constructor
  · intro read
    split at read
    next short =>
      obtain ⟨values, found, rfl⟩ := Option.map_eq_some_iff.mp read
      have digits := isDigits_of_mapM found
      rw [mapM_digitValue? digits] at found
      cases found
      exact ⟨digits, short, rfl⟩
    next => cases read
  · rintro ⟨digits, short, rfl⟩
    rw [if_pos short, mapM_digitValue? digits]
    rfl

theorem signed?_eq_map {cs : List Char} (filled : cs ≠ []) (negative : Bool) :
    signed? negative cs =
      (natOfDigits? cs).map fun (n : Nat) => if negative then -(n : Int) else (n : Int) := by
  obtain ⟨c, rest, rfl⟩ := List.exists_cons_of_ne_nil filled
  rw [signed?]
  · cases natOfDigits? (c :: rest) <;> rfl
  · exact List.cons_ne_nil c rest

theorem signed?_eq_some_iff {negative : Bool} {cs : List Char} {n : Int} :
    signed? negative cs = some n ↔ cs ≠ [] ∧ IsDigits cs ∧ cs.length ≤ maxDigits ∧
      n = if negative then -(valueOf cs : Int) else (valueOf cs : Int) := by
  by_cases filled : cs = []
  · simp [filled]
  · rw [signed?_eq_map filled, Option.map_eq_some_iff]
    constructor
    · rintro ⟨value, found, rfl⟩
      obtain ⟨digits, short, rfl⟩ := natOfDigits?_eq_some_iff.mp found
      exact ⟨filled, digits, short, rfl⟩
    · rintro ⟨-, digits, short, rfl⟩
      exact ⟨_, natOfDigits?_eq_some_iff.mpr ⟨digits, short, rfl⟩, rfl⟩

/-! ### Underscores -/

theorem dropUnderscores?_of_not_mem {cs : List Char} (plain : '_' ∉ cs) :
    dropUnderscores? cs = some cs := by
  fun_induction dropUnderscores? cs with
  | case1 => rfl
  | case2 => simp at plain
  | case3 => simp at plain
  | case4 => simp at plain
  | case5 c cs _ _ ih =>
    rw [ih fun member => plain (List.mem_cons_of_mem c member)]
    rfl

theorem eq_filter_of_dropUnderscores? {cs kept : List Char}
    (dropped : dropUnderscores? cs = some kept) : kept = cs.filter (· ≠ '_') := by
  fun_induction dropUnderscores? cs generalizing kept with
  | case1 =>
    cases dropped
    rfl
  | case2 => cases dropped
  | case3 a b cs other _ ih =>
    obtain ⟨others, hit, rfl⟩ := Option.map_eq_some_iff.mp dropped
    rw [List.filter_cons_of_pos (by simpa using other), List.filter_cons_of_neg (by simp), ih hit]
  | case4 => cases dropped
  | case5 c cs other _ ih =>
    obtain ⟨others, hit, rfl⟩ := Option.map_eq_some_iff.mp dropped
    rw [List.filter_cons_of_pos (by simpa using other), ih hit]

theorem dropUnderscores?_cons {c : Char} (other : c ≠ '_') (mark : isDigit c = false)
    (cs : List Char) : dropUnderscores? (c :: cs) = (dropUnderscores? cs).map (c :: ·) := by
  by_cases follows : ∃ b rest, cs = '_' :: b :: rest
  · obtain ⟨b, rest, rfl⟩ := follows
    have refused : dropUnderscores? ('_' :: b :: rest) = none := by rw [dropUnderscores?]
    rw [refused, dropUnderscores?, if_neg (by simp [mark]), Option.map_none]
    exact other
  · rw [dropUnderscores?]
    · exact other
    · rintro b rest rfl
      exact follows ⟨b, rest, rfl⟩

/-! ### Whole literals -/

section Whole

variable {cs : List Char} (digits : IsDigits cs)

include digits

theorem not_mem_of_isDigits {mark : Char} (other : isDigit mark = false) : mark ∉ cs := by
  intro member
  rw [digits mark member] at other
  cases other

theorem splitSign_of_isDigits : splitSign cs = (false, cs) := by
  have hyphen : '-' ∉ cs := not_mem_of_isDigits digits (by decide)
  have plus : '+' ∉ cs := not_mem_of_isDigits digits (by decide)
  unfold splitSign
  split
  next => simp at hyphen
  next => simp at plus
  next => rfl

theorem scanDigits_of_isDigits : scanDigits cs = (cs.filterMap digitValue?, []) := by
  rw [scanDigits, List.takeWhile_eq_self_iff.mpr digits, List.dropWhile_eq_nil_iff.mpr digits]

theorem map_toLower_of_isDigits : cs.map Char.toLower = cs := by
  rw [List.map_congr_left fun c member => toLower_of_isDigit (digits c member), List.map_id'']
  exact fun _ => rfl

variable (filled : cs ≠ [])

include filled

theorem not_spelled_of_isDigits {name : String} (letters : name.toList.any isDigit = false) :
    String.ofList (cs.map Char.toLower) ≠ name := by
  rw [map_toLower_of_isDigits digits]
  rintro rfl
  obtain ⟨c, rest, rfl⟩ := List.exists_cons_of_ne_nil filled
  simp [digits c] at letters

theorem named?_of_isDigits : named? cs = none := by
  have inf : String.ofList (cs.map Char.toLower) ≠ "inf" :=
    not_spelled_of_isDigits digits filled (by decide)
  have infinity : String.ofList (cs.map Char.toLower) ≠ "infinity" :=
    not_spelled_of_isDigits digits filled (by decide)
  have nan : String.ofList (cs.map Char.toLower) ≠ "nan" :=
    not_spelled_of_isDigits digits filled (by decide)
  simp [named?, inf, infinity, nan]

theorem scan?_of_splitSign {text : List Char} {negative : Bool}
    (split : splitSign text = (negative, cs)) :
    Decimal.scan? text = some (⟨negative, cs.filterMap digitValue?, 0, 0⟩, []) := by
  have values : (cs.filterMap digitValue?).isEmpty = false := by
    obtain ⟨c, rest, rfl⟩ := List.exists_cons_of_ne_nil filled
    obtain ⟨value, found⟩ := Option.isSome_iff_exists.mp (digits c (by simp))
    rw [List.filterMap_cons_some found]
    rfl
  unfold Decimal.scan?
  simp only [split, scanDigits_of_isDigits digits, values, Bool.false_and, Bool.false_eq_true,
    if_false, scanExponent, List.append_nil, List.length_nil]

end Whole

/-- The sign of a literal does not stand in the way of the underscores behind it. -/
theorem exists_dropUnderscores? {cs digits : List Char} (run : IsDigits digits)
    (dropped : dropUnderscores? (splitSign cs).2 = some digits) :
    ∃ text, dropUnderscores? cs = some text ∧ splitSign text = ((splitSign cs).1, digits) := by
  fun_cases splitSign cs with
  | case1 rest =>
    refine ⟨'-' :: digits, ?_, rfl⟩
    rw [dropUnderscores?_cons (by decide) (by decide), show dropUnderscores? rest = _ from dropped]
    rfl
  | case2 rest =>
    refine ⟨'+' :: digits, ?_, rfl⟩
    rw [dropUnderscores?_cons (by decide) (by decide), show dropUnderscores? rest = _ from dropped]
    rfl
  | case3 _ hyphen plus =>
    rw [splitSign] at dropped
    · exact ⟨digits, dropped, splitSign_of_isDigits run⟩
    · exact hyphen
    · exact plus

/-- A literal without point and exponent is read as the double next to its number. -/
theorem float?_of_isDigits {cs digits : List Char} (run : IsDigits digits) (filled : digits ≠ [])
    (dropped : dropUnderscores? (splitSign (trimSpaces cs)).2 = some digits) :
    float? cs = some (wholeFloat (splitSign (trimSpaces cs)).1 (valueOf digits)) := by
  obtain ⟨text, kept, split⟩ := exists_dropUnderscores? run dropped
  unfold float?
  simp only [kept, Option.bind_some, split, named?_of_isDigits run filled,
    scan?_of_splitSign run filled split]
  rfl

theorem exists_digits_of_integer? {cs : List Char} {n : Int} (read : integer? cs = some n) :
    ∃ digits, dropUnderscores? (splitSign (trimSpaces cs)).2 = some digits ∧ IsDigits digits ∧
      digits ≠ [] := by
  obtain ⟨digits, dropped, read⟩ := Option.bind_eq_some_iff.mp read
  obtain ⟨filled, run, -⟩ := signed?_eq_some_iff.mp read
  exact ⟨digits, dropped, run, filled⟩

theorem mem_of_sign {negative : Bool} {sign : List Char} (signed : Json.Sign negative sign) {c : Char}
    (member : c ∈ sign) : c = '+' ∨ c = '-' := by
  cases signed with
  | none => cases member
  | plus => exact .inl (List.mem_singleton.mp member)
  | minus => exact .inr (List.mem_singleton.mp member)

/-- Besides digits there are only signs and underscores in a whole literal. -/
theorem mem_of_integer? {cs : List Char} {n : Int} (read : integer? cs = some n) {c : Char}
    (member : c ∈ trimSpaces cs) : isDigit c = true ∨ c = '+' ∨ c = '-' ∨ c = '_' := by
  obtain ⟨digits, dropped, run, -⟩ := exists_digits_of_integer? read
  obtain ⟨sign, signed, parts⟩ := Json.exists_sign (trimSpaces cs)
  rw [parts] at member
  rcases List.mem_append.mp member with front | behind
  -- A sign comes first; behind it everything but underscores is a digit.
  · rcases mem_of_sign signed front with plus | minus
    · exact .inr (.inl plus)
    · exact .inr (.inr (.inl minus))
  · by_cases mark : c = '_'
    · exact .inr (.inr (.inr mark))
    · rw [eq_filter_of_dropUnderscores? dropped] at run
      exact .inl (run c (List.mem_filter.mpr ⟨behind, by simpa using mark⟩))

/-! ### Decimal spellings of whole numbers -/

theorem digitValue?_of_ascii {c : Char} (digit : c.isDigit = true) :
    digitValue? c = some (c.toNat - '0'.toNat) := by
  have bounds : 0x30 ≤ c.toNat ∧ c.toNat ≤ 0x39 := Char.isDigit_iff_toNat.mp digit
  have hit : digitZeros.find? (fun start => start ≤ c.toNat && c.toNat < start + 10) = some 0x30 := by
    rw [digitZeros, List.find?_cons_of_pos]
    simp
    omega
  rw [digitValue?, hit]
  rfl

theorem isDigits_toDigits (n : Nat) : IsDigits (Nat.toDigits 10 n) := by
  intro c member
  rw [isDigit, digitValue?_of_ascii (Nat.isDigit_of_mem_toDigits (by decide) (by decide) member)]
  rfl

theorem valueOf_toDigits (n : Nat) : valueOf (Nat.toDigits 10 n) = n := by
  have values : (Nat.toDigits 10 n).filterMap digitValue? =
      (Nat.toDigits 10 n).map fun c => c.toNat - '0'.toNat := by
    rw [← List.filterMap_eq_map]
    apply List.filterMap_congr
    intro c member
    exact digitValue?_of_ascii (Nat.isDigit_of_mem_toDigits (by decide) (by decide) member)
  rw [valueOf, values, digitsValue, List.foldl_map]
  exact Nat.ofDigitChars_ten_toDigits

theorem toList_toString_natCast (m : Nat) : (toString (m : Int)).toList = Nat.toDigits 10 m := by
  rw [Int.toString_eq_repr]
  exact Nat.toList_repr

theorem toList_toString_negSucc (m : Nat) :
    (toString (Int.negSucc m)).toList = '-' :: Nat.toDigits 10 (m + 1) := by
  rw [Int.toString_eq_repr, Int.repr, String.toList_append, Nat.toList_repr]
  rfl

/-- Apart from the sign, a whole number is spelled by the digits of its magnitude. -/
theorem splitSign_toString (n : Int) :
    splitSign (toString n).toList = (decide (n < 0), Nat.toDigits 10 n.natAbs) := by
  cases n with
  | ofNat m =>
    rw [Int.ofNat_eq_natCast, toList_toString_natCast, splitSign_of_isDigits (isDigits_toDigits m),
      decide_eq_false (by simp)]
    rfl
  | negSucc m =>
    rw [toList_toString_negSucc, splitSign, decide_eq_true (Int.negSucc_lt_zero m)]
    rfl

theorem isDigits_splitSign_toString (n : Int) : IsDigits (splitSign (toString n).toList).2 := by
  rw [splitSign_toString]
  exact isDigits_toDigits n.natAbs

section Trimmed

variable {cs : List Char} (trimmed : trimSpaces cs = cs) (run : IsDigits (splitSign cs).2)

include trimmed run

theorem dropUnderscores?_of_isDigits :
    dropUnderscores? (splitSign (trimSpaces cs)).2 = some (splitSign cs).2 := by
  rw [trimmed, dropUnderscores?_of_not_mem (not_mem_of_isDigits run (by decide))]

theorem integer?_of_isDigits : integer? cs = signed? (splitSign cs).1 (splitSign cs).2 := by
  have dropped := dropUnderscores?_of_isDigits trimmed run
  rw [trimmed] at dropped
  unfold integer?
  simp only [trimmed, dropped, Option.bind_some]

end Trimmed

section Spelled

variable {n : Int} (trimmed : trimSpaces (toString n).toList = (toString n).toList)

include trimmed

/-- The decimal spelling of a whole number is read as that number, unless it is too long. -/
theorem integer?_toString (short : (Nat.toDigits 10 n.natAbs).length ≤ maxDigits) :
    integer? (toString n).toList = some n := by
  rw [integer?_of_isDigits trimmed (isDigits_splitSign_toString n), splitSign_toString,
    signed?_eq_some_iff]
  refine ⟨Nat.toDigits_ne_nil, isDigits_toDigits n.natAbs, short, ?_⟩
  rw [valueOf_toDigits]
  simp only [decide_eq_true_eq]
  split <;> omega

/-- A decimal spelling that is too long for a whole number is beyond the range of doubles as well. -/
theorem exists_float?_toString (long : maxDigits < (Nat.toDigits 10 n.natAbs).length) :
    ∃ x, float? (toString n).toList = some x ∧ isFinite x = false := by
  have run := isDigits_splitSign_toString n
  have dropped := dropUnderscores?_of_isDigits trimmed run
  rw [splitSign_toString] at run dropped
  refine ⟨_, float?_of_isDigits run Nat.toDigits_ne_nil dropped, not_isFinite_of_log2 ?_⟩
  rw [valueOf_toDigits]
  have great : 10 ^ maxDigits ≤ n.natAbs := by
    have spelled : (Nat.toDigits 10 n.natAbs).length ≤ maxDigits ↔ n.natAbs < 10 ^ maxDigits :=
      Nat.length_toDigits_le_iff (by decide) (by decide)
    exact Nat.le_of_not_lt fun small => absurd (spelled.mpr small) (Nat.not_le.mpr long)
  have nonzero : n.natAbs ≠ 0 := ((Nat.pow_pos (by decide)).trans_le great).ne'
  have powers (k : Nat) (below : k ≤ maxDigits) : 2 ^ k ≤ n.natAbs :=
    calc 2 ^ k ≤ 10 ^ k := Nat.pow_le_pow_left (by decide) k
      _ ≤ 10 ^ maxDigits := Nat.pow_le_pow_right (by decide) below
      _ ≤ n.natAbs := great
  have bits (k : Nat) (below : k ≤ maxDigits) : k ≤ Nat.log2 n.natAbs :=
    (Nat.le_log2 nonzero).mpr (powers k below)
  exact bits 1024 (by decide)

end Spelled

/-! ### The characters of literals -/

/-- A digit or a mark of number literals. -/
def isNumeral (c : Char) : Bool := isDigit c || ['+', '-', '.', '_', 'e', 'E'].contains c

/-- Nothing but numerals, with no more than some points among them. -/
structure IsLiteral (points : Nat) (cs : List Char) : Prop where
  numerals : ∀ c ∈ cs, isNumeral c = true
  few : cs.count '.' ≤ points

theorem IsLiteral.append {points more : Nat} {cs rest : List Char} (front : IsLiteral points cs)
    (behind : IsLiteral more rest) : IsLiteral (points + more) (cs ++ rest) := by
  refine ⟨List.forall_mem_append.mpr ⟨front.numerals, behind.numerals⟩, ?_⟩
  rw [List.count_append]
  exact Nat.add_le_add front.few behind.few

theorem isLiteral_nil : IsLiteral 0 [] := ⟨List.forall_mem_nil _, Nat.le_refl 0⟩

theorem isLiteral_mark {points : Nat} {c : Char} (numeral : isNumeral c = true)
    (few : [c].count '.' ≤ points) : IsLiteral points [c] :=
  ⟨List.forall_mem_singleton.mpr numeral, few⟩

theorem isLiteral_of_isDigits {cs : List Char} (digits : IsDigits cs) : IsLiteral 0 cs := by
  refine ⟨fun c member => by simp [isNumeral, digits c member], ?_⟩
  rw [List.count_eq_zero.mpr (not_mem_of_isDigits digits (by decide))]

theorem isLiteral_of_sign {negative : Bool} {sign : List Char} (signed : Json.Sign negative sign) :
    IsLiteral 0 sign := by
  cases signed with
  | none => exact isLiteral_nil
  | plus => exact isLiteral_mark rfl (by decide)
  | minus => exact isLiteral_mark rfl (by decide)

theorem isLiteral_of_integer? {cs : List Char} {n : Int} (read : integer? cs = some n) :
    IsLiteral 0 (trimSpaces cs) := by
  refine ⟨fun c member => ?_, ?_⟩
  · rcases mem_of_integer? read member with digit | rfl | rfl | rfl
    · simp [isNumeral, digit]
    · rfl
    · rfl
    · rfl
  · rw [List.count_eq_zero.mpr fun member => absurd (mem_of_integer? read member) (by decide)]

theorem isLiteral_toString (n : Int) : IsLiteral 0 (toString n).toList := by
  obtain ⟨sign, signed, parts⟩ := Json.exists_sign (toString n).toList
  rw [splitSign_toString] at parts
  rw [parts]
  exact (isLiteral_of_sign signed).append (isLiteral_of_isDigits (isDigits_toDigits n.natAbs))

/-- Digits are scanned from the front. -/
theorem exists_scanDigits (cs : List Char) :
    ∃ digits, IsDigits digits ∧ cs = digits ++ (scanDigits cs).2 :=
  ⟨cs.takeWhile isDigit, fun _ member => List.mem_takeWhile_imp member,
    List.takeWhile_append_dropWhile.symm⟩

/-- An exponent that is scanned to the end is a literal without points. -/
theorem isLiteral_of_scanExponent {cs : List Char} (scanned : (scanExponent cs).2 = []) :
    IsLiteral 0 cs := by
  unfold scanExponent at scanned
  split at scanned
  next => exact isLiteral_nil
  next mark rest =>
    split at scanned
    next marked =>
      obtain ⟨sign, signed, parts⟩ := Json.exists_sign rest
      obtain ⟨digits, run, others⟩ := exists_scanDigits (splitSign rest).2
      simp only at scanned
      split at scanned
      next => cases scanned
      next values tail _ found =>
        obtain rfl : tail = [] := scanned
        rw [found, List.append_nil] at others
        have power : IsLiteral 0 [mark] := by
          simp only [Bool.or_eq_true, decide_eq_true_eq] at marked
          rcases marked with rfl | rfl <;> exact isLiteral_mark rfl (by decide)
        rw [parts, others]
        exact power.append ((isLiteral_of_sign signed).append (isLiteral_of_isDigits run))
    next => cases scanned

/-- A text that is scanned to its end is a literal with one point at most. -/
theorem isLiteral_of_scan? {cs : List Char} {literal : Decimal}
    (scanned : Decimal.scan? cs = some (literal, [])) : IsLiteral 1 cs := by
  obtain ⟨sign, signed, parts⟩ := Json.exists_sign cs
  obtain ⟨whole, run, others⟩ := exists_scanDigits (splitSign cs).2
  rw [others] at parts
  rw [parts]
  have front : IsLiteral 0 (sign ++ whole) :=
    (isLiteral_of_sign signed).append (isLiteral_of_isDigits run)
  -- Behind the whole digits there may be a point with more digits, and an exponent.
  have behind : IsLiteral 1 (scanDigits (splitSign cs).2).2 := by
    unfold Decimal.scan? at scanned
    simp only at scanned
    generalize (scanDigits (splitSign cs).2).2 = behind at scanned
    split at scanned
    next rest =>
      obtain ⟨places, fraction, others⟩ := exists_scanDigits rest
      split at scanned
      next => cases scanned
      next =>
        have power := isLiteral_of_scanExponent (congrArg Prod.snd (Option.some.inj scanned))
        have point : IsLiteral 1 ['.'] := isLiteral_mark rfl (by decide)
        rw [others]
        exact point.append ((isLiteral_of_isDigits fraction).append power)
    next =>
      split at scanned
      next => cases scanned
      next =>
        have power := isLiteral_of_scanExponent (congrArg Prod.snd (Option.some.inj scanned))
        exact ⟨power.numerals, power.few.trans (Nat.zero_le 1)⟩
  rw [← List.append_assoc]
  exact front.append behind

theorem isLiteral_of_dropUnderscores? {points : Nat} {cs kept : List Char}
    (dropped : dropUnderscores? cs = some kept) (literal : IsLiteral points kept) :
    IsLiteral points cs := by
  rw [eq_filter_of_dropUnderscores? dropped] at literal
  refine ⟨fun c member => ?_, ?_⟩
  · by_cases mark : c = '_'
    · rw [mark]
      decide
    · exact literal.numerals c (List.mem_filter.mpr ⟨member, by simpa using mark⟩)
  · have few := literal.few
    rwa [List.count_filter (by decide)] at few

theorem not_isFinite_of_named? {word : List Char} {x : Float} (named : named? word = some x)
    (negative : Bool) : isFinite (if negative then -x else x) = false := by
  unfold named? at named
  simp only at named
  split at named
  next =>
    cases named
    cases negative <;> decide +kernel
  next =>
    split at named
    next =>
      cases named
      cases negative <;> decide +kernel
    next => cases named

/-- A finite number is spelled by numerals, with one point at most. -/
theorem isLiteral_of_float? {cs : List Char} {x : Float} (read : float? cs = some x)
    (finite : isFinite x = true) : IsLiteral 1 (trimSpaces cs) := by
  obtain ⟨text, dropped, read⟩ := Option.bind_eq_some_iff.mp read
  simp only at read
  split at read
  next value named =>
    cases read
    rw [not_isFinite_of_named? named] at finite
    cases finite
  next =>
    split at read
    next literal scanned => exact isLiteral_of_dropUnderscores? dropped (isLiteral_of_scan? scanned)
    next => cases read

end Targeting.Number
