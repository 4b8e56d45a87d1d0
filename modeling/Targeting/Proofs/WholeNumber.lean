import Mathlib.Algebra.Group.Nat.Defs
import Mathlib.Order.Nat
import Targeting.Number.Binary
import Targeting.Number.Decimal

/-!
# Whole numbers as doubles

The double next to a whole number has no fraction, as far as there is one: from 2 to
the power of 1024 on the double is infinite.

## Main results

`isWhole_of_isFinite` and `not_isFinite_of_log2`.

## Proof strategy

A double is judged by its sign, its mantissa and its exponent. A mantissa of 53 bits
goes through packing unchanged, and rounding cuts any longer one to 53 bits. Where the
exponent is negative nothing has been cut, so what stands behind the point is zero.
-/
namespace Targeting.Number

open Float.Model UnpackedFloat

/-! ### Unpacked doubles -/

/-- The exact value of an unpacked double. -/
def Binary.ofUnpacked? : UnpackedFloat → Option Binary
  | .finite sign mantissa exponent _ => some ⟨sign == .negative, mantissa, exponent⟩
  | .zero sign => some ⟨sign == .negative, 0, -1074⟩
  | .infinity _ => none
  | .notANumber => none

section Fields

variable (bits : BitVec Format.binary64.numBits)

theorem toNat_unpackMantissa : (unpackMantissa bits).toNat = bits.toNat % 2 ^ 52 := by
  simp [unpackMantissa, BitVec.extractLsb_toNat]

theorem toNat_unpackExponent : (unpackExponent bits).toNat = bits.toNat / 2 ^ 52 % 2 ^ 11 := by
  simp [unpackExponent, BitVec.extractLsb_toNat, Nat.shiftRight_eq_div_pow]

theorem toNat_unpackSign : (unpackSign bits).toNat = bits.toNat / 2 ^ 63 := by
  have small : bits.toNat < 2 ^ 64 := bits.isLt
  have sign : (unpackSign bits).toNat = bits.toNat / 2 ^ 63 % 2 := by
    unfold unpackSign
    simp [BitVec.extractLsb_toNat, Nat.shiftRight_eq_div_pow]
  omega

theorem isNegative_unpackSign :
    (Sign.ofBitVec (unpackSign bits) == .negative) = (bits.toNat / 2 ^ 63 == 1) := by
  have sign := toNat_unpackSign bits
  have single : (unpackSign bits).toNat < 2 := (unpackSign bits).isLt
  rw [← sign, Sign.ofBitVec]
  split
  next positive =>
    rw [positive]
    rfl
  next negative =>
    have set : (unpackSign bits).toNat ≠ 0 := fun empty => negative (BitVec.eq_of_toNat_eq empty)
    rw [show (unpackSign bits).toNat = 1 by omega]
    rfl

end Fields

theorem toNat_hidden {mantissa : BitVec 52} :
    (1#1 ++ mantissa).toNat = mantissa.toNat + 2 ^ 52 := by
  rw [BitVec.toNat_append, ← Nat.shiftLeft_add_eq_or_of_lt mantissa.isLt, Nat.add_comm]
  rfl

theorem ofUnpacked?_unpack (bits : BitVec Format.binary64.numBits) :
    Binary.ofUnpacked? (UnpackedFloat.unpack Format.binary64 bits) =
      let fraction : Nat := bits.toNat % 2 ^ 52
      let biased : Nat := bits.toNat / 2 ^ 52 % 2 ^ 11
      let negative := bits.toNat / 2 ^ 63 == 1
      if biased = 2047 then none
      else if biased = 0 then some ⟨negative, fraction, -1074⟩
      else some ⟨negative, fraction + 2 ^ 52, (biased : Int) - 1075⟩ := by
  have greatest : unpackExponent bits = -1#11 ↔ bits.toNat / 2 ^ 52 % 2 ^ 11 = 2047 := by
    rw [← BitVec.toNat_inj, toNat_unpackExponent]
    rfl
  have least : unpackExponent bits = 0#11 ↔ bits.toNat / 2 ^ 52 % 2 ^ 11 = 0 := by
    rw [← BitVec.toNat_inj, toNat_unpackExponent]
    rfl
  have zero : unpackMantissa bits = 0#52 ↔ bits.toNat % 2 ^ 52 = 0 := by
    rw [← BitVec.toNat_inj, toNat_unpackMantissa]
    rfl
  simp only [← greatest, ← least]
  unfold UnpackedFloat.unpack
  dsimp only
  by_cases infinite : unpackExponent bits = -1#11
  · rw [if_pos infinite, if_pos infinite]
    split <;> rfl
  · rw [if_neg infinite, if_neg infinite]
    by_cases subnormal : unpackExponent bits = 0#11
    · rw [if_pos subnormal, if_pos subnormal]
      by_cases empty : unpackMantissa bits = 0#52
      · rw [dif_pos empty, zero.mp empty, ← isNegative_unpackSign]
        rfl
      · rw [dif_neg empty, subnormal, ← isNegative_unpackSign, ← toNat_unpackMantissa]
        rfl
    · rw [if_neg subnormal, if_neg subnormal, ← isNegative_unpackSign, ← toNat_unpackMantissa,
        ← toNat_unpackExponent, ← toNat_hidden]
      rfl

theorem Binary.ofFloat?_eq (x : Float) : ofFloat? x = ofUnpacked? x.toModel.unpack :=
  (ofUnpacked?_unpack x.toModel.toBits.toBitVec).symm

/-! ### Packed doubles -/

theorem ofBitVec_toBitVec (sign : Sign) : Sign.ofBitVec sign.toBitVec = sign := by
  cases sign <;> rfl

theorem unpackSign_packComponents {spec : Format} (sign : Sign)
    (exponent : BitVec spec.exponentBits) (mantissa : BitVec spec.mantissaBitsWithoutImplicit) :
    unpackSign (packComponents spec sign exponent mantissa) = sign.toBitVec := by
  apply BitVec.eq_of_getLsbD_eq
  intro i below
  obtain rfl : i = 0 := by omega
  unfold unpackSign
  simp [packComponents, BitVec.getLsbD_append, BitVec.getElem_append]

theorem unpack_pack_infinity (sign : Sign) :
    (Float.Model.pack (.infinity sign)).unpack = .infinity sign := by
  cases sign <;> rfl

/-- What a mantissa of 53 bits is packed to. The bias of the exponent counts the 52 bits behind the
point. -/
theorem pack_of_normal {sign : Sign} {mantissa : Nat} {exponent : Int} (filled : 0 < mantissa)
    (bits : Nat.log2 mantissa = 52) :
    UnpackedFloat.pack Format.binary64 (.finite sign mantissa exponent filled) =
      if 2 ^ 11 ≤ (exponent + 1075).toNat + 1 then packedInfinity Format.binary64 sign
      else packComponents Format.binary64 sign (BitVec.ofNat 11 (exponent + 1075).toNat)
        (BitVec.ofNat 52 mantissa) := by
  have biased : exponent + (Format.exponentBias Format.binary64 : Nat) + (52 : Nat) =
      exponent + 1075 := by
    simp only [Format.exponentBias]
    omega
  have full : 52 + 1 = Format.binary64.mantissaBits := rfl
  unfold UnpackedFloat.pack
  dsimp only
  rw [biased, bits, if_pos full]

theorem finite_eq_finite {sign sign' : Sign} {mantissa mantissa' : Nat} {exponent exponent' : Int}
    {filled : 0 < mantissa} {filled' : 0 < mantissa'} (signs : sign = sign')
    (mantissas : mantissa = mantissa') (exponents : exponent = exponent') :
    finite sign mantissa exponent filled = finite sign' mantissa' exponent' filled' := by
  subst signs mantissas exponents
  rfl

/-- What a double with a hidden bit unpacks to. -/
theorem exists_unpack_of_normal {bits : BitVec Format.binary64.numBits}
    (bounded : unpackExponent bits ≠ -1#11) (normal : unpackExponent bits ≠ 0#11) :
    ∃ filled, UnpackedFloat.unpack Format.binary64 bits =
      .finite (Sign.ofBitVec (unpackSign bits)) (1#1 ++ unpackMantissa bits).toNat
        ((unpackExponent bits).toNat - 1075) filled := by
  have filled : 0 < (1#1 ++ unpackMantissa bits).toNat := by
    rw [toNat_hidden]
    omega
  refine ⟨filled, ?_⟩
  unfold UnpackedFloat.unpack
  dsimp only
  rw [if_neg bounded, if_neg normal]
  rfl

/-- A mantissa of 53 bits is kept, unless the exponent is too great. -/
theorem unpack_pack_of_normal {sign : Sign} {mantissa : Nat} {exponent : Int} (filled : 0 < mantissa)
    (bits : Nat.log2 mantissa = 52) (above : -1074 ≤ exponent) :
    (Float.Model.pack (.finite sign mantissa exponent filled)).unpack =
      if 972 ≤ exponent then .infinity sign else .finite sign mantissa exponent filled := by
  obtain ⟨low, high⟩ := (Nat.log2_eq_iff filled.ne').mp bits
  change UnpackedFloat.unpack Format.binary64
    (UnpackedFloat.pack Format.binary64 (.finite sign mantissa exponent filled)) = _
  rw [pack_of_normal filled bits]
  by_cases great : 972 ≤ exponent
  · rw [if_pos great, if_pos (by omega)]
    exact unpack_pack_infinity sign
  · rw [if_neg great, if_neg (by omega)]
    have biased : (BitVec.ofNat 11 (exponent + 1075).toNat).toNat = (exponent + 1075).toNat := by
      rw [BitVec.toNat_ofNat, Nat.mod_eq_of_lt (by omega)]
    have bounded : BitVec.ofNat 11 (exponent + 1075).toNat ≠ -1#11 := by
      rw [← BitVec.toNat_ne_iff_ne, biased]
      change _ ≠ 2047
      omega
    have normal : BitVec.ofNat 11 (exponent + 1075).toNat ≠ 0#11 := by
      rw [← BitVec.toNat_ne_iff_ne, biased]
      change _ ≠ 0
      omega
    have hidden : (1#1 ++ BitVec.ofNat 52 mantissa).toNat = mantissa := by
      rw [toNat_hidden, BitVec.toNat_ofNat]
      omega
    let packed := packComponents Format.binary64 sign (BitVec.ofNat 11 (exponent + 1075).toNat)
      (BitVec.ofNat 52 mantissa)
    have exponents : unpackExponent packed = BitVec.ofNat 11 (exponent + 1075).toNat :=
      unpackExponent_packComponents ..
    obtain ⟨_, unpacked⟩ := exists_unpack_of_normal (exponents ▸ bounded) (exponents ▸ normal)
    refine unpacked.trans (finite_eq_finite ?_ ?_ ?_)
    · rw [unpackSign_packComponents, ofBitVec_toBitVec]
    · rw [unpackMantissa_packComponents, hidden]
    · rw [exponents, biased]
      omega

/-! ### Rounding -/

/-- Shifting keeps the quotient, and notes nothing where there is no remainder. -/
theorem exists_shift (mantissa places : Nat) : ∃ round sticky,
    ExtendedMantissa.ofMantissaAndAccuracy mantissa .exact >>> places =
        ⟨mantissa / 2 ^ places, round, sticky⟩ ∧
      (2 ^ places ∣ mantissa → round = false ∧ sticky = false) := by
  induction places with
  | zero => exact ⟨false, false, by rw [Nat.pow_zero, Nat.div_one]; rfl, fun _ => ⟨rfl, rfl⟩⟩
  | succ places ih =>
    obtain ⟨round, sticky, shifted, clean⟩ := ih
    refine ⟨mantissa / 2 ^ places % 2 != 0, round || sticky, ?_, fun whole => ?_⟩
    · change (ExtendedMantissa.ofMantissaAndAccuracy mantissa .exact >>> places).shiftRightOne = _
      rw [shifted, ExtendedMantissa.shiftRightOne, Nat.div_div_eq_div_mul, Nat.pow_succ]
    · obtain ⟨factor, rfl⟩ := whole
      have even : 2 ^ (places + 1) * factor = 2 ^ places * (2 * factor) := by
        rw [Nat.pow_succ, Nat.mul_assoc]
      rw [even] at clean ⊢
      obtain ⟨rfl, rfl⟩ := clean (Nat.dvd_mul_right _ _)
      rw [Nat.mul_div_cancel_left _ (Nat.two_pow_pos places), Nat.mul_mod_right]
      exact ⟨rfl, rfl⟩

theorem roundedMantissa_bounds (mantissa : Nat) (round sticky : Bool) :
    mantissa ≤ (⟨mantissa, round, sticky⟩ : ExtendedMantissa).roundedMantissa ∧
      (⟨mantissa, round, sticky⟩ : ExtendedMantissa).roundedMantissa ≤ mantissa + 1 := by
  cases round <;> cases sticky <;>
    simp only [ExtendedMantissa.roundedMantissa, ExtendedMantissa.accuracy,
      Accuracy.roundToNearestEven] <;> omega

theorem ne_zero_of_log2 {n k : Nat} (bits : k + 1 ≤ Nat.log2 n) : n ≠ 0 := by
  rintro rfl
  cases bits

theorem log2_mul_two_pow {n : Nat} (nonzero : n ≠ 0) (places : Nat) :
    Nat.log2 (n * 2 ^ places) = Nat.log2 n + places := by
  induction places with
  | zero => rw [Nat.pow_zero, Nat.mul_one, Nat.add_zero]
  | succ places ih =>
    have filled : n * 2 ^ places ≠ 0 := Nat.mul_ne_zero nonzero (Nat.two_pow_pos places).ne'
    rw [Nat.pow_succ, ← Nat.mul_assoc, Nat.mul_comm _ 2, Nat.log2_two_mul filled, ih, Nat.add_assoc]

theorem log2_quotient {mantissa : Nat} (long : 52 ≤ Nat.log2 mantissa) :
    Nat.log2 (mantissa / 2 ^ (Nat.log2 mantissa - 52)) = 52 := by
  have nonzero := ne_zero_of_log2 long
  have low := Nat.log2_self_le nonzero
  have high : mantissa < 2 ^ (Nat.log2 mantissa + 1) := Nat.lt_log2_self
  generalize places : Nat.log2 mantissa - 52 = k
  rw [show Nat.log2 mantissa = 52 + k by omega, Nat.pow_add] at low
  rw [show Nat.log2 mantissa + 1 = 53 + k by omega, Nat.pow_add] at high
  have least : 2 ^ 52 ≤ mantissa / 2 ^ k := (Nat.le_div_iff_mul_le (Nat.two_pow_pos k)).mpr low
  have most : mantissa / 2 ^ k < 2 ^ 53 := (Nat.div_lt_iff_lt_mul (Nat.two_pow_pos k)).mpr high
  exact (Nat.log2_eq_iff (by omega)).mpr ⟨least, most⟩

theorem mantissaBits_binary64 : Format.binary64.mantissaBits = 53 := rfl

/-- A mantissa of 53 bits or more is cut to 53 bits. -/
theorem exists_shiftToTargetExponent {mantissa : Nat} {exponent : Int}
    (long : 52 ≤ Nat.log2 mantissa) (above : -1074 ≤ exponent) : ∃ round sticky,
    shiftToTargetExponent Format.binary64 mantissa exponent .exact =
        (⟨mantissa / 2 ^ (Nat.log2 mantissa - 52), round, sticky⟩,
          exponent + (Nat.log2 mantissa - 52 : Nat)) ∧
      (2 ^ (Nat.log2 mantissa - 52) ∣ mantissa → round = false ∧ sticky = false) := by
  obtain ⟨round, sticky, shifted, clean⟩ := exists_shift mantissa (Nat.log2 mantissa - 52)
  have target : Format.binary64.targetExponent (totalExponent mantissa exponent) =
      exponent + (Nat.log2 mantissa - 52 : Nat) := by
    simp only [Format.targetExponent, totalExponent, mantissaBits_binary64, Format.minExponent]
    omega
  have places : (exponent + (Nat.log2 mantissa - 52 : Nat) - exponent).toNat =
      Nat.log2 mantissa - 52 := by omega
  refine ⟨round, sticky, ?_, clean⟩
  simp only [shiftToTargetExponent, shiftToExponent, target, places, shifted]

/-- What is left of a long mantissa has 53 bits, and stands for the same number if the others were
zeros. -/
structure Rounded (mantissa : Nat) (exponent : Int) (rounded : Nat) (shifted : Int) : Prop where
  bits : Nat.log2 rounded = 52
  above : exponent + (Nat.log2 mantissa - 52 : Nat) ≤ shifted
  exact : 2 ^ (Nat.log2 mantissa - 52) ∣ mantissa →
    rounded = mantissa / 2 ^ (Nat.log2 mantissa - 52) ∧
      shifted = exponent + (Nat.log2 mantissa - 52 : Nat)

theorem exists_roundWithAccuracy {mantissa : Nat} {exponent : Int} (sign : Sign)
    (long : 52 ≤ Nat.log2 mantissa) (above : -1074 ≤ exponent) :
    ∃ rounded shifted filled,
      roundWithAccuracy Format.binary64 sign mantissa exponent .exact =
          .finite sign rounded shifted filled ∧
        Rounded mantissa exponent rounded shifted := by
  obtain ⟨round, sticky, first, clean⟩ := exists_shiftToTargetExponent long above
  have bits := log2_quotient long
  have bounds := roundedMantissa_bounds (mantissa / 2 ^ (Nat.log2 mantissa - 52)) round sticky
  generalize kept : (⟨mantissa / 2 ^ (Nat.log2 mantissa - 52), round, sticky⟩ :
    ExtendedMantissa).roundedMantissa = r at bounds
  -- Rounded up, the mantissa may have a bit too many, and is cut once more.
  have enough : 52 ≤ Nat.log2 r := by
    have least := ((Nat.log2_eq_iff (ne_zero_of_log2 bits.ge)).mp bits).1
    exact (Nat.le_log2 (by omega)).mpr (least.trans bounds.1)
  have still : -1074 ≤ exponent + (Nat.log2 mantissa - 52 : Nat) := by omega
  obtain ⟨_, _, second, -⟩ := exists_shiftToTargetExponent enough still
  have final := log2_quotient enough
  have nonzero := ne_zero_of_log2 final.ge
  refine ⟨r / 2 ^ (Nat.log2 r - 52), exponent + (Nat.log2 mantissa - 52 : Nat) +
    (Nat.log2 r - 52 : Nat), Nat.pos_of_ne_zero nonzero, ?_, final, by omega, fun whole => ?_⟩
  · unfold roundWithAccuracy
    rw [first]
    dsimp only
    rw [kept, second]
    exact dif_neg nonzero
  · obtain ⟨rfl, rfl⟩ := clean whole
    obtain rfl : mantissa / 2 ^ (Nat.log2 mantissa - 52) = r := kept
    rw [bits]
    simp

/-- A mantissa with zeros behind its 53 bits is not rounded. -/
theorem roundWithAccuracy_of_zeros {mantissa : Nat} {exponent : Int} (sign : Sign) (places : Nat)
    (bits : Nat.log2 mantissa = 52) (filled : 0 < mantissa) (above : -1074 ≤ exponent) :
    roundWithAccuracy Format.binary64 sign (mantissa * 2 ^ places) exponent .exact =
      .finite sign mantissa (exponent + places) filled := by
  have widened := log2_mul_two_pow filled.ne' places
  rw [bits] at widened
  obtain ⟨rounded, shifted, pos, result, -, -, exact⟩ :=
    exists_roundWithAccuracy sign (by omega : 52 ≤ Nat.log2 (mantissa * 2 ^ places)) above
  rw [widened, Nat.add_sub_cancel_left, Nat.mul_div_cancel _ (Nat.two_pow_pos places)] at exact
  obtain ⟨rfl, rfl⟩ := exact (Nat.dvd_mul_left _ _)
  exact result

/-! ### The double next to a whole number -/

/-- A double near a positive whole number: it has 53 bits, and none behind the point. -/
structure Nearest (n : Nat) (mantissa : Nat) (exponent : Int) : Prop where
  bits : Nat.log2 mantissa = 52
  above : -1074 ≤ exponent
  great : (Nat.log2 n : Int) - 52 ≤ exponent
  whole : exponent < 0 → 2 ^ (-exponent).toNat ∣ mantissa

theorem unpack_one : (Float.ofBits 0x3FF0000000000000).toModel.unpack =
    .finite .positive (2 ^ 52) (-52) (by decide) := rfl

theorem ofNat_of_short {n places : Nat} (bits : Nat.log2 (n * 2 ^ places) = 52)
    (filled : 0 < n * 2 ^ places) :
    UnpackedFloat.ofNat Format.binary64 n =
      .finite .positive (n * 2 ^ places) (-places) filled := by
  have pos : 0 < n := Nat.pos_of_mul_pos_right filled
  have few := log2_mul_two_pow pos.ne' places
  have sign : compare (n : Int) 0 = .gt := Int.compare_eq_gt.mpr (by omega)
  have target : Format.binary64.targetExponent (totalExponent n 0) = -places := by
    simp only [Format.targetExponent, totalExponent, mantissaBits_binary64, Format.minExponent]
    omega
  have shifted : decreaseExponent n 0 (-places) = (n * 2 ^ places, -(places : Int)) := by
    simp only [decreaseExponent, Int.zero_sub, Int.neg_neg, Int.toNat_natCast, Nat.shiftLeft_eq]
  have above : -1074 ≤ -(places : Int) := by omega
  have kept := roundWithAccuracy_of_zeros .positive 0 bits filled above
  rw [Nat.pow_zero, Nat.mul_one, Int.natCast_zero, Int.add_zero] at kept
  rw [UnpackedFloat.ofNat, UnpackedFloat.ofInt, UnpackedFloat.normalize, sign]
  dsimp only
  rw [Int.toNat_natCast, UnpackedFloat.round, target, shifted]
  exact kept

theorem mul_one_of_normal {mantissa : Nat} {exponent : Int} (bits : Nat.log2 mantissa = 52)
    (filled : 0 < mantissa) (above : -1022 ≤ exponent) :
    UnpackedFloat.mul Format.binary64 (.finite .positive mantissa exponent filled)
      (.finite .positive (2 ^ 52) (-52) (by decide)) = .finite .positive mantissa exponent filled := by
  have lower : -1074 ≤ exponent + -52 := by omega
  have kept := roundWithAccuracy_of_zeros .positive 52 bits filled lower
  rw [show exponent + -52 + (52 : Nat) = exponent by omega] at kept
  exact kept

theorem exists_nearest_of_short {n : Nat} (pos : 0 < n) (short : n < 2 ^ 53) :
    ∃ mantissa exponent filled,
      Float.ofScientific n false 0 =
          .ofModel (.pack (.finite .positive mantissa exponent filled)) ∧
        Nearest n mantissa exponent := by
  have few : Nat.log2 n < 53 := (Nat.log2_lt pos.ne').mpr short
  -- Nothing is rounded: the number is widened to 53 bits and multiplied by one.
  generalize places : 52 - Nat.log2 n = k
  have bits : Nat.log2 (n * 2 ^ k) = 52 := by
    rw [log2_mul_two_pow pos.ne']
    omega
  have filled : 0 < n * 2 ^ k := Nat.mul_pos pos (Nat.two_pow_pos k)
  have converted : UnpackedFloat.ofUInt64 Format.binary64 n.toUInt64 =
      .finite .positive (n * 2 ^ k) (-k) filled := by
    have small : n.toUInt64.toNat = n := Nat.mod_eq_of_lt (by omega)
    rw [UnpackedFloat.ofUInt64, small]
    exact ofNat_of_short bits filled
  refine ⟨n * 2 ^ k, -k, filled, ?_, bits, by omega, by omega, fun _ => ?_⟩
  · rw [Float.ofScientific, dif_pos ⟨short, by decide⟩, if_neg (by decide)]
    change Float.ofModel (.pack (UnpackedFloat.mul Format.binary64
      (Float.Model.pack (UnpackedFloat.ofUInt64 Format.binary64 n.toUInt64)).unpack
      (Float.ofBits 0x3FF0000000000000).toModel.unpack)) = _
    rw [converted, unpack_one, unpack_pack_of_normal filled bits (by omega), if_neg (by omega),
      mul_one_of_normal bits filled (by omega)]
  · rw [Int.neg_neg, Int.toNat_natCast]
    exact Nat.dvd_mul_left _ _

theorem exists_nearest_of_long {n : Nat} (long : 2 ^ 53 ≤ n) :
    ∃ mantissa exponent filled,
      Float.ofScientific n false 0 =
          .ofModel (.pack (.finite .positive mantissa exponent filled)) ∧
        Nearest n mantissa exponent := by
  have nonzero : n ≠ 0 := by omega
  have many : 53 ≤ Nat.log2 n := (Nat.le_log2 nonzero).mpr long
  have widened : Nat.log2 (n <<< 53 * 10 ^ 0) = Nat.log2 n + 53 := by
    rw [Nat.pow_zero, Nat.mul_one, Nat.shiftLeft_eq, log2_mul_two_pow nonzero]
  obtain ⟨rounded, shifted, filled, result, bits, above, -⟩ :=
    exists_roundWithAccuracy .positive (by omega : 52 ≤ Nat.log2 (n <<< 53 * 10 ^ 0))
      (by decide : -1074 ≤ -53 + (0 : Int))
  have scaled : UnpackedFloat.ofScientific Format.binary64 n (Int.ofNat 0) =
      roundWithAccuracy Format.binary64 .positive (n <<< 53 * 10 ^ 0) (-53 + 0) .exact := by
    have fits : ¬Int.ofNat 0 < -(2 ^ 11 + (Nat.log2 n : Int)) := by
      rw [Int.ofNat_eq_natCast]
      omega
    rw [UnpackedFloat.ofScientific, dif_neg nonzero, if_neg (by decide), if_neg fits,
      if_pos (by decide)]
    rfl
  refine ⟨rounded, shifted, filled, ?_, bits, by omega, by omega, by omega⟩
  rw [Float.ofScientific, dif_neg (by omega), ← result, ← scaled]
  rfl

/-! ### Whole numbers with a sign -/

/-- The double of a whole number, with its sign. -/
def wholeFloat (negative : Bool) (n : Nat) : Float :=
  if negative then -Float.ofScientific n false 0 else Float.ofScientific n false 0

theorem unpack_neg_of_normal {sign : Sign} {mantissa : Nat} {exponent : Int} (filled : 0 < mantissa)
    (bits : Nat.log2 mantissa = 52) (above : -1074 ≤ exponent) :
    (-Float.ofModel (.pack (.finite sign mantissa exponent filled))).toModel.unpack =
      if 972 ≤ exponent then .infinity (-sign) else .finite (-sign) mantissa exponent filled := by
  change (Float.Model.pack (UnpackedFloat.neg
    (Float.Model.pack (.finite sign mantissa exponent filled)).unpack)).unpack = _
  rw [unpack_pack_of_normal filled bits above]
  by_cases great : 972 ≤ exponent
  · rw [if_pos great, if_pos great]
    exact unpack_pack_infinity _
  · rw [if_neg great, if_neg great]
    change (Float.Model.pack (.finite (-sign) mantissa exponent filled)).unpack = _
    rw [unpack_pack_of_normal filled bits above, if_neg great]

theorem exists_binary (negative : Bool) {n : Nat} (pos : 0 < n) : ∃ mantissa exponent,
    Nearest n mantissa exponent ∧
      Binary.ofFloat? (wholeFloat negative n) =
        if 972 ≤ exponent then none else some ⟨negative, mantissa, exponent⟩ := by
  obtain ⟨mantissa, exponent, filled, spelled, nearest⟩ : ∃ mantissa exponent filled,
      Float.ofScientific n false 0 =
          .ofModel (.pack (.finite .positive mantissa exponent filled)) ∧
        Nearest n mantissa exponent := by
    rcases Nat.lt_or_ge n (2 ^ 53) with short | long
    · exact exists_nearest_of_short pos short
    · exact exists_nearest_of_long long
  refine ⟨mantissa, exponent, nearest, ?_⟩
  rw [Binary.ofFloat?_eq, wholeFloat, spelled]
  cases negative with
  | false =>
    change Binary.ofUnpacked? (Float.Model.pack (.finite .positive mantissa exponent filled)).unpack = _
    rw [unpack_pack_of_normal filled nearest.bits nearest.above]
    exact apply_ite Binary.ofUnpacked? _ _ _
  | true =>
    rw [if_pos rfl, unpack_neg_of_normal filled nearest.bits nearest.above]
    exact apply_ite Binary.ofUnpacked? _ _ _

/-- A whole number within the range of doubles is next to a double without a fraction. -/
theorem isWhole_of_isFinite {negative : Bool} {n : Nat}
    (finite : isFinite (wholeFloat negative n) = true) : isWhole (wholeFloat negative n) = true := by
  rcases Nat.eq_zero_or_pos n with rfl | pos
  · cases negative <;> decide +kernel
  · obtain ⟨mantissa, exponent, nearest, value⟩ := exists_binary negative pos
    rw [isFinite, value] at finite
    rw [isWhole, value]
    split at finite
    next => cases finite
    next fits =>
      rw [if_neg fits, Option.any_some, Binary.isWhole]
      rcases Int.lt_or_le exponent 0 with fraction | whole
      · simp [Nat.mod_eq_zero_of_dvd (nearest.whole fraction)]
      · simp [whole]

/-- From 2 to the power of 1024 on, whole numbers are beyond the range of doubles. -/
theorem not_isFinite_of_log2 {negative : Bool} {n : Nat} (many : 1024 ≤ Nat.log2 n) :
    isFinite (wholeFloat negative n) = false := by
  have pos : 0 < n := Nat.pos_of_ne_zero (ne_zero_of_log2 many)
  obtain ⟨mantissa, exponent, nearest, value⟩ := exists_binary negative pos
  have beyond := nearest.great
  rw [isFinite, value, if_pos (by omega)]
  rfl

end Targeting.Number
