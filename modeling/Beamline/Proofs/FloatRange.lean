import Beamline.Proofs.FloatSigns

namespace Beamline.Number

open Float.Model (Format UnpackedFloat totalExponent)
open Float.Model.UnpackedFloat

/-- Zero, or a finite number of at most so many binary digits with an exponent of at most `top`. -/
inductive Within (digits : Nat) (top : Int) : UnpackedFloat → Prop
  | zero (sign : Sign) : Within digits top (.zero sign)
  | finite (sign : Sign) {mantissa : Nat} {exponent : Int} (positive : 0 < mantissa)
      (short : mantissa < 2 ^ digits) (low : exponent ≤ top) :
      Within digits top (.finite sign mantissa exponent positive)

namespace Within

variable {digits : Nat} {top : Int} {number : UnpackedFloat}

theorem isFinite (within : Within digits top number) : number.isFinite = true := by
  cases within <;> rfl

theorem mono {higher : Int} (within : Within digits top number) (below : top ≤ higher) :
    Within digits higher number := by
  cases within with
  | zero sign => exact .zero sign
  | finite sign positive short low => exact .finite sign positive short (low.trans below)

theorem neg (within : Within digits top number) : Within digits top number.neg := by
  cases within with
  | zero => exact .zero _
  | finite _ positive short low => exact .finite _ positive short low

end Within

/-! ## Rounding -/

private theorem mantissa_shiftRight_le (number : ExtendedMantissa) (places : Nat) :
    (number >>> places).mantissa ≤ number.mantissa := by
  change (Nat.repeat ExtendedMantissa.shiftRightOne places number).mantissa ≤ _
  induction places with
  | zero => exact Nat.le_refl _
  | succ places ih => exact Nat.le_trans (Nat.div_le_self _ _) ih

private theorem roundedMantissa_le (number : ExtendedMantissa) :
    number.roundedMantissa ≤ number.mantissa + 1 := by
  unfold ExtendedMantissa.roundedMantissa Accuracy.roundToNearestEven
  split <;> omega

private theorem log2_lt_of_lt {number digits : Nat} (positive : 0 < digits)
    (short : number < 2 ^ digits) :
    number.log2 < digits := by
  by_cases zero : number = 0
  · subst zero
    exact positive
  · exact (Nat.log2_lt zero).mpr short

/-- Shifting to fewer digits raises the exponent no further than it has to. -/
theorem shiftToTargetExponent_le {mantissa digits : Nat} {exponent top : Int}
    (positive : 0 < digits) (short : mantissa < 2 ^ digits) (low : exponent ≤ top)
    (normal : -1074 ≤ top) :
    (shiftToTargetExponent .binary64 mantissa exponent .exact).1.mantissa ≤ mantissa ∧
    (shiftToTargetExponent .binary64 mantissa exponent .exact).2 ≤ top + digits := by
  constructor
  · exact mantissa_shiftRight_le _ _
  · have digits := log2_lt_of_lt positive short
    simp only [shiftToTargetExponent, shiftToExponent, Format.targetExponent, totalExponent,
      Format.mantissaBits, Format.minExponent]
    omega

theorem within_roundWithAccuracy (sign : Sign) {mantissa digits : Nat} {exponent top : Int}
    (positive : 0 < digits) (short : mantissa < 2 ^ digits) (low : exponent ≤ top)
    (normal : -1074 ≤ top) :
    Within (digits + 1) (top + 2 * digits + 1)
      (roundWithAccuracy .binary64 sign mantissa exponent .exact) := by
  obtain ⟨fewer, early⟩ := shiftToTargetExponent_le positive short low normal
  unfold roundWithAccuracy
  generalize shiftToTargetExponent .binary64 mantissa exponent .exact = first at fewer early
  obtain ⟨number, exponent⟩ := first
  have rounded : number.roundedMantissa < 2 ^ (digits + 1) := by
    have double : 2 ^ (digits + 1) = 2 * 2 ^ digits := Nat.pow_succ'
    have up := roundedMantissa_le number
    change number.mantissa ≤ mantissa at fewer
    omega
  have last := shiftToTargetExponent_le (Nat.succ_pos digits) rounded early (by omega)
  dsimp only
  split
  · exact .zero sign
  · exact .finite sign _ (last.1.trans_lt rounded) (last.2.trans (by omega))

theorem within_mul {first second : UnpackedFloat} {digits more : Nat} {top upper : Int}
    (one : Within digits top first) (other : Within more upper second) (positive : 0 < digits)
    (normal : -1074 ≤ top + upper) :
    Within (digits + more + 1) (top + upper + 2 * (digits + more) + 1)
      (.mul .binary64 first second) := by
  cases one with
  | zero =>
    cases other with
    | zero | finite => exact .zero _
  | finite _ _ short low =>
    cases other with
    | zero => exact .zero _
    | finite _ _ few below =>
      refine within_roundWithAccuracy _ (by omega) ?_ (add_le_add low below) normal
      rw [Nat.pow_add]
      exact Nat.mul_lt_mul'' short few

/-! ## Packing -/

theorem within_unpack_packComponents {top : Int} (low : -1074 ≤ top) (sign : Sign)
    (mantissa : BitVec Format.binary64.mantissaBitsWithoutImplicit) {biased : Nat}
    (small : biased < 2047) (exponent : (biased : Int) - 1075 ≤ top) :
    Within 53 top (unpack .binary64 (packComponents .binary64 sign (BitVec.ofNat 11 biased)
      mantissa)) := by
  have value : (BitVec.ofNat 11 biased).toNat = biased := by
    rw [BitVec.toNat_ofNat, Nat.mod_eq_of_lt (by omega)]
  have finite : BitVec.ofNat 11 biased ≠ -1#11 := by
    intro same
    rw [same] at value
    have greatest : (-1#11).toNat = 2047 := by decide
    omega
  unfold unpack
  simp only [unpackMantissa_packComponents, unpackExponent_packComponents]
  change Within 53 top (if BitVec.ofNat 11 biased = -1#11 then _ else _)
  rw [if_neg finite]
  split
  · rename_i subnormal
    have none : biased = 0 := by
      rw [← value]
      exact congrArg BitVec.toNat subnormal
    split
    · exact .zero _
    · refine .finite _ _ (mantissa.isLt.trans (by decide)) ?_
      change ((BitVec.ofNat 11 biased).toNat : Int) - (1023 + 52) + 1 ≤ top
      omega
  · refine .finite _ _ (1#1 ++ mantissa).isLt ?_
    change ((BitVec.ofNat 11 biased).toNat : Int) - (1023 + 52) ≤ top
    omega

/-- A number whose exponent is not too high stays finite when it is packed. -/
theorem within_unpack_pack {number : UnpackedFloat} {digits : Nat} {top : Int}
    (within : Within digits top number) (low : -1074 ≤ top) (high : top ≤ 971) :
    Within 53 top (unpack .binary64 (pack .binary64 number)) := by
  cases within with
  | zero sign =>
    rw [pack, unpack_packedZero]
    exact .zero sign
  | @finite sign mantissa exponent positive short below =>
    change Within 53 top (unpack .binary64 (if 2048 ≤ (exponent + 1023 + 52).toNat + 1 then _ else
      if mantissa.log2 + 1 = 53 then _ else _))
    rw [if_neg (by omega)]
    split
    · have small : (exponent + 1023 + 52).toNat < 2047 := by omega
      have biased : ((exponent + 1023 + 52).toNat : Int) - 1075 ≤ top := by omega
      exact within_unpack_packComponents low sign _ small biased
    · exact within_unpack_packComponents low sign _ (by omega) (by omega)

/-! ## Integers -/

private theorem one_within : Within 53 (-52) (1.0 : Float).toModel.unpack := by
  have one : (1.0 : Float).toModel.unpack = .finite .positive (2 ^ 52) (-52) (by decide) := rfl
  rw [one]
  exact .finite _ _ (by decide) le_rfl

/-- A word is shifted to at most 53 digits more than it has, and rounded. -/
theorem within_ofNat {value : Nat} (small : value < 2 ^ 64) :
    Within 118 235 (.ofNat .binary64 value) := by
  unfold UnpackedFloat.ofNat UnpackedFloat.ofInt UnpackedFloat.normalize
  split
  · rename_i below
    rw [compare_lt_iff_lt] at below
    omega
  · exact .zero _
  · have few :
        ((0 : Int) - Format.binary64.targetExponent (totalExponent value 0)).toNat ≤ 53 := by
      simp only [Format.targetExponent, totalExponent, Format.mantissaBits]
      omega
    simp only [UnpackedFloat.round, decreaseExponent, Int.toNat_natCast]
    generalize ((0 : Int) - Format.binary64.targetExponent (totalExponent value 0)).toNat = places
      at few
    have short : value <<< places < 2 ^ 117 := by
      have most : 2 ^ places ≤ 2 ^ 53 := Nat.pow_le_pow_right two_pos few
      rw [Nat.shiftLeft_eq]
      calc value * 2 ^ places ≤ value * 2 ^ 53 := Nat.mul_le_mul_left value most
        _ < 2 ^ 64 * 2 ^ 53 := by omega
    have low : (0 : Int) - places ≤ 0 := by omega
    exact within_roundWithAccuracy .positive (by decide) short low (by decide)

theorem within_ofScientific {value : Nat} (small : value < 2 ^ 64) :
    Within 119 971 (.ofScientific .binary64 value 0) := by
  unfold UnpackedFloat.ofScientific
  split
  · exact .zero _
  · have above : ¬ (0 : Int) < -(2 ^ Format.binary64.exponentBits + value.log2) := by
      have exponents : 0 < (2 : Int) ^ Format.binary64.exponentBits := by decide
      omega
    rw [if_neg (by decide), if_neg above, if_pos (le_refl (0 : Int))]
    have bits : Format.binary64.mantissaBits = 53 := rfl
    have positive : 0 < value <<< Format.binary64.mantissaBits := by
      rw [Nat.shiftLeft_eq, bits]
      omega
    have short : value <<< Format.binary64.mantissaBits < 2 ^ 117 := by
      rw [Nat.shiftLeft_eq, bits]
      omega
    have digits : Within 117 (-53)
        (.finite .positive _ (-Format.binary64.mantissaBits) positive) :=
      .finite _ _ short le_rfl
    have power : Within 1 0 (.finite .positive (10 ^ 0) 0 Nat.one_pos) :=
      .finite _ _ (by decide) le_rfl
    exact (within_mul digits power (by decide) (by decide)).mono (by decide)

theorem within_float_ofNat {value : Nat} (small : value < 2 ^ 64) :
    Within 53 971 (Float.ofNat value).toModel.unpack := by
  change Within 53 971 (Float.ofScientific value false 0).toModel.unpack
  unfold Float.ofScientific
  split
  · have word : Within 53 235 value.toUInt64.toFloat.toModel.unpack :=
      within_unpack_pack (within_ofNat (UInt64.toNat_lt _)) (by decide) (by decide)
    exact (within_unpack_pack (within_mul word one_within (by decide) (by decide)) (by decide)
      (by decide)).mono (by decide)
  · exact within_unpack_pack (within_ofScientific small) (by decide) le_rfl

/-- Every integer of a signed or unsigned word has a finite floating-point number. -/
theorem isFinite_ofInt {value : Int} (least : -2 ^ 63 ≤ value) (greatest : value < 2 ^ 64) :
    (Float.ofInt value).isFinite = true := by
  cases value with
  | ofNat value => exact (within_float_ofNat (Int.ofNat_lt.mp greatest)).isFinite
  | negSucc value =>
    have small : value + 1 < 2 ^ 64 := by omega
    have negated : Within 53 971 (Float.ofNat (value + 1)).neg.toModel.unpack :=
      within_unpack_pack (within_float_ofNat small).neg (by decide) (by decide)
    exact negated.isFinite

end Beamline.Number
