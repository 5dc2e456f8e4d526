import Mathlib

namespace Beamline.Number

open Float.Model (Format UnpackedFloat totalExponent)
open Float.Model.UnpackedFloat

/-! ## Packing -/

/-- The sign of a number; what is not a number has none. -/
def signOf : UnpackedFloat → Option Sign
  | .notANumber => none
  | .infinity sign | .zero sign | .finite sign .. => some sign

theorem signOf_unpack_packComponents {spec : Format} (sign : Sign)
    {exponent : BitVec spec.exponentBits} (finite : exponent ≠ -1#_)
    (mantissa : BitVec spec.mantissaBitsWithoutImplicit) :
    signOf (unpack spec (packComponents spec sign exponent mantissa)) = some sign := by
  unfold unpack
  simp only [unpackMantissa_packComponents, unpackExponent_packComponents,
    unpackSign_packComponents, Sign.ofBitVec_toBitVec, if_neg finite]
  split
  · split <;> rfl
  · rfl

theorem unpack_packedInfinity (spec : Format) (sign : Sign) :
    unpack spec (packedInfinity spec sign) = .infinity sign := by
  simp [unpack, packedInfinity]

theorem signOf_unpack_pack (number : UnpackedFloat) :
    signOf (unpack .binary64 (pack .binary64 number)) = signOf number := by
  cases number with
  | notANumber => rfl
  | infinity sign => rw [pack, unpack_packedInfinity]
  | zero sign => exact congrArg signOf unpack_packedZero
  | finite sign mantissa exponent positive =>
    -- What is too large is packed as infinity, what has too few digits as subnormal.
    unfold pack
    simp only
    split
    · rw [unpack_packedInfinity]
      rfl
    · rename_i small
      split
      · refine signOf_unpack_packComponents sign ?_ _
        intro same
        have equal := congrArg BitVec.toNat same
        rw [BitVec.neg_one_eq_allOnes, BitVec.toNat_allOnes, BitVec.toNat_ofNat,
          Nat.mod_eq_of_lt (by omega)] at equal
        omega
      · exact signOf_unpack_packComponents sign (by decide) _

/-! ## Comparison with zero -/

private theorem lt_iff_unpack {first second : Float} :
    first < second ↔ first.toModel.unpack.lt second.toModel.unpack = true :=
  decide_eq_true_iff

theorem le_iff_unpack {first second : Float} :
    first ≤ second ↔ first.toModel.unpack.le second.toModel.unpack = true :=
  decide_eq_true_iff

theorem unpack_zero : (0 : Float).toModel.unpack = .zero .positive := rfl

/-- Whether a number is greater than zero, also infinite. -/
def Above : UnpackedFloat → Prop
  | .infinity .positive | .finite .positive .. => True
  | _ => False

/-- The sign of a floating-point number, none if it is not a number. -/
def floatSign (number : Float) : Option Sign :=
  signOf number.toModel.unpack

theorem Above.cases {number : UnpackedFloat} (above : Above number) :
    number = .infinity .positive ∨
      ∃ mantissa exponent some, number = .finite .positive mantissa exponent some := by
  cases number with
  | infinity sign => cases sign <;> simp_all [Above]
  | finite sign mantissa exponent some => cases sign <;> simp_all [Above]
  | _ => cases above

theorem isNaN_iff {number : Float} : number.isNaN = true ↔ floatSign number = none := by
  change number.toModel.unpack.isNaN = true ↔ signOf number.toModel.unpack = none
  cases number.toModel.unpack <;> simp [UnpackedFloat.isNaN, signOf]

theorem pos_iff {number : Float} : 0 < number ↔ Above number.toModel.unpack := by
  rw [lt_iff_unpack, unpack_zero]
  cases number.toModel.unpack with
  | notANumber | zero sign => simp [Above, UnpackedFloat.lt, UnpackedFloat.compare]
  | infinity sign | finite sign =>
    cases sign <;> simp [Above, UnpackedFloat.lt, UnpackedFloat.compare]

theorem floatSign_of_pos {number : Float} (positive : 0 < number) :
    floatSign number = some .positive := by
  unfold floatSign
  rcases (pos_iff.mp positive).cases with same | ⟨_, _, _, same⟩ <;> rw [same] <;> rfl

theorem isNaN_eq_false_of_pos {number : Float} (positive : 0 < number) : number.isNaN = false := by
  rw [Bool.eq_false_iff, ne_eq, isNaN_iff, floatSign_of_pos positive]
  exact Option.some_ne_none _

theorem not_le_zero_iff {number : Float} : ¬ number ≤ 0 ↔ 0 < number ∨ number.isNaN = true := by
  rw [pos_iff, le_iff_unpack, unpack_zero]
  change _ ↔ _ ∨ number.toModel.unpack.isNaN = true
  cases number.toModel.unpack with
  | notANumber | zero sign =>
    simp [Above, UnpackedFloat.isNaN, UnpackedFloat.le, UnpackedFloat.compare]
  | infinity sign | finite sign =>
    cases sign <;> simp [Above, UnpackedFloat.isNaN, UnpackedFloat.le, UnpackedFloat.compare]

/-- The absolute value of zero is at most every number with a positive sign. -/
theorem abs_zero_le {number : Float} (positive : floatSign number = some .positive) :
    (0 : Float).abs ≤ number := by
  have abs : (0 : Float).abs.toModel.unpack = .zero .positive := rfl
  rw [le_iff_unpack, abs]
  unfold floatSign at positive
  cases same : number.toModel.unpack <;> rw [same] at positive <;> cases positive <;> rfl

theorem abs_zero_le_of_abs_le {first second : Float} (below : first.abs ≤ second) :
    (0 : Float).abs ≤ second := by
  have zero : (0 : Float).abs.toModel.unpack = .zero .positive := rfl
  have sign : signOf first.abs.toModel.unpack ≠ some .negative := by
    change signOf (unpack _ (pack _ first.toModel.unpack.abs)) ≠ _
    rw [signOf_unpack_pack]
    cases first.toModel.unpack <;> simp [UnpackedFloat.abs, signOf]
  rw [le_iff_unpack] at below ⊢
  rw [zero]
  generalize first.abs.toModel.unpack = magnitude at below sign
  generalize second.toModel.unpack = bound at below ⊢
  -- Of numbers with a negative sign only zero is at least a magnitude, and it equals zero.
  cases bound with
  | notANumber => cases magnitude <;> cases below
  | zero other => rfl
  | infinity other | finite other =>
    cases other with
    | positive => rfl
    | negative =>
      cases magnitude with
      | notANumber => cases below
      | zero => cases below
      | infinity own | finite own =>
        cases own with
        | positive => cases below
        | negative => exact absurd rfl sign

theorem not_le_of_none {number : Float} (none : floatSign number = none) (other : Float) :
    ¬ other ≤ number := by
  rw [le_iff_unpack]
  unfold floatSign at none
  cases same : number.toModel.unpack <;> rw [same] at none <;> cases none
  cases other.toModel.unpack <;> simp [UnpackedFloat.le, UnpackedFloat.compare]

/-! ## Products and quotients -/

theorem floatSign_mul (first second : Float) : floatSign (first * second) =
    signOf (.mul .binary64 first.toModel.unpack second.toModel.unpack) :=
  signOf_unpack_pack _

theorem floatSign_div (first second : Float) : floatSign (first / second) =
    signOf (.div .binary64 first.toModel.unpack second.toModel.unpack) :=
  signOf_unpack_pack _

theorem signOf_roundWithAccuracy (spec : Format) (sign : Sign) (mantissa : Nat) (exponent : Int)
    (accuracy : Accuracy) :
    signOf (roundWithAccuracy spec sign mantissa exponent accuracy) = some sign := by
  unfold roundWithAccuracy
  dsimp only
  split <;> rfl

/-- A product of numbers greater than zero has a positive sign, also if it underflows. -/
theorem floatSign_mul_of_pos {first second : Float} (one : 0 < first) (other : 0 < second) :
    floatSign (first * second) = some .positive := by
  rw [floatSign_mul]
  rcases (pos_iff.mp one).cases with same | ⟨_, _, _, same⟩ <;>
    rcases (pos_iff.mp other).cases with equal | ⟨_, _, _, equal⟩ <;> rw [same, equal]
  · rfl
  · rfl
  · rfl
  · exact signOf_roundWithAccuracy ..

/-- Half of a number with a positive sign has a positive sign, also if it underflows. -/
theorem floatSign_half {number : Float} (positive : floatSign number = some .positive) :
    floatSign (number / 2) = some .positive := by
  have two : (2 : Float).toModel.unpack = .finite .positive (2 ^ 52) (-51) (by decide) := rfl
  rw [floatSign_div, two]
  unfold floatSign at positive
  cases same : number.toModel.unpack <;> rw [same] at positive <;> cases positive
  · rfl
  · rfl
  · exact signOf_roundWithAccuracy ..

theorem floatSign_mul_of_none {number : Float} (none : floatSign number = none) (other : Float) :
    floatSign (other * number) = .none := by
  rw [floatSign_mul]
  unfold floatSign at none
  cases same : number.toModel.unpack <;> rw [same] at none <;> cases none
  cases other.toModel.unpack <;> rfl

theorem floatSign_half_of_none {number : Float} (none : floatSign number = none) :
    floatSign (number / 2) = .none := by
  rw [floatSign_div]
  unfold floatSign at none
  cases same : number.toModel.unpack <;> rw [same] at none <;> cases none
  rfl

/-! ## Whole numbers -/

theorem roundWithAccuracy_of_target {spec : Format} {mantissa : Nat} {exponent : Int}
    (target : spec.targetExponent (totalExponent mantissa exponent) = exponent) (sign : Sign)
    (some : 0 < mantissa) :
    roundWithAccuracy spec sign mantissa exponent .exact = .finite sign mantissa exponent some := by
  have shift : shiftToTargetExponent spec mantissa exponent .exact =
      (⟨mantissa, false, false⟩, exponent) := by
    unfold shiftToTargetExponent shiftToExponent
    simp only [target, Int.sub_self, Int.toNat_zero]
    exact congrArg (Prod.mk _) (Int.add_zero exponent)
  have rounded : ExtendedMantissa.roundedMantissa ⟨mantissa, false, false⟩ = mantissa := rfl
  unfold roundWithAccuracy
  simp only [shift, rounded]
  exact dif_neg (Nat.ne_of_gt some)

private theorem log2_mul_two_pow {number : Nat} (some : 0 < number) (places : Nat) :
    (number * 2 ^ places).log2 = number.log2 + places := by
  induction places with
  | zero => rw [Nat.pow_zero, Nat.mul_one, Nat.add_zero]
  | succ places ih =>
    have product : number * 2 ^ places ≠ 0 :=
      Nat.ne_of_gt (Nat.mul_pos some (Nat.two_pow_pos places))
    rw [Nat.pow_succ, ← Nat.mul_assoc, Nat.mul_comm, Nat.log2_two_mul product, ih, Nat.add_assoc]

theorem round_whole {number : Nat} (some : 0 < number) (short : number.log2 ≤ 52) :
    ∃ mantissa positive, mantissa.log2 = 52 ∧
      UnpackedFloat.round .binary64 .positive number 0 =
        .finite .positive mantissa (number.log2 - 52) positive := by
  have target : Format.binary64.targetExponent (totalExponent number 0) = number.log2 - 52 := by
    simp only [Format.targetExponent, totalExponent, Format.mantissaBits, Format.minExponent]
    omega
  have shift : (0 - ((number.log2 : Int) - 52)).toNat = 52 - number.log2 := by omega
  have long : (number <<< (52 - number.log2)).log2 = 52 := by
    rw [Nat.shiftLeft_eq, log2_mul_two_pow some]
    omega
  have positive : 0 < number <<< (52 - number.log2) := Nat.shiftLeft_pos_iff.mpr some
  refine ⟨_, positive, long, ?_⟩
  have exponent : (0 : Int) - (52 - number.log2 : Nat) = number.log2 - 52 := by omega
  unfold UnpackedFloat.round
  simp only [target, decreaseExponent, shift, exponent]
  refine roundWithAccuracy_of_target ?_ .positive positive
  simp only [Format.targetExponent, totalExponent, Format.mantissaBits, Format.minExponent, long]
  omega

theorem above_unpack_pack {mantissa : Nat} {exponent : Int} (some : 0 < mantissa)
    (long : mantissa.log2 = 52) (low : -1075 < exponent) (high : exponent < 971) :
    Above (unpack .binary64 (pack .binary64 (.finite .positive mantissa exponent some))) := by
  have biased : (exponent + Format.binary64.exponentBias +
      Format.binary64.mantissaBitsWithoutImplicit).toNat = (exponent + 1075).toNat := by
    change (exponent + 1023 + 52).toNat = _
    omega
  have small : ¬ 2 ^ Format.binary64.exponentBits ≤ (exponent + 1075).toNat + 1 := by
    change ¬ 2048 ≤ _
    omega
  have wide : (BitVec.ofNat 11 (exponent + 1075).toNat).toNat = (exponent + 1075).toNat := by
    rw [BitVec.toNat_ofNat]
    omega
  have finite : BitVec.ofNat 11 (exponent + 1075).toNat ≠ -1#_ := by
    intro same
    have equal := wide.symm.trans (congrArg BitVec.toNat same)
    change _ = 2047 at equal
    omega
  have normal : BitVec.ofNat 11 (exponent + 1075).toNat ≠ 0#_ := by
    intro same
    have equal := wide.symm.trans (congrArg BitVec.toNat same)
    change _ = 0 at equal
    omega
  simp only [pack, biased, if_neg small, long]
  rw [if_pos (show 52 + 1 = Format.binary64.mantissaBits from rfl)]
  unfold unpack
  simp only [unpackMantissa_packComponents, unpackExponent_packComponents,
    unpackSign_packComponents, Sign.ofBitVec_toBitVec, if_neg finite, if_neg normal]
  trivial

theorem toFloat_pos {count : UInt32} (some : 0 < count) : 0 < count.toFloat := by
  rw [pos_iff]
  change Above (unpack .binary64 (pack .binary64 (.ofUInt32 .binary64 count)))
  rw [UInt32.lt_iff_toNat_lt] at some
  have bound : count.toNat.log2 < 32 := (Nat.log2_lt (Nat.ne_of_gt some)).mpr count.toNat_lt
  obtain ⟨mantissa, positive, long, same⟩ := round_whole some (by omega)
  have whole : UnpackedFloat.ofUInt32 .binary64 count =
      UnpackedFloat.round .binary64 .positive count.toNat 0 := by
    have positive : compare (count.toNat : Int) 0 = .gt := Int.compare_eq_gt.mpr (by omega)
    simp only [UnpackedFloat.ofUInt32, UnpackedFloat.ofNat, UnpackedFloat.ofInt,
      UnpackedFloat.normalize, positive, Int.toNat_natCast]
  rw [whole, same]
  exact above_unpack_pack positive long (by omega) (by omega)

end Beamline.Number
