import ConvexQP.Scalar
import Mathlib

/-!
Differences in floating point. The difference of two numbers that are not negative is no larger
than one of the two, and rounding to the nearest number does not carry it past that one. So it is
finite if they are.
-/
namespace ConvexQP
namespace Floating
open Float.Model
open Float.Model.UnpackedFloat (Accuracy ExtendedMantissa Sign decreaseExponent packedZero
  roundWithAccuracy shiftToExponent shiftToTargetExponent unpackExponent
  unpackExponent_packComponents unpackMantissa)

/-! ### Rounding -/

/-- The least mantissa that also covers the bits dropped behind it. -/
def cover (value : ExtendedMantissa) : Nat :=
  value.mantissa + (value.roundBit || value.stickyBit).toNat

theorem roundedMantissa_le_cover (value : ExtendedMantissa) :
    value.roundedMantissa ≤ cover value := by
  rcases value with ⟨mantissa, roundBit, stickyBit⟩
  cases roundBit <;> cases stickyBit <;>
    simp [ExtendedMantissa.roundedMantissa, ExtendedMantissa.accuracy,
      Accuracy.roundToNearestEven, cover]
  omega

theorem cover_shiftRightOne (value : ExtendedMantissa) (bound : Nat)
    (covered : cover value ≤ 2 * bound) : cover value.shiftRightOne ≤ bound := by
  rcases value with ⟨mantissa, roundBit, stickyBit⟩
  simp only [cover, ExtendedMantissa.shiftRightOne] at covered ⊢
  have dropped : (mantissa % 2 != 0 || (roundBit || stickyBit)).toNat ≤
      mantissa % 2 + (roundBit || stickyBit).toNat := by
    rcases Nat.mod_two_eq_zero_or_one mantissa with even | odd
    · simp [even]
    · simp [odd]
  have bit := Bool.toNat_le (mantissa % 2 != 0 || (roundBit || stickyBit))
  omega

theorem cover_shiftRight (value : ExtendedMantissa) (count bound : Nat)
    (covered : cover value ≤ bound * 2 ^ count) : cover (value >>> count) ≤ bound := by
  induction count generalizing bound with
  | zero => exact covered.trans_eq (mul_one bound)
  | succ count ih =>
      apply cover_shiftRightOne (value >>> count)
      apply ih
      rwa [mul_comm 2, mul_assoc, ← pow_succ']

/-- The number is no larger than the largest finite one, whose mantissa is all of 53 bits. -/
structure InRange (mantissa : Nat) (exponent : Int) : Prop where
  exponent_le : exponent ≤ 971
  mantissa_le : mantissa ≤ (2 ^ 53 - 1) * 2 ^ (971 - exponent).toNat

namespace InRange
variable {mantissa : Nat} {exponent : Int}

theorem of_lt (exponent_le : exponent ≤ 971) (short : mantissa < 2 ^ 53) :
    InRange mantissa exponent :=
  ⟨exponent_le, (Nat.le_sub_one_of_lt short).trans (Nat.le_mul_of_pos_right _ (by positivity))⟩

theorem smaller (range : InRange mantissa exponent) {other : Nat} (below : other ≤ mantissa) :
    InRange other exponent :=
  ⟨range.exponent_le, below.trans range.mantissa_le⟩

theorem targetExponent_le (range : InRange mantissa exponent) :
    Format.binary64.targetExponent (totalExponent mantissa exponent) ≤ 971 := by
  have digits : mantissa.log2 < 53 + (971 - exponent).toNat := by
    rcases Nat.eq_zero_or_pos mantissa with rfl | positive
    · simp
    · rw [Nat.log2_lt positive.ne', pow_add]
      exact range.mantissa_le.trans_lt (Nat.mul_lt_mul_of_pos_right (by decide) (by positivity))
  have exponent_le := range.exponent_le
  simp only [Format.targetExponent, totalExponent, Format.mantissaBits, Format.minExponent]
  omega

theorem decreased (range : InRange mantissa exponent) (target : Int) :
    InRange (decreaseExponent mantissa exponent target).1
      (decreaseExponent mantissa exponent target).2 := by
  have exponent_le := range.exponent_le
  refine ⟨?_, ?_⟩
  · simp only [decreaseExponent]
    omega
  · simp only [decreaseExponent, Nat.shiftLeft_eq]
    have further : (971 - (exponent - ((exponent - target).toNat : Int))).toNat =
        (971 - exponent).toNat + (exponent - target).toNat := by omega
    rw [further, pow_add, ← mul_assoc]
    exact Nat.mul_le_mul_right _ range.mantissa_le

theorem shifted (range : InRange mantissa exponent) {value : ExtendedMantissa} {reached : Int}
    (shift : shiftToTargetExponent Format.binary64 mantissa exponent .exact = (value, reached)) :
    InRange value.roundedMantissa reached := by
  have exponent_le := range.exponent_le
  have low := range.targetExponent_le
  simp only [shiftToTargetExponent, shiftToExponent] at shift
  generalize Format.binary64.targetExponent (totalExponent mantissa exponent) = target at low shift
  obtain ⟨rfl, rfl⟩ := Prod.mk.inj shift
  refine ⟨by omega, ?_⟩
  apply (roundedMantissa_le_cover _).trans
  apply cover_shiftRight
  have whole : cover (ExtendedMantissa.ofMantissaAndAccuracy mantissa .exact) = mantissa := rfl
  have nearer : (971 - (exponent + ((target - exponent).toNat : Int))).toNat +
      (target - exponent).toNat = (971 - exponent).toNat := by omega
  rw [whole, mul_assoc, ← pow_add, nearer]
  exact range.mantissa_le

end InRange

/-- Zero, or a number whose exponent is that of a finite one. -/
def Packable : UnpackedFloat → Prop
  | .zero _ => True
  | .finite _ _ exponent _ => exponent ≤ 971
  | .infinity _ | .notANumber => False

theorem InRange.packable_roundWithAccuracy {mantissa : Nat} {exponent : Int}
    (range : InRange mantissa exponent) (sign : Sign) :
    Packable (roundWithAccuracy Format.binary64 sign mantissa exponent .exact) := by
  fun_cases roundWithAccuracy
  · trivial
  · rename_i _ _ shift _ _ _ again _ _
    exact ((range.shifted shift).shifted again).exponent_le

theorem InRange.packable_round {mantissa : Nat} {exponent : Int} (range : InRange mantissa exponent)
    (sign : Sign) : Packable (UnpackedFloat.round Format.binary64 sign mantissa exponent) :=
  (range.decreased _).packable_roundWithAccuracy sign

theorem InRange.packable_normalize {difference exponent : Int}
    (range : InRange difference.natAbs exponent) (zeroSign : Sign) :
    Packable (UnpackedFloat.normalize Format.binary64 difference exponent zeroSign) := by
  rw [UnpackedFloat.normalize]
  split
  · exact (range.smaller (by omega)).packable_round _
  · trivial
  · exact (range.smaller (by omega)).packable_round _

/-! ### Packing -/

theorem isFinite_unpack_iff (bits : BitVec Format.binary64.numBits) :
    (UnpackedFloat.unpack Format.binary64 bits).isFinite = true ↔ unpackExponent bits ≠ -1#_ := by
  simp only [UnpackedFloat.unpack]
  split
  · rename_i full
    split <;> exact iff_of_false Bool.false_ne_true (not_not_intro full)
  · rename_i short
    split
    · split <;> exact iff_of_true rfl short
    · exact iff_of_true rfl short

theorem Packable.isFinite {value : UnpackedFloat} (packable : Packable value) :
    (Float.Model.pack value).isFinite = true := by
  change (UnpackedFloat.unpack Format.binary64 (UnpackedFloat.pack Format.binary64 value)).isFinite =
    true
  rw [isFinite_unpack_iff]
  cases value with
  | zero sign =>
      simp only [UnpackedFloat.pack, packedZero, unpackExponent_packComponents]
      decide
  | finite sign mantissa exponent positive =>
      have exponent_le : exponent ≤ 971 := packable
      have bias : Format.binary64.exponentBias = 1023 := by decide
      simp only [UnpackedFloat.pack, bias]
      rw [if_neg (by omega)]
      split
      · rw [unpackExponent_packComponents]
        intro full
        have same := congrArg BitVec.toNat full
        simp only [BitVec.toNat_ofNat] at same
        change _ = 2047 at same
        omega
      · rw [unpackExponent_packComponents]
        decide
  | infinity sign => exact packable.elim
  | notANumber => exact packable.elim

theorem inRange_unpack (value : Float.Model) (sign : Sign) (mantissa : Nat) (exponent : Int)
    (positive : 0 < mantissa) (unpacked : value.unpack = .finite sign mantissa exponent positive) :
    InRange mantissa exponent := by
  rw [Float.Model.unpack] at unpacked
  generalize value.toBits.toBitVec = bits at unpacked
  have bias : Format.binary64.exponentBias = 1023 := by decide
  have mantissa_lt : (@unpackMantissa Format.binary64 bits).toNat < 2 ^ 52 := BitVec.isLt _
  simp only [UnpackedFloat.unpack, bias] at unpacked
  split at unpacked
  · split at unpacked <;> cases unpacked
  · rename_i short
    split at unpacked
    · rename_i subnormal
      split at unpacked
      · cases unpacked
      · cases unpacked
        rw [subnormal]
        exact .of_lt (by decide) (by omega)
    · cases unpacked
      have full : (@unpackExponent Format.binary64 bits).toNat ≠ 2047 :=
        fun same => short (BitVec.eq_of_toNat_eq same)
      have exponent_lt : (@unpackExponent Format.binary64 bits).toNat < 2 ^ 11 :=
        BitVec.isLt _
      exact .of_lt (by omega) (BitVec.isLt _)

/-! ### Subtraction -/

theorem InRange.aligned {mantissa : Nat} {exponent : Int} (range : InRange mantissa exponent)
    (target : Int) (low : target ≤ exponent) :
    InRange (decreaseExponent mantissa exponent target).1 target := by
  have moved := range.decreased target
  have reached : (decreaseExponent mantissa exponent target).2 = target := by
    simp only [decreaseExponent]
    omega
  rwa [reached] at moved

/-- A finite number that is not negative. -/
inductive Nonnegative : UnpackedFloat → Prop
  | zero (sign : Sign) : Nonnegative (.zero sign)
  | positive (mantissa : Nat) (exponent : Int) (positive : 0 < mantissa)
      (range : InRange mantissa exponent) :
      Nonnegative (.finite .positive mantissa exponent positive)

theorem Nonnegative.packable_sub {left right : UnpackedFloat} (above : Nonnegative left)
    (below : Nonnegative right) : Packable (UnpackedFloat.sub Format.binary64 left right) := by
  cases above with
  | zero sign =>
      cases below with
      | zero other =>
          simp only [UnpackedFloat.sub]
          split <;> trivial
      | positive mantissa exponent _ range => exact range.exponent_le
  | positive mantissa exponent _ range =>
      cases below with
      | zero _ => exact range.exponent_le
      | positive other power _ also =>
          have first := range.aligned (min exponent power) (min_le_left _ _)
          have second := also.aligned (min exponent power) (min_le_right _ _)
          -- The larger of the two mantissas bounds their difference.
          have bound (large small : Nat) : ((large : Int) - small).natAbs ≤ max large small := by
            omega
          apply InRange.packable_normalize
          rcases le_total (decreaseExponent mantissa exponent (min exponent power)).1
              (decreaseExponent other power (min exponent power)).1 with up | down
          · exact second.smaller ((bound _ _).trans (max_le up le_rfl))
          · exact first.smaller ((bound _ _).trans (max_le le_rfl down))

theorem nonnegative_of_finite (value : Float) (finite_value : finite value = true)
    (sign : 0 ≤ value) : Nonnegative value.toModel.unpack := by
  change decide ((0.0 : Float).toModel ≤ value.toModel) = true at sign
  rw [decide_eq_true_iff] at sign
  change ((0.0 : Float).toModel.unpack.compare value.toModel.unpack).any (·.isLE) = true at sign
  have zero : (0.0 : Float).toModel.unpack = .zero .positive := rfl
  rw [zero] at sign
  change value.toModel.unpack.isFinite = true at finite_value
  cases read : value.toModel.unpack with
  | zero other => exact .zero other
  | finite other mantissa exponent positive =>
      cases other with
      | positive => exact .positive _ _ _ (inRange_unpack _ _ _ _ _ read)
      | negative =>
          rw [read] at sign
          cases sign
  | infinity other =>
      rw [read] at finite_value
      cases finite_value
  | notANumber =>
      rw [read] at finite_value
      cases finite_value

/-- The difference of two finite numbers that are not negative is finite. -/
theorem finite_sub (left right : Float) (finite_left : finite left = true) (left_nonneg : 0 ≤ left)
    (finite_right : finite right = true) (right_nonneg : 0 ≤ right) :
    finite (left - right) = true :=
  ((nonnegative_of_finite left finite_left left_nonneg).packable_sub
    (nonnegative_of_finite right finite_right right_nonneg)).isFinite

end Floating
end ConvexQP
