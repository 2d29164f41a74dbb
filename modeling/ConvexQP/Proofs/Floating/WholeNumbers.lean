import ConvexQP.Proofs.Floating.Differences
import ConvexQP.Storage.Element

/-!
Whole numbers in floating point. The double nearest to a whole number of 64 bits is finite, so such
a number is never too large to be read as a real.
-/
namespace ConvexQP
namespace Floating
open Float.Model

theorem InRange.scaled {mantissa : Nat} {exponent : Int} (range : InRange mantissa exponent)
    (count : Nat) : InRange (mantissa * 2 ^ count) (exponent - count) := by
  have exponent_le := range.exponent_le
  refine ⟨by omega, ?_⟩
  have further : (971 - (exponent - count)).toNat = (971 - exponent).toNat + count := by omega
  rw [further, pow_add, ← mul_assoc]
  exact Nat.mul_le_mul_right _ range.mantissa_le

/-- Whole numbers of 64 bits need two words less than the largest finite one. -/
theorem InRange.of_whole (number : Nat) (small : number ≤ 2 ^ 64) : InRange number 0 := by
  refine ⟨by decide, small.trans ?_⟩
  have room : (2 : Nat) ^ 64 ≤ 2 ^ (971 - 0 : Int).toNat :=
    Nat.pow_le_pow_right (by decide) (by decide)
  exact room.trans (Nat.le_mul_of_pos_left _ (by decide))

theorem packable_mul {first second : Nat} {exponent power : Int} {positive : 0 < first}
    {above : 0 < second} (sign other : UnpackedFloat.Sign)
    (range : InRange (first * second) (exponent + power)) :
    Packable (UnpackedFloat.mul Format.binary64 (.finite sign first exponent positive)
      (.finite other second power above)) :=
  range.packable_roundWithAccuracy _

/-- A finite number stays finite when it is multiplied by one. -/
theorem finite_mul_one (value : Float) (finite_value : value.isFinite = true) :
    (value * 1.0).isFinite = true := by
  change value.toModel.unpack.isFinite = true at finite_value
  have one : (1.0 : Float).toModel.unpack = .finite .positive (2 ^ 52) (-52) (by decide) := rfl
  change (Float.Model.pack (UnpackedFloat.mul Format.binary64 value.toModel.unpack
    (1.0 : Float).toModel.unpack)).isFinite = true
  apply Packable.isFinite
  rw [one]
  cases read : value.toModel.unpack with
  | zero sign => trivial
  | finite sign mantissa exponent positive =>
      exact packable_mul sign .positive ((inRange_unpack _ _ _ _ _ read).scaled 52)
  | infinity sign | notANumber =>
      rw [read] at finite_value
      cases finite_value

theorem finite_ofUInt64 (number : UInt64) : number.toFloat.isFinite = true := by
  change (Float.Model.pack (UnpackedFloat.normalize Format.binary64 number.toNat 0
    .positive)).isFinite = true
  apply Packable.isFinite
  apply InRange.packable_normalize
  exact .of_whole _ (by simpa using number.toNat_lt.le)

/-- The model's own reading, for numbers with more bits than a mantissa has. -/
theorem finite_ofScientific_model (digits : Nat) (small : digits ≤ 2 ^ 64) :
    (Float.Model.ofScientific digits 0).isFinite = true := by
  apply Packable.isFinite
  have range := (InRange.of_whole digits small).scaled Format.binary64.mantissaBits
  rw [← Nat.shiftLeft_eq, zero_sub] at range
  unfold UnpackedFloat.ofScientific
  split
  · exact True.intro
  · split
    · rename_i beyond
      exact absurd beyond (by decide)
    · split
      · exact True.intro
      · rw [if_pos le_rfl]
        refine packable_mul _ _ ?_
        rwa [Int.toNat_zero, pow_zero, mul_one, add_zero]

theorem finite_ofScientific (digits : Nat) (small : digits ≤ 2 ^ 64) :
    (Float.ofScientific digits false 0).isFinite = true := by
  unfold Float.ofScientific
  split
  · exact finite_mul_one _ (finite_ofUInt64 _)
  · exact finite_ofScientific_model digits small

theorem finite_floatOfDigits (digits : Nat) (small : digits ≤ 2 ^ 64) :
    (Decimal.floatOfDigits digits 0).isFinite = true := by
  unfold Decimal.floatOfDigits
  split
  · decide
  · have length : Decimal.digitCount digits ≤ 400 :=
      (Nat.toDigits_length 10 digits 20 (by decide) (small.trans_lt (by decide))).trans (by decide)
    extract_lets leading
    rw [if_neg (by omega), if_neg (by omega), if_pos le_rfl]
    exact finite_ofScientific digits small

end Floating

/-- A whole number of 64 bits reads as the real it is stored as. -/
theorem Datum.realOfInteger_toInt (value : Int64) :
    realOfInteger value.toInt = .ok (Element.realOfWhole value) := by
  have low := Int64.le_toInt value
  have high := Int64.toInt_lt value
  have finite := Floating.finite_floatOfDigits value.toInt.natAbs (by omega)
  simp only [realOfInteger, Element.realOfWhole, finite, if_true]

end ConvexQP
