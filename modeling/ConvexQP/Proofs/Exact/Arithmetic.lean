import ConvexQP.Linear
import ConvexQP.Tolerance
import Mathlib.Analysis.Real.Sqrt
import Mathlib.Data.Rat.Sqrt

/-!
Exact arithmetic: an ordered field in which every square has its root. A value that is no square
may have anything for a root that is not negative, as nothing said of exact arithmetic depends on
it. The reals are meant; the rationals can be computed with.
-/
namespace ConvexQP

class Rooted (K : Type) [Field K] [LinearOrder K] where
  root : K → K
  root_nonneg : ∀ value, 0 ≤ root value
  root_square : ∀ value, root (value * value) = |value|

instance exactScalar {K : Type} [Field K] [LinearOrder K] [IsStrictOrderedRing K] [Rooted K] :
    Scalar K where
  toZero := inferInstance
  toOne := inferInstance
  toAdd := inferInstance
  toSub := inferInstance
  toMul := inferInstance
  toDiv := inferInstance
  toNeg := inferInstance
  toLE := inferInstance
  toLT := inferInstance
  toOfScientific := inferInstance
  decideLE := inferInstance
  decideLT := inferInstance
  magnitude value := |value|
  squareRoot := Rooted.root
  finite _ := true

noncomputable instance : Rooted ℝ where
  root := Real.sqrt
  root_nonneg := Real.sqrt_nonneg
  root_square := Real.sqrt_mul_self_eq_abs

instance : Rooted ℚ where
  root := Rat.sqrt
  root_nonneg := Rat.sqrt_nonneg
  root_square := Rat.sqrt_eq

namespace Exact

-- A field is also a scalar, but its operations are read as those of the field.
attribute [scoped instance (low)] Scalar.toZero Scalar.toOne Scalar.toAdd Scalar.toSub Scalar.toMul
  Scalar.toDiv Scalar.toNeg Scalar.toLE Scalar.toLT Scalar.toOfScientific Scalar.decideLE
  Scalar.decideLT

variable {K : Type} [Field K] [LinearOrder K] [IsStrictOrderedRing K] [Rooted K]

theorem magnitude_eq (value : K) : magnitude value = |value| := rfl

theorem larger_eq (left right : K) : larger left right = max left right := by
  unfold larger
  split
  · rename_i less
    exact (max_eq_right less.le).symm
  · rename_i less
    exact (max_eq_left (not_lt.mp less)).symm

theorem same_iff (left right : K) : same left right = true ↔ left = right := by
  unfold same
  rw [Bool.and_eq_true, decide_eq_true_eq, decide_eq_true_eq]
  exact ⟨fun both => le_antisymm both.1 both.2, fun equal => ⟨equal.le, equal.ge⟩⟩

theorem allFinite (values : List K) : Linear.allFinite values = true :=
  List.all_eq_true.mpr fun _ _ => rfl

section Tolerance
variable (tolerance : Tolerance K)

theorem isZero_iff (value : K) : tolerance.isZero value = true ↔ |value| ≤ tolerance.bound := by
  unfold Tolerance.isZero
  rw [decide_eq_true_eq]
  rfl

/-- Small values are told by a product, so that no reference is divided by. -/
theorem isSmall_iff (reference value : K) (valid : 0 ≤ tolerance.bound) :
    tolerance.isSmall reference value = true ↔
      if |reference| ≤ tolerance.bound then |value| ≤ tolerance.bound
      else |value| ≤ tolerance.bound * |reference| := by
  unfold Tolerance.isSmall
  by_cases zero : |reference| ≤ tolerance.bound
  · rw [if_pos ((isZero_iff tolerance reference).mpr zero), if_pos zero]
    exact isZero_iff tolerance value
  · have positive : 0 < |reference| := lt_of_le_of_lt valid (not_le.mp zero)
    rw [if_neg (fun small => zero ((isZero_iff tolerance reference).mp small)), if_neg zero,
      isZero_iff, abs_div, div_le_iff₀ positive]

theorem isDifferent_self (value : K) : tolerance.isDifferent value value = false := by
  unfold Tolerance.isDifferent
  rw [if_pos ((same_iff value value).mpr rfl)]

end Tolerance
end Exact
end ConvexQP
