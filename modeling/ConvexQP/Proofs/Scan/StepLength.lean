import ConvexQP.Proofs.Exact.Arithmetic
import ConvexQP.Proofs.Scan.Choice
import Mathlib

/-!
The length of a step in any arithmetic with consistent comparisons. A value that compares with
nothing is allowed, so floating point is such an arithmetic, and exact arithmetic is another one.
-/
namespace ConvexQP

/-- What comparisons keep to, also where some value compares with nothing. -/
class Scalar.Consistent (R : Type) [Scalar R] : Prop where
  lt_trans : ∀ low middle high : R, low < middle → middle < high → low < high
  le_of_lt : ∀ low high : R, low < high → low ≤ high
  zero_le_one : (0 : R) ≤ 1
  one_le_one : (1 : R) ≤ 1
  not_one_lt_one : ¬ (1 : R) < 1

/-! ### Floating point -/

namespace Floating
open Float.Model (UnpackedFloat)

/-- Where a number stands among all others: by its kind, then by its exponent, then by its
mantissa. -/
def standing : UnpackedFloat → Option (ℤ ×ₗ ℤ ×ₗ ℤ)
  | .notANumber => none
  | .infinity .positive => some (toLex (2, toLex (0, 0)))
  | .infinity .negative => some (toLex (-2, toLex (0, 0)))
  | .zero _ => some (toLex (0, toLex (0, 0)))
  | .finite .positive mantissa exponent _ => some (toLex (1, toLex (exponent, (mantissa : ℤ))))
  | .finite .negative mantissa exponent _ =>
    some (toLex (-1, toLex (-exponent, -(mantissa : ℤ))))

theorem compare_eq_lt_iff (left right : UnpackedFloat) :
    left.compare right = some .lt ↔ ∃ low high,
      standing left = some low ∧ standing right = some high ∧ low < high := by
  rcases left with (_ | _) | _ | _ | ⟨_ | _, mantissa, exponent, _⟩ <;>
    rcases right with (_ | _) | _ | _ | ⟨_ | _, other, power, _⟩ <;>
    simp [UnpackedFloat.compare, standing, Prod.Lex.toLex_lt_toLex, Ordering.then_eq_lt,
      Ordering.then_eq_gt, compare_lt_iff_lt, compare_gt_iff_gt]
  · decide

theorem lt_iff (left right : Float) :
    left < right ↔ left.toModel.unpack.compare right.toModel.unpack = some .lt := by
  change decide (left.toModel < right.toModel) = true ↔ _
  rw [decide_eq_true_iff]
  change (left.toModel.unpack.compare right.toModel.unpack == some .lt) = true ↔ _
  rw [beq_iff_eq]

theorem le_of_lt (left right : Float) (less : left < right) : left ≤ right := by
  rw [lt_iff] at less
  change decide (left.toModel ≤ right.toModel) = true
  rw [decide_eq_true_iff]
  change (left.toModel.unpack.compare right.toModel.unpack).any (·.isLE) = true
  rw [less]
  rfl

instance : Scalar.Consistent Float where
  lt_trans low middle high below above := by
    obtain ⟨least, here, leastEq, hereEq, first⟩ :=
      (compare_eq_lt_iff _ _).mp ((lt_iff low middle).mp below)
    obtain ⟨there, greatest, thereEq, greatestEq, second⟩ :=
      (compare_eq_lt_iff _ _).mp ((lt_iff middle high).mp above)
    obtain rfl : here = there := Option.some.inj (hereEq.symm.trans thereEq)
    exact (lt_iff low high).mpr ((compare_eq_lt_iff _ _).mpr
      ⟨least, greatest, leastEq, greatestEq, first.trans second⟩)
  le_of_lt := le_of_lt
  zero_le_one := by decide +kernel
  one_le_one := by decide +kernel
  not_one_lt_one := by decide +kernel

end Floating

/-! ### Exact arithmetic -/

open scoped Exact in
instance {K : Type} [Field K] [LinearOrder K] [IsStrictOrderedRing K] [Rooted K] :
    Scalar.Consistent K where
  lt_trans _ _ _ below above := below.trans above
  le_of_lt _ _ less := less.le
  zero_le_one := zero_le_one
  one_le_one := le_refl 1
  not_one_lt_one := lt_irrefl 1

/-! ### The ratio test -/

namespace RatioTest
variable {R Row : Type} [Scalar R] [Scalar.Consistent R]
variable (test : RatioTest R) (candidates : List (Candidate R Row))

open Scalar.Consistent

/-- Each row that tightens the limit leaves it below the one before. -/
theorem run_whole_or_shorter : test.run candidates = ⟨1, none⟩ ∨
    0 ≤ (test.run candidates).length ∧ (test.run candidates).length < 1 ∧
      (test.run candidates).blocking.isSome := by
  induction candidates using List.reverseRecOn with
  | nil => exact Or.inl rfl
  | append_singleton candidates last ih =>
      rw [run_append, tighten]
      split
      · rename_i tighter
        simp only [Bool.and_eq_true, decide_eq_true_eq] at tighter
        refine Or.inr ⟨tighter.1.2, ?_, rfl⟩
        rcases ih with whole | ⟨_, shorter, _⟩
        · have below := tighter.2
          rwa [whole] at below
        · exact lt_trans _ _ _ tighter.2 shorter
      · exact ih

/-- The step length is between zero and one, and below one only if a row stops the step. -/
theorem run_length_range :
    0 ≤ (test.run candidates).length ∧ (test.run candidates).length ≤ 1 ∧
      ((test.run candidates).length < 1 → (test.run candidates).blocking.isSome) := by
  rcases run_whole_or_shorter test candidates with whole | ⟨nonneg, shorter, blocked⟩
  · rw [whole]
    exact ⟨zero_le_one, one_le_one, fun below => absurd below not_one_lt_one⟩
  · exact ⟨nonneg, le_of_lt _ _ shorter, fun _ => blocked⟩

end RatioTest
end ConvexQP
