import ConvexQP.Proofs.Exact.Arithmetic
import ConvexQP.Scan.Violation

/-!
Rows that come closer to their bounds. A body that is told apart from its bound only by a relative
tolerance is not told apart once it lies closer, as long as the tolerance is less than one.
-/
namespace ConvexQP
open scoped Exact
variable {K : Type} [Field K] [LinearOrder K] [IsStrictOrderedRing K] [Rooted K]

namespace Exact
variable (tolerance : Tolerance K) (valid : 0 ≤ tolerance.bound)

include valid in
theorem isDifferent_eq_false_iff (left right : K) :
    tolerance.isDifferent left right = false ↔
      if max |left| |right| ≤ tolerance.bound then |left - right| ≤ tolerance.bound
      else |left - right| ≤ tolerance.bound * max |left| |right| := by
  have reference : abs (max |left| |right|) = max |left| |right| :=
    abs_of_nonneg ((abs_nonneg left).trans (le_max_left _ _))
  simp only [Tolerance.isDifferent]
  split
  · rename_i equal
    rw [(same_iff left right).mp equal, sub_self, abs_zero, max_self]
    split
    · simpa using valid
    · simpa using mul_nonneg valid (abs_nonneg right)
  · rw [Bool.not_eq_false', larger_eq, magnitude_eq, magnitude_eq,
      isSmall_iff tolerance _ _ valid, reference]

omit [Rooted K] in
/-- Values closer to each other than the larger of them lies from zero are on one side of it, so
on the way from one to the other magnitudes do not shrink faster than the distance. -/
theorem mul_max_abs_le (bound far share : K) (close : |bound - far| < max |bound| |far|)
    (low : 0 ≤ share) (high : share ≤ 1) :
    share * max |bound| |far| ≤ max |bound| |bound + share * (far - bound)| := by
  have sides : share * |far| ≤ |bound + share * (far - bound)| := by
    rcases le_total 0 bound with above | below
    · rcases le_total 0 far with beside | across
      · rw [abs_of_nonneg beside]
        exact le_trans (by nlinarith) (le_abs_self _)
      · rw [abs_of_nonneg above, abs_of_nonpos across, abs_of_nonneg (by linarith)] at close
        exact absurd (max_le (by linarith) (by linarith)) (not_le.mpr close)
    · rcases le_total 0 far with across | beside
      · rw [abs_of_nonpos below, abs_of_nonneg across, abs_of_nonpos (by linarith)] at close
        exact absurd (max_le (by linarith) (by linarith)) (not_le.mpr close)
      · rw [abs_of_nonpos beside]
        exact le_trans (by nlinarith) (neg_le_abs _)
  rw [mul_max_of_nonneg _ _ low]
  exact max_le_max (mul_le_of_le_one_left (abs_nonneg bound) high) sides

include valid in
/-- Values that are not told apart are not told apart on the way from one to the other. -/
theorem isDifferent_closer (small : tolerance.bound < 1) (bound far share : K)
    (low : 0 ≤ share) (high : share ≤ 1) (alike : tolerance.isDifferent bound far = false) :
    tolerance.isDifferent bound (bound + share * (far - bound)) = false := by
  rw [isDifferent_eq_false_iff tolerance valid] at alike ⊢
  have distance : |bound - (bound + share * (far - bound))| = share * |bound - far| := by
    rw [sub_add_cancel_left, abs_neg, abs_mul, abs_of_nonneg low, abs_sub_comm]
  have nearer : share * |bound - far| ≤ |bound - far| :=
    mul_le_of_le_one_left (abs_nonneg _) high
  rw [distance]
  by_cases tiny : max |bound| |far| ≤ tolerance.bound
  · rw [if_pos tiny] at alike
    have inside : |bound + share * (far - bound)| ≤ max |bound| |far| := by
      rw [abs_le]
      have limits := abs_le.mp (le_max_left |bound| |far|)
      have others := abs_le.mp (le_max_right |bound| |far|)
      constructor <;> nlinarith
    rw [if_pos (max_le ((le_max_left _ _).trans tiny) (inside.trans tiny))]
    exact nearer.trans alike
  · rw [if_neg tiny] at alike
    have close : |bound - far| < max |bound| |far| :=
      alike.trans_lt (mul_lt_of_lt_one_left (valid.trans_lt (not_le.mp tiny)) small)
    have within : share * |bound - far| ≤
        tolerance.bound * max |bound| |bound + share * (far - bound)| :=
      calc share * |bound - far|
          ≤ share * (tolerance.bound * max |bound| |far|) := mul_le_mul_of_nonneg_left alike low
        _ = tolerance.bound * (share * max |bound| |far|) := mul_left_comm _ _ _
        _ ≤ _ := mul_le_mul_of_nonneg_left (mul_max_abs_le bound far share close low high) valid
    split
    · rename_i near
      exact within.trans ((mul_le_mul_of_nonneg_left near valid).trans
        (mul_le_of_le_one_left valid small.le))
    · exact within

end Exact

namespace Violation
variable (tolerance : Tolerance K) (valid : 0 ≤ tolerance.bound) (small : tolerance.bound < 1)

theorem ofInequality_of_le (bound body : K) (within : body ≤ bound) :
    ofInequality tolerance bound body = false := by
  simp only [ofInequality, decide_eq_false (not_lt.mpr within), Bool.false_and]

include valid small in
/-- A row that does not look violated does not look so with a smaller body. -/
theorem ofInequality_closer (bound body less : K) (lower : less ≤ body)
    (held : ofInequality tolerance bound body = false) :
    ofInequality tolerance bound less = false := by
  rcases le_or_gt less bound with within | above
  · exact ofInequality_of_le tolerance bound less within
  · have far : bound < body := above.trans_le lower
    have width : 0 < body - bound := sub_pos.mpr far
    simp only [ofInequality, far, above, decide_true, Bool.true_and] at held ⊢
    have share : less = bound + (less - bound) / (body - bound) * (body - bound) := by
      rw [div_mul_cancel₀ _ width.ne']
      ring
    rw [share]
    exact Exact.isDifferent_closer tolerance valid small bound body _
      (div_nonneg (sub_pos.mpr above).le width.le)
      ((div_le_one width).mpr (sub_le_sub_right lower bound)) held

end Violation
end ConvexQP
