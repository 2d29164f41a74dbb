import ConvexQP.Proofs.Exact.Kkt
import ConvexQP.Proofs.Scan.Choice

/-!
A step towards the solution of a subproblem, in exact arithmetic. The included rows hold all the
way, so the step stays feasible just if no other row is used up; the ratio test sees to the rows
it does not leave out for their small slope.
-/
namespace ConvexQP
open scoped Exact
variable {K : Type} [Field K] [LinearOrder K] [IsStrictOrderedRing K] [Rooted K]

/-! ### The ratio test -/

namespace RatioTest
variable {Row : Type} (test : RatioTest K) (candidates : List (Candidate K Row))
variable (candidate : Candidate K Row)

theorem length_range : 0 ≤ (test.run candidates).length ∧ (test.run candidates).length ≤ 1 := by
  induction candidates using List.reverseRecOn with
  | nil => exact ⟨zero_le_one, le_refl 1⟩
  | append_singleton candidates last ih =>
      rw [run_append, tighten]
      split
      · rename_i tighter
        simp only [Bool.and_eq_true, decide_eq_true_eq] at tighter
        exact ⟨tighter.1.2, tighter.2.le.trans ih.2⟩
      · exact ih

/-- No row ahead is reached before the step ends. -/
theorem length_le_ratio (member : candidate ∈ candidates) (ahead : test.ahead candidate = true)
    (reachable : 0 ≤ test.ratio candidate) :
    (test.run candidates).length ≤ test.ratio candidate := by
  induction candidates using List.reverseRecOn with
  | nil => simp at member
  | append_singleton candidates last ih =>
      -- Later candidates only shorten the step.
      rw [run_append, tighten]
      rcases List.mem_append.mp member with earlier | here
      · have bound := ih earlier
        split
        · rename_i tighter
          simp only [Bool.and_eq_true, decide_eq_true_eq] at tighter
          exact tighter.2.le.trans bound
        · exact bound
      · rw [List.mem_singleton.mp here] at ahead reachable ⊢
        split
        · exact le_refl _
        · rename_i loose
          simp only [ahead, reachable, decide_true, Bool.true_and, decide_eq_true_eq, not_lt]
            at loose
          exact loose

/-- A slack that counts as used up is not gone beyond either. -/
theorem ratio_mul_slope_le (slack : 0 ≤ candidate.slack) (slope : 0 < candidate.slope) :
    0 ≤ test.ratio candidate ∧ test.ratio candidate * candidate.slope ≤ candidate.slack := by
  unfold ratio
  split
  · exact ⟨le_refl 0, by rw [zero_mul]; exact slack⟩
  · exact ⟨div_nonneg slack slope.le, by rw [div_mul_cancel₀ _ slope.ne']⟩

/-- A step does not use up more of a row than is left, unless it takes its slope for small. -/
theorem length_mul_slope_le (member : candidate ∈ candidates) (slack : 0 ≤ candidate.slack)
    (seen : test.solutionTolerance.isSmall test.stepNorm candidate.slope = false) :
    (test.run candidates).length * candidate.slope ≤ candidate.slack := by
  rcases lt_or_ge 0 candidate.slope with rising | falling
  · obtain ⟨reachable, within⟩ := ratio_mul_slope_le test candidate slack rising
    have ahead : test.ahead candidate = true := by simp [RatioTest.ahead, rising, seen]
    have reached := length_le_ratio test candidates candidate member ahead reachable
    exact (mul_le_mul_of_nonneg_right reached rising.le).trans within
  · have forward := (length_range test candidates).1
    exact (mul_nonpos_of_nonneg_of_nonpos forward falling).trans slack

end RatioTest

/-! ### Rows along a step -/

namespace Constraints
variable {size : Nat} (block : Constraints K size) (row : Nat)

theorem slackOf_addScaled (factor : K) (direction base : List K)
    (fits : base.length = direction.length) :
    block.slackOf (Linear.addScaled factor direction base) row =
      block.slackOf base row - factor * block.bodyOf direction row := by
  unfold slackOf bodyOf
  rw [Linear.dot_addScaled _ _ _ _ fits]
  ring

theorem bodyOf_addScaled (factor : K) (direction base : List K)
    (fits : base.length = direction.length) :
    block.bodyOf (Linear.addScaled factor direction base) row =
      block.bodyOf base row + factor * block.bodyOf direction row := by
  have slack := block.slackOf_addScaled row factor direction base fits
  simp only [slackOf] at slack
  linarith

/-- On the way to a point a row uses up the slack it loses. -/
theorem bodyOf_subtract (target start : List K) (fits : target.length = start.length) :
    block.bodyOf (Linear.subtract target start) row =
      block.slackOf start row - block.slackOf target row := by
  unfold slackOf bodyOf
  rw [Linear.dot_subtract _ _ _ fits]
  ring

/-- A row that is tight at the target loses residual in proportion to the way. -/
theorem slackOf_towards (target start : List K) (length : K) (sizes : target.length = start.length)
    (tight : block.slackOf target row = 0) :
    block.slackOf (Linear.addScaled length (Linear.subtract target start) start) row =
      (1 - length) * block.slackOf start row := by
  have fits : start.length = (Linear.subtract target start).length := by
    rw [Linear.length_subtract, sizes, Nat.min_self]
  rw [slackOf_addScaled _ _ _ _ _ fits, bodyOf_subtract _ _ _ _ sizes, tight, sub_zero, one_sub_mul]

end Constraints

namespace Problem
variable (problem : Problem K)

theorem feasible_iff (point : List K) : problem.Feasible point ↔
    point.length = problem.size ∧
      Linear.apply problem.equalities.rows point = problem.equalities.bounds ∧
      ∀ row < problem.inequalities.count, 0 ≤ problem.inequalities.slackOf point row := by
  have bounds := problem.inequalities.bounds_length
  constructor
  · intro feasible
    refine ⟨feasible.size, feasible.equalities, ?_⟩
    intro row inside
    exact sub_nonneg.mpr (feasible.body_le problem point row inside)
  · rintro ⟨size, equalities, slacks⟩
    refine ⟨size, equalities, List.forall₂_iff_get.mpr ⟨?_, ?_⟩⟩
    · rw [Linear.length_apply, bounds]
    · intro row applied bounded
      have inside : row < problem.inequalities.rows.length := by
        rwa [Linear.length_apply] at applied
      have slack := sub_nonneg.mp (slacks row inside)
      rw [Constraints.bodyOf, List.getD_eq_getElem?_getD, List.getD_eq_getElem?_getD,
        List.getElem?_eq_getElem inside, List.getElem?_eq_getElem bounded, Option.getD_some,
        Option.getD_some] at slack
      simpa [Linear.apply] using slack

end Problem

namespace Kkt.Solution
variable {problem : Problem K} {included : List Nat} {target multipliers : List K}
variable (solution : Solution problem included target multipliers)

include solution in
theorem slackOf_eq_zero (inside : Inside problem included) (row : Nat) (member : row ∈ included) :
    problem.inequalities.slackOf target row = 0 := by
  have tight := (solution.rows_hold problem included).2
  rw [Constraints.apply_rowsAt _ _ _ inside, Constraints.boundsAt_eq_map _ _ inside] at tight
  exact sub_eq_zero.mpr (List.map_inj_left.mp tight row member).symm

variable (start : List K) (feasible : problem.Feasible start) (factor : K)

include solution feasible in
theorem equalities_of_step : Linear.apply problem.equalities.rows
    (Linear.addScaled factor (Linear.subtract target start) start) =
      problem.equalities.bounds := by
  have sizes : target.length = start.length := solution.size.trans feasible.size.symm
  have fits : start.length = (Linear.subtract target start).length := by
    rw [Linear.length_subtract, sizes, Nat.min_self]
  have reached := (solution.rows_hold problem included).1
  rw [Linear.apply_addScaled _ _ _ _ fits, Linear.apply_subtract _ _ _ sizes, reached,
    feasible.equalities, Linear.addScaled_subtract_self]

include solution feasible in
/-- The included rows use up their slack in proportion, so they hold all the way as well. -/
theorem slackOf_step_nonneg (inside : Inside problem included) (short : factor ≤ 1) (row : Nat)
    (member : row ∈ included) : 0 ≤ problem.inequalities.slackOf
      (Linear.addScaled factor (Linear.subtract target start) start) row := by
  have sizes : target.length = start.length := solution.size.trans feasible.size.symm
  have tight := solution.slackOf_eq_zero inside row member
  have slack := ((problem.feasible_iff start).mp feasible).2.2 row (inside row member)
  rw [Constraints.slackOf_towards _ _ _ _ _ sizes tight]
  exact mul_nonneg (sub_nonneg.mpr short) slack

end Kkt.Solution
end ConvexQP
