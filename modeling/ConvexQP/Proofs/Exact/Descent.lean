import ConvexQP.Proofs.Exact.Leaving

/-!
Steps along tight rows. From a point on the active rows, the whole way to the solution on them stays
on these rows, and the objective falls along it as its curvature says.
-/
namespace ConvexQP
open scoped Exact
variable {K : Type} [Field K] [LinearOrder K] [IsStrictOrderedRing K] [Rooted K]

namespace Kkt

/-- The point is on all the active rows. -/
def Tight (problem : Problem K) (included : List Nat) (point : List K) : Prop :=
  Linear.apply (rows problem included) point = bounds problem included

section Rows
variable {problem : Problem K} {included : List Nat} {point : List K}

theorem tight_iff (inside : Inside problem included) : Tight problem included point ↔
    Linear.apply problem.equalities.rows point = problem.equalities.bounds ∧
      ∀ row ∈ included, problem.inequalities.slackOf point row = 0 := by
  have heights : (Linear.apply problem.equalities.rows point).length =
      problem.equalities.bounds.length := by
    rw [Linear.length_apply, problem.equalities.bounds_length]
  have slacks : included.map (problem.inequalities.bodyOf point) =
        problem.inequalities.boundsAt included ↔
      ∀ row ∈ included, problem.inequalities.slackOf point row = 0 := by
    rw [Constraints.boundsAt_eq_map _ _ inside, List.map_inj_left]
    constructor
    · intro bodies row member
      exact sub_eq_zero.mpr (bodies row member).symm
    · intro slacks row member
      exact (sub_eq_zero.mp (slacks row member)).symm
  rw [Tight, apply_rows problem included inside, bounds, ← slacks]
  constructor
  · intro whole
    exact List.append_inj whole heights
  · rintro ⟨upper, lower⟩
    rw [upper, lower]

/-- Fewer rows are tight as well. -/
theorem Tight.of_subset (tight : Tight problem included point) (inside : Inside problem included)
    (others : List Nat) (kept : ∀ row ∈ others, row ∈ included) : Tight problem others point := by
  obtain ⟨equalities, slacks⟩ := (tight_iff inside).mp tight
  exact (tight_iff fun row member => inside row (kept row member)).mpr
    ⟨equalities, fun row member => slacks row (kept row member)⟩

end Rows

namespace Solution
variable {problem : Problem K} {included : List Nat} {target multipliers start : List K}
variable (solution : Solution problem included target multipliers)
variable (inside : Inside problem included)
variable (size : start.length = problem.size) (tight : Tight problem included start)

include solution inside size tight in
/-- From one point on the rows to another the rows are followed. -/
theorem heading_along : Linear.apply (rows problem included) (Linear.subtract target start) =
    Linear.zeros (problem.equalities.count + included.length) := by
  have held : Linear.apply (rows problem included) start = bounds problem included := tight
  rw [Linear.apply_subtract _ _ _ (solution.heading_sizes size).1, solution.tight, held,
    Linear.subtract_self, length_bounds problem included inside]

include solution inside size tight in
theorem tight_step (factor : K) :
    Tight problem included (Linear.addScaled factor (Linear.subtract target start) start) := by
  obtain ⟨sizes, width⟩ := solution.heading_sizes size
  have held : Linear.apply (rows problem included) start = bounds problem included := tight
  rw [Tight, Linear.apply_addScaled _ _ _ _ (size.trans width.symm),
    heading_along solution inside size tight, held,
    Linear.addScaled_zeros _ _ _ (length_bounds problem included inside)]

include solution inside size tight in
/-- At the start of the step the objective falls as fast as it is curved along the step. -/
theorem dot_gradient_heading :
    Linear.dot (problem.gradient start) (Linear.subtract target start) =
      -Linear.dot (Linear.subtract target start)
        (Linear.apply problem.quadratic (Linear.subtract target start)) := by
  have flat := solution.dot_gradient_eq_zero inside _
    (heading_along solution inside size tight)
  rw [← problem.dot_gradient_subtract start target _ (solution.heading_sizes size).1, flat,
    zero_sub, neg_neg]

include solution inside size tight in
/-- What a step some way towards the solution gains. -/
theorem objective_step (convex : problem.Convex) (factor : K) :
    problem.objective (Linear.addScaled factor (Linear.subtract target start) start) =
      problem.objective start - (factor - factor ^ 2 / 2) *
        Linear.dot (Linear.subtract target start)
          (Linear.apply problem.quadratic (Linear.subtract target start)) := by
  rw [convex.objective_addScaled start _ factor size (solution.heading_sizes size).2,
    dot_gradient_heading solution inside size tight]
  ring

end Solution
end Kkt

/-- No step between none and the whole raises the objective. -/
theorem Problem.Convex.gain_nonneg {problem : Problem K} (convex : problem.Convex)
    (direction : List K) (width : direction.length = problem.size) (factor : K)
    (low : 0 ≤ factor) (high : factor ≤ 1) :
    0 ≤ (factor - factor ^ 2 / 2) *
      Linear.dot direction (Linear.apply problem.quadratic direction) := by
  have share : 0 ≤ factor - factor ^ 2 / 2 := by nlinarith only [low, high]
  exact mul_nonneg share (convex.semidefinite direction width)

end ConvexQP
