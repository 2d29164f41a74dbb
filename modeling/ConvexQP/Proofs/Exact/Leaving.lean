import ConvexQP.Proofs.Exact.Regular

/-!
Leaving a row. From the solution on some rows the step goes to the solution without one of them. The
multiplier of this row tells how fast the step crosses it: away from its bound if the multiplier is
negative, and the objective falls all the way.
-/
namespace ConvexQP
open scoped Exact
variable {K : Type} [Field K] [LinearOrder K] [IsStrictOrderedRing K] [Rooted K]

/-- The objective along a line. -/
theorem Problem.Convex.objective_addScaled {problem : Problem K} (convex : problem.Convex)
    (point direction : List K) (factor : K) (size : point.length = problem.size)
    (along : direction.length = problem.size) :
    problem.objective (Linear.addScaled factor direction point) = problem.objective point +
      factor * Linear.dot (problem.gradient point) direction +
      2⁻¹ * factor ^ 2 * Linear.dot direction (Linear.apply problem.quadratic direction) := by
  have fits : point.length = direction.length := size.trans along.symm
  have slopes : (Linear.apply problem.quadratic point).length = problem.linear.length := by
    rw [Linear.length_apply, problem.quadratic_height, problem.linear_length]
  rw [objective_eq, objective_eq, convex.curvature_addScaled point direction factor size along,
    Linear.dot_addScaled _ _ _ _ fits, gradient, Linear.subtract_dot _ _ _ slopes,
    Linear.dot_comm direction (Linear.apply problem.quadratic point)]
  ring

/-- The gradients at two points differ by the curvature of the way between them. -/
theorem Problem.dot_gradient_subtract (problem : Problem K) (point other vector : List K)
    (sizes : other.length = point.length) :
    Linear.dot (problem.gradient other) vector - Linear.dot (problem.gradient point) vector =
      Linear.dot vector (Linear.apply problem.quadratic (Linear.subtract other point)) := by
  have height (place : List K) :
      (Linear.apply problem.quadratic place).length = problem.linear.length := by
    rw [Linear.length_apply, problem.quadratic_height, problem.linear_length]
  rw [gradient, gradient, Linear.subtract_dot _ _ _ (height other),
    Linear.subtract_dot _ _ _ (height point), Linear.dot_comm vector,
    Linear.apply_subtract _ _ _ sizes,
    Linear.subtract_dot _ _ _ ((height other).trans (height point).symm)]
  ring

namespace Kkt

/-- An accepted system has a direction that crosses one of its rows alone. -/
theorem exists_crossing (problem : Problem K) (included : List Nat) (tolerance : K)
    (columns : List (ClearedColumn K)) (inside : Inside problem included) (valid : 0 ≤ tolerance)
    (accepted : factorise tolerance (matrix problem included) = .ok columns)
    (distinct : included.Nodup) (row : Nat) (listed : row ∈ included) :
    ∃ crossing : List K, problem.inequalities.bodyOf crossing row = 1 ∧
      Linear.apply (rows problem (included.erase row)) crossing =
        Linear.zeros (problem.equalities.count + (included.erase row).length) := by
  obtain ⟨crossing, _, reached⟩ := reaches problem included tolerance columns
    (Linear.zeros problem.equalities.count ++ included.map fun other => if other = row then 1 else 0)
    inside valid accepted (by rw [List.length_append, Linear.length_zeros, List.length_map])
  rw [apply_rows problem included inside] at reached
  obtain ⟨equalities, bodies⟩ := List.append_inj reached (by
    rw [Linear.length_apply, Linear.length_zeros]
    rfl)
  have body (other : Nat) (member : other ∈ included) :
      problem.inequalities.bodyOf crossing other = if other = row then 1 else 0 :=
    List.map_inj_left.mp bodies other member
  refine ⟨crossing, ?_, ?_⟩
  · rw [body row listed, if_pos rfl]
  · refine (apply_rows_eq_zeros_iff problem _ (inside.erase row) crossing).mpr ⟨equalities, ?_⟩
    intro other member
    obtain ⟨apart, kept⟩ := distinct.mem_erase_iff.mp member
    rw [body other kept, if_neg apart]

/-- From a point, a direction leaves a row with a multiplier: it goes away from the bound of the
row as fast as curvature and multiplier say, and lowers the objective. -/
structure Leaves (problem : Problem K) (point direction : List K) (row : Nat) (weight : K) :
    Prop where
  slope : problem.inequalities.bodyOf direction row =
    Linear.dot direction (Linear.apply problem.quadratic direction) / weight
  inward : problem.inequalities.bodyOf direction row < 0
  nonzero : direction ≠ Linear.zeros problem.size
  gains : ∀ factor : K, 0 < factor → problem.inequalities.slackOf point row <
    problem.inequalities.slackOf (Linear.addScaled factor direction point) row
  falls : ∀ factor : K, 0 < factor → factor ≤ 1 →
    problem.objective (Linear.addScaled factor direction point) < problem.objective point

namespace Solution
variable {problem : Problem K} {included : List Nat} {point multipliers : List K}

/-- A solution balances gradient and rows in every direction. -/
theorem balance (solution : Solution problem included point multipliers)
    (inside : Inside problem included) (vector : List K) :
    Linear.dot (problem.gradient point) vector +
      Linear.dot multipliers (Linear.apply (rows problem included) vector) = 0 := by
  have felt := dot_reducedGradient problem included point multipliers vector inside solution.counts
  rw [solution.stationary, Linear.dot_zeros] at felt
  exact felt.symm

/-- Along its rows nothing weighs against the gradient. -/
theorem dot_gradient_eq_zero (solution : Solution problem included point multipliers)
    (inside : Inside problem included) (vector : List K)
    (along : Linear.apply (rows problem included) vector =
      Linear.zeros (problem.equalities.count + included.length)) :
    Linear.dot (problem.gradient point) vector = 0 := by
  have felt := solution.balance inside vector
  rwa [along, Linear.dot_zeros_right, add_zero] at felt

/-- The way to a solution has the size of the problem. -/
theorem heading_sizes (solution : Solution problem included point multipliers) {start : List K}
    (size : start.length = problem.size) : point.length = start.length ∧
    (Linear.subtract point start).length = problem.size := by
  have sizes : point.length = start.length := solution.size.trans size.symm
  refine ⟨sizes, ?_⟩
  rw [Linear.length_subtract, sizes, Nat.min_self, size]

variable {next others : List K} {row : Nat} {weight : K}
variable (solution : Solution problem included point multipliers)
variable (inside : Inside problem included)
variable (distinct : included.Nodup)
variable (pair : (row, weight) ∈ included.zip (multipliers.drop problem.equalities.count))

include solution inside distinct pair in
/-- Along the other rows, only the multiplier of one row weighs against the gradient. -/
theorem balance_of_erase (vector : List K)
    (along : Linear.apply (rows problem (included.erase row)) vector =
      Linear.zeros (problem.equalities.count + (included.erase row).length)) :
    Linear.dot (problem.gradient point) vector +
      weight * problem.inequalities.bodyOf vector row = 0 := by
  have felt := solution.balance inside vector
  rwa [dot_rows_of_erase problem included inside multipliers vector solution.counts distinct row
    weight pair along] at felt

variable (later : Solution problem (included.erase row) next others)

include solution inside later in
/-- The rows that stay hold at both solutions, so they hold in between. -/
theorem subtract_along : Linear.apply (rows problem (included.erase row))
      (Linear.subtract next point) =
    Linear.zeros (problem.equalities.count + (included.erase row).length) := by
  have outer := inside.erase row
  obtain ⟨sizes, _⟩ := later.heading_sizes solution.size
  refine (apply_rows_eq_zeros_iff problem _ outer _).mpr ⟨?_, ?_⟩
  · rw [Linear.apply_subtract _ _ _ sizes, (solution.rows_hold problem included).1,
      (later.rows_hold problem _).1, Linear.subtract_self, problem.equalities.bounds_length]
    rfl
  · intro other member
    rw [Constraints.bodyOf_subtract _ _ _ _ sizes, later.slackOf_eq_zero outer other member,
      solution.slackOf_eq_zero inside other (List.mem_of_mem_erase member), sub_zero]

include solution inside later distinct pair in
/-- What the step away from a row owes to its multiplier. -/
theorem curvature_eq :
    Linear.dot (Linear.subtract next point)
        (Linear.apply problem.quadratic (Linear.subtract next point)) =
      weight * problem.inequalities.bodyOf (Linear.subtract next point) row := by
  obtain ⟨sizes, _⟩ := later.heading_sizes solution.size
  have along := subtract_along solution inside later
  have here := balance_of_erase solution inside distinct pair _ along
  have there := later.dot_gradient_eq_zero (inside.erase row) _ along
  rw [← problem.dot_gradient_subtract point next _ sizes]
  linarith

variable (convex : problem.Convex) (tolerance : K) (columns : List (ClearedColumn K))
variable (valid : 0 ≤ tolerance)
variable (accepted : factorise tolerance (matrix problem included) = .ok columns)

include solution inside distinct pair valid accepted in
/-- A point that solves both with a row and without it gives the row no multiplier. -/
theorem weight_eq_zero (same : Solution problem (included.erase row) point others) :
    weight = 0 := by
  obtain ⟨crossing, crossed, along⟩ := exists_crossing problem included tolerance columns inside
    valid accepted distinct row (List.of_mem_zip pair).1
  have here := balance_of_erase solution inside distinct pair crossing along
  rwa [same.dot_gradient_eq_zero (inside.erase row) crossing along, crossed, zero_add,
    mul_one] at here

variable (nonzero : weight ≠ 0)

include solution inside later distinct pair convex valid accepted nonzero in
/-- Away from a row whose multiplier is not zero the objective is curved. -/
theorem curvature_pos :
    0 < Linear.dot (Linear.subtract next point)
      (Linear.apply problem.quadratic (Linear.subtract next point)) := by
  obtain ⟨sizes, length⟩ := later.heading_sizes solution.size
  refine lt_of_le_of_ne (convex.semidefinite _ length) fun flat => nonzero ?_
  -- Without curvature the row is not crossed, so the step follows all rows and is none.
  have uncrossed : problem.inequalities.bodyOf (Linear.subtract next point) row = 0 := by
    have owed := curvature_eq solution inside distinct pair later
    rw [← flat] at owed
    exact (mul_eq_zero.mp owed.symm).resolve_left nonzero
  have regular := regular_of_accepted problem included inside convex tolerance columns valid
    accepted
  have still := regular.curved _ length (apply_rows_eq_zeros_of_erase problem included inside _ row
    (subtract_along solution inside later) uncrossed) flat.symm
  rw [← later.size] at still
  have one : next = point := Linear.eq_of_subtract_eq_zeros next point sizes still
  rw [one] at later
  exact weight_eq_zero solution inside distinct pair tolerance columns valid accepted later

variable (negative : weight < 0)

include solution inside later distinct pair convex valid accepted negative in
/-- The step to the solution without a row of negative multiplier leaves the row. -/
theorem leaves : Leaves problem point (Linear.subtract next point) row weight := by
  obtain ⟨_, length⟩ := later.heading_sizes solution.size
  have fits : point.length = (Linear.subtract next point).length :=
    solution.size.trans length.symm
  have owed := curvature_eq solution inside distinct pair later
  have curved := curvature_pos solution inside distinct pair later convex tolerance columns valid
    accepted negative.ne
  have balanced := balance_of_erase solution inside distinct pair _
    (subtract_along solution inside later)
  have inward : problem.inequalities.bodyOf (Linear.subtract next point) row < 0 := by
    rw [owed] at curved
    exact neg_of_mul_pos_right curved negative.le
  constructor
  · rw [owed, mul_div_cancel_left₀ _ negative.ne]
  · exact inward
  · intro zero
    rw [zero, Linear.dot_zeros] at curved
    exact lt_irrefl 0 curved
  · intro factor forward
    have further := mul_neg_of_pos_of_neg forward inward
    rw [Constraints.slackOf_addScaled _ _ _ _ _ fits]
    linarith
  · intro factor forward short
    rw [convex.objective_addScaled point _ factor solution.size length]
    generalize Linear.dot (Linear.subtract next point) (Linear.apply problem.quadratic
      (Linear.subtract next point)) = curvature at owed curved ⊢
    have slope : Linear.dot (problem.gradient point) (Linear.subtract next point) = -curvature := by
      linarith
    rw [slope]
    have gain : 0 < factor * (1 - 2⁻¹ * factor) * curvature := by
      have room : 0 < 1 - 2⁻¹ * factor := by linarith
      positivity
    linarith

end Solution
end Kkt
end ConvexQP
