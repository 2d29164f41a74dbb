import ConvexQP.Kkt
import ConvexQP.Proofs.Exact.Systems

/-!
The system of a working set in exact arithmetic. A solution is a stationary point of the objective
on the active rows together with its multipliers, and the multipliers bound the objective from below
on the whole feasible set.
-/
namespace ConvexQP
open scoped Exact

/-! ### Rows by number -/

namespace Linear
variable {Item : Type}

theorem pick_eq_map (items : List Item) (numbers : List Nat) (fallback : Item)
    (inside : ∀ number ∈ numbers, number < items.length) :
    pick items numbers = numbers.map fun number => items.getD number fallback := by
  unfold pick
  rw [← List.filterMap_eq_map]
  apply List.filterMap_congr
  intro number member
  simp [List.getElem?_eq_getElem (inside number member)]

theorem length_pick (items : List Item) (numbers : List Nat)
    (inside : ∀ number ∈ numbers, number < items.length) :
    (pick items numbers).length = numbers.length := by
  cases items with
  | nil =>
      cases numbers with
      | nil => rfl
      | cons number rest => exact absurd (inside number List.mem_cons_self) (Nat.not_lt_zero number)
  | cons item rest =>
      rw [pick_eq_map _ numbers item inside, List.length_map]

theorem mem_of_mem_pick (items : List Item) (numbers : List Nat) (item : Item)
    (member : item ∈ pick items numbers) : item ∈ items := by
  obtain ⟨number, _, found⟩ := List.mem_filterMap.mp member
  exact List.mem_of_getElem? found

end Linear

namespace Constraints
variable {R : Type} [Scalar R] {size : Nat} (block : Constraints R size) (point : List R)

/-- What the row with a number makes of a point. -/
def bodyOf (row : Nat) : R := Linear.dot (block.rows.getD row []) point

/-- What the row with a number leaves of its bound. -/
def slackOf (row : Nat) : R := block.bounds.getD row 0 - block.bodyOf point row

theorem apply_rowsAt (numbers : List Nat) (inside : ∀ row ∈ numbers, row < block.count) :
    Linear.apply (block.rowsAt numbers) point = numbers.map (block.bodyOf point) := by
  unfold rowsAt Linear.apply
  rw [Linear.pick_eq_map block.rows numbers [] inside, List.map_map]
  rfl

theorem boundsAt_eq_map (numbers : List Nat) (inside : ∀ row ∈ numbers, row < block.count) :
    block.boundsAt numbers = numbers.map fun row => block.bounds.getD row 0 := by
  apply Linear.pick_eq_map
  intro row member
  rw [block.bounds_length]
  exact inside row member

theorem slackAt_eq_map (numbers : List Nat) (inside : ∀ row ∈ numbers, row < block.count) :
    block.slackAt point numbers = numbers.map (block.slackOf point) := by
  unfold slackAt Linear.subtract
  rw [apply_rowsAt block point numbers inside, boundsAt_eq_map block numbers inside,
    List.zipWith_map, List.zipWith_self]
  rfl

end Constraints

namespace Kkt
variable {R : Type} (problem : Problem R) (included : List Nat)

/-- The numbers are those of inequality rows. -/
def Inside : Prop := ∀ row ∈ included, row < problem.inequalities.count

theorem Inside.erase {problem : Problem R} {included : List Nat}
    (inside : Inside problem included) (row : Nat) : Inside problem (included.erase row) :=
  fun other member => inside other (List.mem_of_mem_erase member)

variable (inside : Inside problem included)

include inside in
theorem length_rows :
    (rows problem included).length = problem.equalities.count + included.length := by
  unfold rows Constraints.rowsAt
  rw [List.length_append, Linear.length_pick _ _ inside]
  rfl

include inside in
theorem length_bounds :
    (bounds problem included).length = problem.equalities.count + included.length := by
  have same := problem.inequalities.bounds_length
  unfold bounds Constraints.boundsAt
  rw [List.length_append, problem.equalities.bounds_length, Linear.length_pick]
  · rfl
  · intro row member
    rw [same]
    exact inside row member

theorem row_width (row : List R) (member : row ∈ rows problem included) :
    row.length = problem.size := by
  rcases List.mem_append.mp member with equality | inequality
  · exact problem.equalities.row_length row equality
  · exact problem.inequalities.row_length row (Linear.mem_of_mem_pick _ included row inequality)

include inside in
theorem length_rhs : (rhs problem included).length =
    problem.size + (problem.equalities.count + included.length) := by
  unfold rhs
  rw [List.length_append, problem.linear_length, length_bounds problem included inside]

end Kkt

/-! ### The problem -/

variable {K : Type} [Field K] [LinearOrder K] [IsStrictOrderedRing K] [Rooted K]

namespace Problem

/-- The quadratic is symmetric and positive semidefinite. -/
structure Convex (problem : Problem K) : Prop where
  symmetric : Linear.transpose problem.size problem.quadratic = problem.quadratic
  semidefinite : ∀ vector : List K, vector.length = problem.size →
    0 ≤ Linear.dot vector (Linear.apply problem.quadratic vector)

/-- The quadratic is symmetric and positive definite. -/
structure StrictlyConvex (problem : Problem K) : Prop where
  symmetric : Linear.transpose problem.size problem.quadratic = problem.quadratic
  definite : ∀ vector : List K, vector.length = problem.size →
    vector ≠ Linear.zeros problem.size →
    0 < Linear.dot vector (Linear.apply problem.quadratic vector)

/-- The point satisfies every row. -/
structure Feasible (problem : Problem K) (point : List K) : Prop where
  size : point.length = problem.size
  equalities : Linear.apply problem.equalities.rows point = problem.equalities.bounds
  inequalities : List.Forall₂ (· ≤ ·) (Linear.apply problem.inequalities.rows point)
    problem.inequalities.bounds

variable (problem : Problem K) (start point : List K)

theorem Feasible.body_le (feasible : problem.Feasible point) (row : Nat)
    (inside : row < problem.inequalities.count) :
    problem.inequalities.bodyOf point row ≤ problem.inequalities.bounds.getD row 0 := by
  have listed : row < problem.inequalities.rows.length := inside
  have bounded : row < problem.inequalities.bounds.length := by
    rwa [problem.inequalities.bounds_length]
  have each := (List.forall₂_iff_get.mp feasible.inequalities).2 row
    (by rwa [Linear.length_apply]) bounded
  simp only [List.get_eq_getElem, Linear.apply, List.getElem_map] at each
  rw [Constraints.bodyOf, List.getD_eq_getElem?_getD, List.getD_eq_getElem?_getD,
    List.getElem?_eq_getElem listed, List.getElem?_eq_getElem bounded, Option.getD_some,
    Option.getD_some]
  exact each

theorem length_gradient (point : List K) : (problem.gradient point).length = problem.size := by
  unfold gradient
  rw [Linear.length_subtract, Linear.length_apply, problem.quadratic_height,
    problem.linear_length, Nat.min_self]

theorem objective_eq : problem.objective point =
    2⁻¹ * Linear.dot point (Linear.apply problem.quadratic point) -
      Linear.dot problem.linear point := by
  have half : (0.5 : K) = 2⁻¹ := by norm_num
  unfold objective
  rw [Linear.dot_scale]
  exact congrArg (fun factor : K => factor * _ - _) half

theorem dot_quadratic_comm
    (symmetric : Linear.transpose problem.size problem.quadratic = problem.quadratic)
    (left right : List K) (leftSize : left.length = problem.size) :
    Linear.dot left (Linear.apply problem.quadratic right) =
      Linear.dot right (Linear.apply problem.quadratic left) := by
  have moved := Linear.dot_apply_transpose problem.size problem.quadratic left right
    problem.quadratic_width (leftSize.trans problem.quadratic_height.symm)
  rw [symmetric] at moved
  rw [← moved, Linear.dot_comm]

/-- The objective along a step: gradient and curvature. -/
theorem objective_expansion
    (symmetric : Linear.transpose problem.size problem.quadratic = problem.quadratic)
    (startSize : start.length = problem.size) (pointSize : point.length = problem.size) :
    problem.objective point = problem.objective start +
      Linear.dot (problem.gradient start) (Linear.subtract point start) +
      2⁻¹ * Linear.dot (Linear.subtract point start)
        (Linear.apply problem.quadratic (Linear.subtract point start)) := by
  have sizes : point.length = start.length := pointSize.trans startSize.symm
  have images : (Linear.apply problem.quadratic point).length =
      (Linear.apply problem.quadratic start).length := by simp
  have gradients : (Linear.apply problem.quadratic start).length = problem.linear.length := by
    rw [Linear.length_apply, problem.quadratic_height, problem.linear_length]
  have swap := dot_quadratic_comm problem symmetric start point startSize
  have slope : Linear.dot (problem.gradient start) (Linear.subtract point start) =
      Linear.dot point (Linear.apply problem.quadratic start) -
        Linear.dot start (Linear.apply problem.quadratic start) -
        (Linear.dot problem.linear point - Linear.dot problem.linear start) := by
    rw [gradient, Linear.dot_subtract _ _ _ sizes, Linear.subtract_dot _ _ _ gradients,
      Linear.subtract_dot _ _ _ gradients, Linear.dot_comm _ point, Linear.dot_comm _ start]
    ring
  have curvature : Linear.dot (Linear.subtract point start)
        (Linear.apply problem.quadratic (Linear.subtract point start)) =
      Linear.dot point (Linear.apply problem.quadratic point) -
        2 * Linear.dot point (Linear.apply problem.quadratic start) +
        Linear.dot start (Linear.apply problem.quadratic start) := by
    rw [Linear.apply_subtract _ _ _ sizes, Linear.dot_subtract _ _ _ images,
      Linear.subtract_dot _ _ _ sizes, Linear.subtract_dot _ _ _ sizes, swap]
    ring
  rw [objective_eq, objective_eq, slope, curvature]
  ring

end Problem

/-! ### The system -/

namespace Kkt
variable (problem : Problem K) (included : List Nat)

theorem matrix_square (inside : Inside problem included) :
    Square (problem.size + (problem.equalities.count + included.length))
      (matrix problem included) := by
  have count := length_rows problem included inside
  unfold matrix matrixOf
  constructor
  · simp [problem.quadratic_height, count]
  · intro row member
    rcases List.mem_append.mp member with upper | lower
    · obtain ⟨place, bound, rfl⟩ := List.mem_iff_getElem.mp upper
      simp only [List.length_zipWith, Linear.length_transpose, problem.quadratic_height,
        Nat.min_self] at bound
      have inner : place < problem.quadratic.length := by rwa [problem.quadratic_height]
      rw [List.getElem_zipWith, List.length_append,
        problem.quadratic_width _ (List.getElem_mem inner)]
      simp [Linear.transpose, Linear.column, count]
    · obtain ⟨active, listed, rfl⟩ := List.mem_map.mp lower
      rw [List.length_append, row_width problem included active listed, Linear.length_zeros, count]

theorem apply_beside (left right : List (List K)) (first second : List K)
    (widths : ∀ row ∈ left, row.length = first.length) :
    Linear.apply (left.zipWith (· ++ ·) right) (first ++ second) =
      (Linear.apply left first).zipWith (· + ·) (Linear.apply right second) := by
  induction left generalizing right with
  | nil => rfl
  | cons row left ih =>
      cases right with
      | nil => rfl
      | cons other right =>
          have rest := ih right fun entry member => widths entry (List.mem_cons_of_mem row member)
          rw [List.zipWith_cons_cons, Linear.apply_cons, Linear.apply_cons, Linear.apply_cons,
            List.zipWith_cons_cons, rest,
            Linear.dot_append row other first second (widths row List.mem_cons_self)]

theorem apply_padded (rows : List (List K)) (padding : Nat) (first second : List K)
    (widths : ∀ row ∈ rows, row.length = first.length) :
    Linear.apply (rows.map (· ++ Linear.zeros padding)) (first ++ second) =
      Linear.apply rows first := by
  induction rows with
  | nil => rfl
  | cons row rows ih =>
      have rest := ih fun entry member => widths entry (List.mem_cons_of_mem row member)
      rw [List.map_cons, Linear.apply_cons, Linear.apply_cons, rest,
        Linear.dot_append row _ first second (widths row List.mem_cons_self), Linear.dot_zeros,
        add_zero]

theorem apply_matrix (point multipliers : List K) (size : point.length = problem.size) :
    Linear.apply (matrix problem included) (point ++ multipliers) =
      (Linear.apply problem.quadratic point).zipWith (· + ·)
        (Linear.apply (Linear.transpose problem.size (rows problem included)) multipliers) ++
      Linear.apply (rows problem included) point := by
  unfold matrix matrixOf
  rw [Linear.apply_append, apply_beside, apply_padded]
  · intro row member
    rw [row_width problem included row member, size]
  · intro row member
    rw [problem.quadratic_width row member, size]

/-- Without active rows there is nothing to add. -/
theorem reducedGradient_eq (point multipliers : List K) :
    reducedGradient problem point included multipliers =
      Linear.addScaled 1
        (Linear.apply (Linear.transpose problem.size (rows problem included)) multipliers)
        (problem.gradient point) := by
  unfold reducedGradient
  simp only
  split
  · rename_i none
    rw [List.isEmpty_iff.mp none, Linear.apply_transpose_nil, Linear.addScaled_zeros _ _ _
      (Problem.length_gradient problem point)]
  · rfl

/-- The gradient with the weighted rows, in every direction. -/
theorem dot_reducedGradient (point multipliers vector : List K)
    (inside : Inside problem included)
    (counts : multipliers.length = problem.equalities.count + included.length) :
    Linear.dot (reducedGradient problem point included multipliers) vector =
      Linear.dot (problem.gradient point) vector +
        Linear.dot multipliers (Linear.apply (rows problem included) vector) := by
  have weighted : multipliers.length = (rows problem included).length :=
    counts.trans (length_rows problem included inside).symm
  rw [reducedGradient_eq, Linear.dot_comm, Linear.dot_addScaled, one_mul, Linear.dot_comm vector,
    Linear.dot_comm vector, Linear.dot_apply_transpose problem.size _ _ _
      (row_width problem included) weighted]
  rw [Problem.length_gradient, Linear.length_apply, Linear.length_transpose]

theorem slackAt_nonneg (inside : Inside problem included) (point : List K)
    (feasible : problem.Feasible point) :
    ∀ slack ∈ problem.inequalities.slackAt point included, 0 ≤ slack := by
  intro slack member
  rw [Constraints.slackAt_eq_map problem.inequalities point included inside] at member
  obtain ⟨row, listed, rfl⟩ := List.mem_map.mp member
  exact sub_nonneg.mpr (feasible.body_le problem point row (inside row listed))

/-- A stationary point on the tight rows, with its multipliers. -/
structure Solution (point multipliers : List K) : Prop where
  size : point.length = problem.size
  counts : multipliers.length = problem.equalities.count + included.length
  stationary : reducedGradient problem point included multipliers = Linear.zeros problem.size
  tight : Linear.apply (rows problem included) point = bounds problem included

theorem solution_of_system (entries : List K)
    (length : entries.length = problem.size + (problem.equalities.count + included.length))
    (system : Linear.apply (matrix problem included) entries = rhs problem included) :
    Solution problem included (entries.take problem.size) (entries.drop problem.size) := by
  have size : (entries.take problem.size).length = problem.size := by
    rw [List.length_take]
    omega
  have halves := apply_matrix problem included (entries.take problem.size)
    (entries.drop problem.size) size
  rw [List.take_append_drop, system] at halves
  have upper : ((Linear.apply problem.quadratic (entries.take problem.size)).zipWith (· + ·)
      (Linear.apply (Linear.transpose problem.size (rows problem included))
        (entries.drop problem.size))).length = problem.linear.length := by
    simp [problem.quadratic_height, problem.linear_length]
  obtain ⟨linear, tight⟩ := List.append_inj halves upper.symm
  refine ⟨size, ?_, ?_, tight.symm⟩
  · rw [List.length_drop]
    omega
  · rw [reducedGradient_eq]
    apply List.ext_getElem
    · simp [Problem.length_gradient]
    · intro place first second
      have bound : place < problem.linear.length := by
        rw [problem.linear_length]
        simpa using second
      have entry := List.getElem_of_eq linear bound
      simp only [List.getElem_zipWith] at entry
      simp only [Linear.addScaled, Problem.gradient, Linear.subtract, Linear.zeros,
        List.getElem_zipWith, List.getElem_replicate, entry]
      ring

/-- If the system is accepted, its rows take any values at some point. -/
theorem reaches (tolerance : K) (columns : List (ClearedColumn K)) (bodies : List K)
    (inside : Inside problem included) (valid : 0 ≤ tolerance)
    (accepted : factorise tolerance (matrix problem included) = .ok columns)
    (counts : bodies.length = problem.equalities.count + included.length) :
    ∃ point : List K, point.length = problem.size ∧
      Linear.apply (rows problem included) point = bodies := by
  -- An accepted matrix solves every right-hand side, so also one with these values below.
  let sides := Linear.zeros problem.size ++ bodies
  have length : sides.length = problem.size + (problem.equalities.count + included.length) := by
    rw [List.length_append, Linear.length_zeros, counts]
  obtain ⟨system, count⟩ := factorise_solves tolerance _ _ sides columns valid
    (matrix_square problem included inside) length accepted
  generalize Elimination.solve columns sides = entries at system count
  have size : (entries.take problem.size).length = problem.size := by
    rw [List.length_take]
    omega
  have halves := apply_matrix problem included (entries.take problem.size)
    (entries.drop problem.size) size
  rw [List.take_append_drop, system] at halves
  have upper : (Linear.zeros problem.size : List K).length =
      ((Linear.apply problem.quadratic (entries.take problem.size)).zipWith (· + ·)
        (Linear.apply (Linear.transpose problem.size (rows problem included))
          (entries.drop problem.size))).length := by
    simp [problem.quadratic_height]
  exact ⟨entries.take problem.size, size, (List.append_inj halves upper).2.symm⟩

/-- Equality rows that depend on each other spoil the system of every working set. -/
theorem rejected_of_dependent (tolerance : K) (weights : List K)
    (inside : Inside problem included) (valid : 0 ≤ tolerance)
    (counts : weights.length = problem.equalities.count)
    (dependent : Linear.apply (Linear.transpose problem.size problem.equalities.rows) weights =
      Linear.zeros problem.size)
    (nonzero : weights ≠ Linear.zeros problem.equalities.count) :
    (factorise tolerance (matrix problem included)).toOption = none := by
  cases made : factorise tolerance (matrix problem included) with
  | error note => rfl
  | ok columns =>
      exfalso
      -- Else the equality rows would take the weights as values at some point. But what these rows
      -- make of a point is orthogonal to the weights.
      obtain ⟨point, _, reached⟩ := reaches problem included tolerance columns
        (weights ++ Linear.zeros included.length) inside valid made (by
          rw [List.length_append, counts, Linear.length_zeros])
      unfold rows at reached
      rw [Linear.apply_append] at reached
      have leading := (List.append_inj reached (by
        rw [Linear.length_apply, counts]
        rfl)).1
      have moved := Linear.dot_apply_transpose problem.size problem.equalities.rows weights point
        problem.equalities.row_length counts
      rw [dependent, Linear.dot_zeros, leading] at moved
      have zero := Linear.eq_zeros_of_dot_self weights moved.symm
      rw [counts] at zero
      exact nonzero zero

namespace Solution
variable {point multipliers : List K} (solution : Solution problem included point multipliers)

include solution in
theorem rows_hold :
    Linear.apply problem.equalities.rows point = problem.equalities.bounds ∧
      Linear.apply (problem.inequalities.rowsAt included) point =
        problem.inequalities.boundsAt included := by
  have tight := solution.tight
  unfold rows bounds at tight
  rw [Linear.apply_append] at tight
  exact List.append_inj tight (by rw [Linear.length_apply, problem.equalities.bounds_length])

include solution in
/-- To another point, the gradient is felt only through the active rows. -/
theorem slope (inside : Inside problem included) (other : List K)
    (size : other.length = problem.size) :
    Linear.dot (problem.gradient point) (Linear.subtract other point) =
      Linear.dot multipliers
        (Linear.subtract (bounds problem included)
          (Linear.apply (rows problem included) other)) := by
  have sizes : other.length = point.length := size.trans solution.size.symm
  have images : (Linear.apply (rows problem included) other).length =
      (bounds problem included).length := by
    rw [Linear.length_apply, length_rows problem included inside,
      length_bounds problem included inside]
  have balance := dot_reducedGradient problem included point multipliers
    (Linear.subtract other point) inside solution.counts
  rw [solution.stationary, Linear.dot_zeros, Linear.apply_subtract _ _ _ sizes, solution.tight,
    Linear.dot_subtract multipliers _ _ images] at balance
  rw [Linear.dot_subtract multipliers _ _ images.symm]
  linarith

include solution in
/-- On the active rows, the objective grows away from the point as the curvature says. -/
theorem objective_on_active (inside : Inside problem included)
    (symmetric : Linear.transpose problem.size problem.quadratic = problem.quadratic)
    (other : List K) (size : other.length = problem.size)
    (active : Linear.apply (rows problem included) other = bounds problem included) :
    problem.objective other = problem.objective point +
      2⁻¹ * Linear.dot (Linear.subtract other point)
        (Linear.apply problem.quadratic (Linear.subtract other point)) := by
  rw [Problem.objective_expansion problem point other symmetric solution.size size,
    solution.slope problem included inside other size, active, Linear.dot_subtract _ _ _ rfl]
  ring

include solution in
/-- A strictly convex objective has one minimiser on the active rows. -/
theorem unique_minimiser (inside : Inside problem included) (convex : problem.StrictlyConvex)
    (other : List K) (size : other.length = problem.size)
    (active : Linear.apply (rows problem included) other = bounds problem included)
    (distinct : other ≠ point) : problem.objective point < problem.objective other := by
  have sizes : other.length = point.length := size.trans solution.size.symm
  have length : (Linear.subtract other point).length = problem.size := by
    rw [Linear.length_subtract, size, solution.size, Nat.min_self]
  have apart : Linear.subtract other point ≠ Linear.zeros problem.size := by
    intro zero
    rw [← size] at zero
    exact distinct (Linear.eq_of_subtract_eq_zeros other point sizes zero)
  have curved := convex.definite _ length apart
  have grows := solution.objective_on_active problem included inside convex.symmetric other size
    active
  linarith

include solution in
/-- Multipliers that are not far below zero bound the objective on the feasible set. -/
theorem objective_bound (inside : Inside problem included) (convex : problem.Convex)
    (tolerance : K)
    (floor : ∀ multiplier ∈ multipliers.drop problem.equalities.count, -tolerance ≤ multiplier)
    (other : List K) (feasible : problem.Feasible other) :
    problem.objective point - tolerance * (problem.inequalities.slackAt other included).sum ≤
      problem.objective other := by
  have curvature := convex.semidefinite (Linear.subtract other point) (by
    rw [Linear.length_subtract, feasible.size, solution.size, Nat.min_self])
  have expansion := Problem.objective_expansion problem point other convex.symmetric solution.size
    feasible.size
  have slope := solution.slope problem included inside other feasible.size
  have parted : Linear.dot multipliers (Linear.subtract (bounds problem included)
        (Linear.apply (rows problem included) other)) =
      Linear.dot (multipliers.drop problem.equalities.count)
        (problem.inequalities.slackAt other included) := by
    have split : Linear.subtract (bounds problem included)
          (Linear.apply (rows problem included) other) =
        Linear.subtract problem.equalities.bounds problem.equalities.bounds ++
          problem.inequalities.slackAt other included := by
      unfold bounds rows Linear.subtract Constraints.slackAt
      rw [Linear.apply_append, feasible.equalities, List.zipWith_append rfl]
      rfl
    have leading : (multipliers.take problem.equalities.count).length =
        (Linear.subtract problem.equalities.bounds problem.equalities.bounds).length := by
      rw [List.length_take, Linear.length_subtract, problem.equalities.bounds_length,
        solution.counts]
      exact (Nat.min_eq_left (Nat.le_add_right _ _)).trans (Nat.min_self _).symm
    rw [split]
    nth_rewrite 1 [← List.take_append_drop problem.equalities.count multipliers]
    rw [Linear.dot_append _ _ _ _ leading, Linear.dot_subtract _ _ _ rfl, sub_self, zero_add]
  have lower := Linear.dot_lower (multipliers.drop problem.equalities.count)
    (problem.inequalities.slackAt other included) tolerance
    (by
      rw [List.length_drop, solution.counts,
        Constraints.slackAt_eq_map problem.inequalities other included inside, List.length_map]
      omega)
    floor (slackAt_nonneg problem included inside other feasible)
  linarith

end Solution
end Kkt
end ConvexQP
