import ConvexQP.Proofs.Solver.Infeasible
import Mathlib.Analysis.Convex.Basic

/-!
The points that pass the test of a solver. A row passes for bodies on an interval, unbounded below
for an inequality row: between two bodies that are taken for the bound no body is told apart from
it, though the tolerance is absolute near zero and relative elsewhere. Rows are linear in the point,
so the points that pass form a convex set, and the working set has no part in it.
-/
namespace ConvexQP
open scoped Exact
variable {K : Type} [Field K] [LinearOrder K] [IsStrictOrderedRing K] [Rooted K]

/-! ### Bodies -/

namespace Violation
variable (tolerance : Tolerance K) (bound : K)

/-- The bodies for which an inequality row with the bound passes. -/
def bodiesBelow : Set K := {body | ofInequality tolerance bound body = false}

/-- The bodies for which an equality row with the bound passes. -/
def bodiesAt : Set K := {body | ofEquality tolerance bound body = false}

theorem mem_bodiesAt_self : bound ∈ bodiesAt tolerance bound :=
  Exact.isDifferent_self tolerance bound

variable (valid : 0 ≤ tolerance.bound)

include valid in
/-- Only magnitudes and the distance are measured, and both are the same on the other side of zero. -/
theorem mem_bodiesAt_neg (body : K) :
    -body ∈ bodiesAt tolerance (-bound) ↔ body ∈ bodiesAt tolerance bound := by
  have distance : |-bound - -body| = |bound - body| := by rw [neg_sub_neg, abs_sub_comm]
  simp only [bodiesAt, Set.mem_ofPred_eq, ofEquality,
    Exact.isDifferent_eq_false_iff tolerance valid, abs_neg, distance]

variable (small : tolerance.bound < 1)

include valid small in
/-- Whatever lies between the bound and a body that passes is no further from the bound. -/
theorem mem_bodiesAt_of_between (far body : K) (held : far ∈ bodiesAt tolerance bound)
    (between : body ∈ Set.uIcc bound far) : body ∈ bodiesAt tolerance bound := by
  rw [← segment_eq_uIcc, segment_eq_image'] at between
  obtain ⟨share, ⟨low, high⟩, rfl⟩ := between
  exact Exact.isDifferent_closer tolerance valid small bound far share low high held

include valid small in
theorem bodiesAt_ordConnected : (bodiesAt tolerance bound).OrdConnected := by
  refine ⟨fun lower below upper above body between => ?_⟩
  rcases le_total body bound with less | more
  · exact mem_bodiesAt_of_between tolerance bound valid small lower body below
      (Set.mem_uIcc_of_ge between.1 less)
  · exact mem_bodiesAt_of_between tolerance bound valid small upper body above
      (Set.mem_uIcc_of_le more between.2)

include valid small in
theorem bodiesBelow_isLowerSet : IsLowerSet (bodiesBelow tolerance bound) := fun body less lower =>
  ofInequality_closer tolerance valid small bound body less lower

theorem Iic_subset_bodiesBelow : Set.Iic bound ⊆ bodiesBelow tolerance bound := fun body within =>
  ofInequality_of_le tolerance bound body within

end Violation

/-! ### Points -/

/-- A weighted mean of two points is a part of the way from one to the other. -/
theorem ofFn_between {size : Nat} (start target : Fin size → K) {rest share : K}
    (total : rest + share = 1) : List.ofFn (rest • start + share • target) =
      Linear.addScaled share (Linear.subtract (List.ofFn target) (List.ofFn start))
        (List.ofFn start) := by
  apply List.ext_getElem
  · simp
  · intro place inside _
    simp only [Linear.addScaled, Linear.subtract, List.getElem_zipWith, List.getElem_ofFn,
      Pi.add_apply, Pi.smul_apply, smul_eq_mul, eq_sub_of_add_eq total]
    ring

theorem Problem.equalitiesHold_iff (problem : Problem K) (tolerance : Tolerance K)
    (point : List K) : problem.equalitiesHold tolerance point = true ↔
      ∀ row < problem.equalities.count, problem.equalities.bodyOf point row ∈
        Violation.bodiesAt tolerance (problem.equalities.bounds.getD row 0) := by
  have sizes := problem.equalities.bounds_length
  simp only [Problem.equalitiesHold, Violation.firstEquality, Option.isNone_iff_eq_none,
    List.findIdx?_eq_none_iff, List.forall_mem_iff_getElem, List.getElem_zip, List.length_zip,
    Linear.length_apply, sizes, Nat.min_self]
  refine forall_congr' fun row => forall_congr' fun inside => ?_
  have listed : row < problem.equalities.rows.length := inside
  have bounded : row < problem.equalities.bounds.length := by omega
  simp only [Violation.bodiesAt, Set.mem_ofPred_eq, Constraints.bodyOf, Linear.apply,
    List.getElem_map, List.getD_eq_getElem?_getD, List.getElem?_eq_getElem listed,
    List.getElem?_eq_getElem bounded, Option.getD_some]

theorem Constraints.bodyOf_between {size : Nat} (block : Constraints K size) (row : Nat)
    (start target : List K) (share : K) (fits : target.length = start.length) (low : 0 ≤ share)
    (high : share ≤ 1) :
    block.bodyOf (Linear.addScaled share (Linear.subtract target start) start) row ∈
      Set.uIcc (block.bodyOf start row) (block.bodyOf target row) := by
  have sizes : start.length = (Linear.subtract target start).length := by
    rw [Linear.length_subtract, fits, Nat.min_self]
  rw [← segment_eq_uIcc, segment_eq_image']
  refine ⟨share, ⟨low, high⟩, ?_⟩
  rw [bodyOf_addScaled _ _ _ _ _ sizes, bodyOf_subtract _ _ _ _ fits]
  simp only [slackOf, smul_eq_mul]
  ring

/-- A point on the way from one point that holds to another holds. -/
theorem Problem.Holds.between {problem : Problem K} {tolerance : Tolerance K}
    (valid : 0 ≤ tolerance.bound) (small : tolerance.bound < 1) (start target : List K) (share : K)
    (fits : target.length = start.length) (low : 0 ≤ share) (high : share ≤ 1)
    (first : problem.Holds tolerance start) (second : problem.Holds tolerance target) :
    problem.Holds tolerance (Linear.addScaled share (Linear.subtract target start) start) := by
  obtain ⟨equalities, inequalities⟩ := first
  obtain ⟨otherEqualities, otherInequalities⟩ := second
  rw [Problem.equalitiesHold_iff] at equalities otherEqualities
  constructor
  · rw [Problem.equalitiesHold_iff]
    intro row inside
    have interval := Violation.bodiesAt_ordConnected tolerance
      (problem.equalities.bounds.getD row 0) valid small
    exact interval.uIcc_subset (equalities row inside) (otherEqualities row inside)
      (problem.equalities.bodyOf_between row start target share fits low high)
  · intro row inside
    have below := Violation.bodiesBelow_isLowerSet tolerance
      (problem.inequalities.bounds.getD row 0) valid small
    have between := problem.inequalities.bodyOf_between row start target share fits low high
    -- The body is no larger than one of the two at the ends.
    rcases le_total (problem.inequalities.bodyOf start row)
        (problem.inequalities.bodyOf target row) with rising | falling
    · rw [Set.uIcc_of_le rising] at between
      exact below between.2 (otherInequalities row inside)
    · rw [Set.uIcc_of_ge falling] at between
      exact below between.2 (inequalities row inside)

/-! ### The test of a solver -/

namespace Solver
section Sized
variable {R Systems Programs : Type} {solver : Solver R Systems Programs} (sized : solver.Sized)

include sized in
/-- Another working set over the same rows. -/
theorem Sized.withWorking (working : WorkingSet) (rows : working.size = solver.inequalityCount) :
    Sized { solver with working } :=
  ⟨sized.iterate, sized.multipliers, sized.point_length, sized.multipliers_length, rows⟩

include sized in
theorem Sized.setPoint (entries : List R) : (solver.setPoint entries).Sized := by
  have reused := Stored.overwrite_reuses solver.iterate entries
  exact ⟨reused.wellFormed sized.iterate, sized.multipliers,
    reused.length.trans sized.point_length, sized.multipliers_length, sized.rows⟩

end Sized

variable {Systems Programs : Type} {solver : Solver K Systems Programs} (sized : solver.Sized)

include sized in
theorem Sized.isFeasible_setPoint_iff (entries : List K)
    (fits : entries.length = solver.problem.size) :
    (solver.setPoint entries).isFeasible false = true ↔
      solver.problem.Holds solver.slackTolerance entries := by
  rw [(sized.setPoint entries).isFeasible_iff, sized.point_setPoint entries fits]
  rfl

/-- The points that pass the test are told by intervals of bodies, form a convex set, and are the
same for every working set; with the excluded rows only, more points pass. -/
theorem accepted_region_convex (sized : solver.Sized) (positive : 0 < solver.config.slackTolerance)
    (small : solver.config.slackTolerance < 1) :
    (∀ working : WorkingSet, working.size = solver.inequalityCount →
      ({ solver with working }.isFeasible false = solver.isFeasible false)) ∧
    (∀ bound, IsLowerSet (Violation.bodiesBelow solver.slackTolerance bound) ∧
      Set.Iic bound ⊆ Violation.bodiesBelow solver.slackTolerance bound) ∧
    (∀ bound, (Violation.bodiesAt solver.slackTolerance bound).OrdConnected ∧
      bound ∈ Violation.bodiesAt solver.slackTolerance bound ∧
      ∀ body, -body ∈ Violation.bodiesAt solver.slackTolerance (-bound) ↔
        body ∈ Violation.bodiesAt solver.slackTolerance bound) ∧
    Convex K {entries : Fin solver.problem.size → K |
      (solver.setPoint (List.ofFn entries)).isFeasible false = true} ∧
    (solver.isFeasible false = true → solver.isFeasible true = true) := by
  have valid : 0 ≤ solver.slackTolerance.bound := positive.le
  refine ⟨?_, ?_, ?_, ?_, ?_⟩
  · intro working rows
    rw [Bool.eq_iff_iff, (sized.withWorking working rows).isFeasible_iff, sized.isFeasible_iff]
    rfl
  · intro bound
    exact ⟨Violation.bodiesBelow_isLowerSet _ bound valid small,
      Violation.Iic_subset_bodiesBelow _ bound⟩
  · intro bound
    exact ⟨Violation.bodiesAt_ordConnected _ bound valid small,
      Violation.mem_bodiesAt_self _ bound, Violation.mem_bodiesAt_neg _ bound valid⟩
  · intro start first target second rest share rest_nonneg low total
    have size (entries : Fin solver.problem.size → K) :
        (List.ofFn entries).length = solver.problem.size := List.length_ofFn
    simp only [Set.mem_ofPred_eq, sized.isFeasible_setPoint_iff _ (size _)] at first second ⊢
    rw [ofFn_between start target total]
    exact first.between valid small _ _ share ((size target).trans (size start).symm) low
      (by linarith) second
  · intro passed
    simp only [isFeasible, Bool.false_or, Bool.and_eq_true] at passed
    simp only [isFeasible, Bool.true_or, Bool.true_and]
    exact passed.2

end Solver

/-- Half of the first and a tenth of the second square, less a fourth of the second entry, on the
line where the entries add up to one and the first is at most a fourth. -/
def beam : Problem ℚ where
  size := 2
  quadratic := [[1, 0], [0, 1 / 5]]
  linear := [0, 1 / 4]
  equalities := ⟨[[1, 1]], [1], by decide, rfl⟩
  inequalities := ⟨[[1, 0]], [1 / 4], by decide, rfl⟩
  size_pos := Nat.zero_lt_two
  quadratic_height := rfl
  quadratic_width := by decide
  linear_length := rfl

/-- A solver that takes a body for its bound if they differ by a fourth of the larger one. -/
def looseSolver : DenseSolver ℚ :=
  DenseSolver.new beam { plainConfig with slackTolerance := 1 / 4 } none (.prepared [])

/-- From a point on the line to one that is only taken to be on it. -/
theorem accepted_region_convex_beam :
    looseSolver.Sized ∧ 0 < looseSolver.config.slackTolerance ∧
      looseSolver.config.slackTolerance < 1 ∧
      { looseSolver with working := looseSolver.working.insert 0 }.isFeasible false =
        looseSolver.isFeasible false ∧
      (looseSolver.setPoint [1 / 4, 3 / 4]).isFeasible false = true ∧
      (looseSolver.setPoint [-1, 9 / 4]).isFeasible false = true ∧
      (looseSolver.setPoint [-3 / 8, 3 / 2]).isFeasible false = true := by
  have sized : looseSolver.Sized := Solver.new_sized _ _ _ _
  have positive : 0 < looseSolver.config.slackTolerance := by decide +kernel
  have small : looseSolver.config.slackTolerance < 1 := by decide +kernel
  have first : (looseSolver.setPoint [1 / 4, 3 / 4]).isFeasible false = true := by decide +kernel
  have second : (looseSolver.setPoint [-1, 9 / 4]).isFeasible false = true := by decide +kernel
  obtain ⟨alike, _, _, convex, _⟩ := Solver.accepted_region_convex sized positive small
  refine ⟨sized, positive, small, alike _ (WorkingSet.size_insert _ _), first, second, ?_⟩
  have half := convex (x := (![1 / 4, 3 / 4] : Fin 2 → ℚ)) first
    (y := (![-1, 9 / 4] : Fin 2 → ℚ)) second (a := 1 / 2) (b := 1 / 2)
    (by norm_num) (by norm_num) (by norm_num)
  have middle : List.ofFn ((1 / 2 : ℚ) • (![1 / 4, 3 / 4] : Fin 2 → ℚ) +
      (1 / 2 : ℚ) • (![-1, 9 / 4] : Fin 2 → ℚ)) = [-3 / 8, 3 / 2] := by decide +kernel
  rw [← middle]
  exact half

end ConvexQP
