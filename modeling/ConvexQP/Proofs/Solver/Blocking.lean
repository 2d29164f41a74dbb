import ConvexQP.Proofs.Exact.Regular
import ConvexQP.Proofs.Solver.Feasibility
import ConvexQP.Proofs.Solver.Progress

/-!
The row that stops a step can enter the working set. The step follows the included rows and crosses
the one that stops it, so this row is independent of them, and with it the system still has one
solution. The next pass solves it at once and gives up no row.
-/
namespace ConvexQP
open scoped Exact

namespace Solver
variable {R Systems Programs : Type} [Scalar R]
variable (environment : Environment R Systems Programs) (solver : Solver R Systems Programs)

/-- A pass whose first system is answered gives up no row. -/
theorem subproblem_answered (entries : List R)
    (answer : solver.systemAnswer environment = some entries) :
    solver.subproblem environment = { solver with blocking := none, stepLength := none } := by
  have first : ({ solver with blocking := none, stepLength := none } :
      Solver R Systems Programs).systemAnswer environment = some entries := answer
  unfold subproblem narrowed
  rw [first]
  rfl

theorem stepOnce_answered (entries : List R)
    (answer : solver.systemAnswer environment = some entries) :
    (solver.stepOnce environment).2.working = solver.working := by
  obtain ⟨notes, landed⟩ := stepOnce_landed environment solver
  have kept := landing_working environment solver
  rw [subproblem_answered environment solver entries answer] at kept
  rw [landed]
  exact kept

theorem landed_moves (entries : List R) (answer : solver.systemAnswer environment = some entries)
    (long : (solver.answered environment entries).stands (solver.heading entries) = false) :
    (solver.landed environment).2 =
      (solver.answered environment entries).stepped (solver.heading entries) := by
  unfold landed
  rw [answer]
  simp only [long, Bool.false_eq_true, if_false]

end Solver

variable {K : Type} [Field K] [LinearOrder K] [IsStrictOrderedRing K] [Rooted K]
variable {problem : Problem K} {config : Config K} {solver : DenseSolver K} {elapsed : Nat → K}

namespace DenseSolver.Ready
variable (ready : Ready problem config solver)

include ready in
theorem accepted (valid : 0 ≤ config.pivotTolerance) (entries : List K)
    (answer : solver.systemAnswer (denseEnvironment elapsed) = some entries) :
    ∃ columns, factorise config.pivotTolerance
      (Kkt.matrix problem solver.working.included) = .ok columns := by
  rw [ready.systemAnswer_eq elapsed valid] at answer
  cases made : factorise config.pivotTolerance (Kkt.matrix problem solver.working.included) with
  | error note => simp [made, Except.toOption] at answer
  | ok columns => exact ⟨columns, rfl⟩

include ready in
theorem answered_of_nonsingular (elapsed : Nat → K) (exact : config.pivotTolerance = 0)
    (nonsingular : Nonsingular
      (problem.size + (problem.equalities.count + solver.working.included.length))
      (Kkt.matrix problem solver.working.included)) :
    ∃ entries, solver.systemAnswer (denseEnvironment elapsed) = some entries := by
  have accepted := factorise_nonsingular _ _ (Kkt.matrix_square problem _ ready.inside) nonsingular
  rw [ready.systemAnswer_eq elapsed exact.ge, exact, accepted]
  exact ⟨_, rfl⟩

include ready in
/-- A pass over a working set whose system sends only zero to zero keeps it, late or not. -/
theorem overdue_answered (exact : config.pivotTolerance = 0)
    (nonsingular : Nonsingular
      (problem.size + (problem.equalities.count + solver.working.included.length))
      (Kkt.matrix problem solver.working.included)) (clock : Nat → K) :
    (∃ entries, (solver.overdue (denseEnvironment clock)).2.systemAnswer
        (denseEnvironment clock) = some entries) ∧
      ((solver.overdue (denseEnvironment clock)).2.stepOnce (denseEnvironment clock)).2.working =
        solver.working := by
  have looked := ready.looked clock
  obtain ⟨clockReadings, watched⟩ := Solver.overdue_frame (denseEnvironment clock) solver
  have still : (solver.overdue (denseEnvironment clock)).2.working = solver.working := by
    rw [watched]
  rw [← still] at nonsingular
  obtain ⟨entries, answer⟩ := looked.answered_of_nonsingular clock exact nonsingular
  exact ⟨⟨entries, answer⟩,
    (Solver.stepOnce_answered (denseEnvironment clock) _ entries answer).trans still⟩

include ready in
/-- The step that a row stops: it follows the rows that hold where it starts, and crosses this one. -/
theorem crossing (valid : 0 ≤ config.pivotTolerance) (row : Nat)
    (blocked : (solver.landing (denseEnvironment elapsed)).2.blocking = some row)
    (tight : Linear.apply
        (Kkt.rows problem (solver.subproblem (denseEnvironment elapsed)).working.included)
        solver.point =
      Kkt.bounds problem (solver.subproblem (denseEnvironment elapsed)).working.included) :
    ∃ direction : List K, direction.length = problem.size ∧
      Linear.apply
          (Kkt.rows problem (solver.subproblem (denseEnvironment elapsed)).working.included)
          direction =
        Linear.zeros (problem.equalities.count +
          (solver.subproblem (denseEnvironment elapsed)).working.included.length) ∧
      0 < problem.inequalities.bodyOf direction row := by
  have round := ready.subproblem elapsed
  have place := Solver.subproblem_point (denseEnvironment elapsed) solver
  obtain ⟨entries, answer, _, stopped, _⟩ := Solver.landed_blocking (denseEnvironment elapsed)
    (solver.subproblem (denseEnvironment elapsed))
    (Solver.subproblem_blocking (denseEnvironment elapsed) solver) row blocked
  rw [← place] at tight
  generalize solver.subproblem (denseEnvironment elapsed) = narrow
    at round answer stopped tight ⊢
  have solution := round.solution valid entries answer
  have there := round.sized.length_point
  rw [congrArg Problem.size round.problem_eq] at there
  have heading : narrow.heading entries =
      Linear.subtract (entries.take problem.size) narrow.point := by
    unfold Solver.heading
    rw [congrArg Problem.size round.problem_eq]
  have crossed := round.sized.bodyOf_blocking_pos (narrow.heading entries) row stopped
  rw [round.problem_eq, heading] at crossed
  refine ⟨Linear.subtract (entries.take problem.size) narrow.point, ?_, ?_, crossed⟩
  · rw [Linear.length_subtract, solution.size, there, Nat.min_self]
  · rw [Linear.apply_subtract _ _ _ (solution.size.trans there.symm), solution.tight, tight,
      Linear.subtract_self, Kkt.length_bounds problem _ round.inside]

include ready in
/-- In exact arithmetic a row that stops the step enters the working set. -/
theorem pass_entered (row : Nat)
    (blocked : (solver.landing (denseEnvironment elapsed)).2.blocking = some row) :
    ∃ next, solver.pass (denseEnvironment elapsed) = (true, next) ∧
      next.working =
        (solver.subproblem (denseEnvironment elapsed)).working.insert row := by
  have excluded := Solver.landing_blocking_excluded (denseEnvironment elapsed) solver row blocked
  have bound := (ready.subproblem elapsed).sized.outside row excluded
  have kept := Solver.landing_working (denseEnvironment elapsed) solver
  obtain ⟨entries, answer, long, _⟩ := Solver.landed_blocking (denseEnvironment elapsed)
    (solver.subproblem (denseEnvironment elapsed))
    (Solver.subproblem_blocking (denseEnvironment elapsed) solver) row blocked
  rcases Solver.pass_cases (denseEnvironment elapsed) solver with ⟨worst, _⟩ | ⟨infinite, _⟩ |
    ⟨reason, _⟩ | ⟨other, stopped, notes, printed, passed⟩ | ⟨_, free, _⟩
  · rw [Solver.landing, Solver.landed_moves _ _ entries answer long] at worst
    cases worst
  · unfold Solver.allFinite at infinite
    rw [Exact.allFinite, Exact.allFinite] at infinite
    cases infinite
  · rcases reason with none | ⟨free, _⟩
    · have count := Solver.landing_problem (denseEnvironment elapsed) solver
      unfold Solver.inequalityCount at none
      rw [count, ready.problem_eq] at none
      rw [congrArg (fun problem => problem.inequalities.count)
        (ready.subproblem elapsed).problem_eq] at bound
      omega
    · rw [blocked] at free
      cases free
  · rw [blocked, Option.some.injEq] at stopped
    rw [← stopped] at passed
    exact ⟨_, passed, congrArg (WorkingSet.insert · row) kept⟩
  · rw [blocked] at free
    cases free

end DenseSolver.Ready

/-- A row outside the working set that is crossed along the included rows is no weighted sum of
them, and the system of the set stays solvable once the row is in. -/
theorem Kkt.insert_solvable {working : WorkingSet} {row : Nat} {direction : List K}
    (convex : problem.Convex) (excluded : row ∈ working.excluded)
    (inside : Kkt.Inside problem (working.insert row).included)
    (regular : Kkt.Regular problem working.included) (size : direction.length = problem.size)
    (along : Linear.apply (Kkt.rows problem working.included) direction =
      Linear.zeros (problem.equalities.count + working.included.length))
    (crosses : problem.inequalities.bodyOf direction row ≠ 0) :
    (∀ weights : List K, weights.length = problem.equalities.count + working.included.length →
      Linear.apply (Linear.transpose problem.size (Kkt.rows problem working.included)) weights ≠
        problem.inequalities.rows.getD row []) ∧
    Nonsingular
      (problem.size + (problem.equalities.count + (working.insert row).included.length))
      (Kkt.matrix problem (working.insert row).included) := by
  have listed : row ∈ (working.insert row).included :=
    (WorkingSet.mem_included_insert working row row
      (WorkingSet.lt_size_of_excluded working row excluded)).mpr (Or.inr rfl)
  have distinct := WorkingSet.included_nodup (working.insert row)
  -- Without the row that entered, the list of rows is the one before.
  rw [← WorkingSet.included_insert_erase working row excluded] at regular along ⊢
  exact ⟨Kkt.not_weighted_sum along crosses (inside.erase row),
    (Kkt.nonsingular_iff problem _ inside convex).mpr
      (regular.extend inside along crosses distinct listed size)⟩

/-- In exact arithmetic, without a margin for pivots: a row that stops a step whose included rows
hold where it starts is no weighted sum of these rows, and with it their system sends only zero to
zero. The pass takes the row in, and the next one solves the system at once and gives up no row. -/
theorem blocking_row_solvable (ready : DenseSolver.Ready problem config solver)
    (convex : problem.Convex) (exact : config.pivotTolerance = 0) (moved : Bool)
    (stepped : DenseSolver K) (row : Nat)
    (step : solver.stepOnce (denseEnvironment elapsed) = (moved, stepped))
    (tight : Linear.apply (Kkt.rows problem stepped.working.included) solver.point =
      Kkt.bounds problem stepped.working.included)
    (blocked : stepped.blocking = some row) :
    (∀ weights : List K,
      weights.length = problem.equalities.count + stepped.working.included.length →
      Linear.apply (Linear.transpose problem.size (Kkt.rows problem stepped.working.included))
        weights ≠ problem.inequalities.rows.getD row []) ∧
    Nonsingular
      (problem.size + (problem.equalities.count + (stepped.working.insert row).included.length))
      (Kkt.matrix problem (stepped.working.insert row).included) ∧
    ∃ next, solver.pass (denseEnvironment elapsed) = (true, next) ∧
      next.working = stepped.working.insert row ∧
      ∀ clock : Nat → K,
        (∃ entries, (next.overdue (denseEnvironment clock)).2.systemAnswer
          (denseEnvironment clock) = some entries) ∧
        ((next.overdue (denseEnvironment clock)).2.stepOnce (denseEnvironment clock)).2.working =
          next.working := by
  obtain ⟨notes, landed⟩ := Solver.stepOnce_landed (denseEnvironment elapsed) solver
  have same : stepped = { (solver.landing (denseEnvironment elapsed)).2 with notes } :=
    congrArg Prod.snd (step.symm.trans landed)
  have working : stepped.working =
      (solver.subproblem (denseEnvironment elapsed)).working := by
    rw [same]
    exact Solver.landing_working (denseEnvironment elapsed) solver
  have stops : (solver.landing (denseEnvironment elapsed)).2.blocking = some row := by
    rw [same] at blocked
    exact blocked
  have round := ready.subproblem elapsed
  have excluded := Solver.landing_blocking_excluded (denseEnvironment elapsed) solver row stops
  obtain ⟨entries, answer, _⟩ := Solver.landed_blocking (denseEnvironment elapsed)
    (solver.subproblem (denseEnvironment elapsed))
    (Solver.subproblem_blocking (denseEnvironment elapsed) solver) row stops
  obtain ⟨columns, accepted⟩ := round.accepted exact.ge entries answer
  have regular := Kkt.regular_of_accepted problem _ round.inside convex config.pivotTolerance
    columns exact.ge accepted
  rw [working] at tight ⊢
  obtain ⟨direction, size, along, crosses⟩ := ready.crossing exact.ge row stops tight
  obtain ⟨next, passed, entered⟩ := ready.pass_entered row stops
  have later := ready.passed passed
  have inside := later.inside
  rw [entered] at inside
  obtain ⟨independent, nonsingular⟩ :=
    Kkt.insert_solvable convex excluded inside regular size along crosses.ne'
  refine ⟨independent, nonsingular, next, passed, entered, fun clock => ?_⟩
  rw [← entered] at nonsingular
  exact later.overdue_answered exact nonsingular clock

/-! ### A row that stops a step -/

/-- The square of `x` less `x` and `y`, where `y` is at most one and `x` at most a quarter. -/
def valley : Problem ℚ where
  size := 2
  quadratic := [[2, 0], [0, 0]]
  linear := [1, 1]
  equalities := Constraints.none
  inequalities := ⟨[[0, 1], [1, 0]], [1, 1 / 4], by decide, rfl⟩
  size_pos := Nat.zero_lt_two
  quadratic_height := rfl
  quadratic_width := by decide
  linear_length := rfl

theorem valley_convex : valley.Convex where
  symmetric := by decide +kernel
  semidefinite vector size := by
    obtain ⟨first, second, rfl⟩ := List.length_eq_two.mp size
    have square : 0 ≤ first * (2 * first) := by
      rw [mul_left_comm]
      exact mul_nonneg zero_le_two (mul_self_nonneg first)
    simpa [valley] using square

/-- The plain configuration without a margin for pivots. -/
def marginless : Config ℚ := { plainConfig with pivotTolerance := 0 }

/-- A new solver once it accepted a point to start from. -/
def startedAt (problem : Problem ℚ) (config : Config ℚ) (point : List ℚ) :
    Except Error Bool × DenseSolver ℚ :=
  ((DenseSolver.new problem config none (.prepared [])).reset
    (denseEnvironment stoppedClock)).findStart (denseEnvironment stoppedClock)
      (some (.point point))

theorem startedAt_ready (problem : Problem ℚ) (config : Config ℚ) (point : List ℚ)
    (accepted : (startedAt problem config point).1.toOption = some true) :
    DenseSolver.Ready problem config (startedAt problem config point).2 := by
  have new : Session.Reached problem config (.prepared [])
      (Session.new (DenseSolver.new problem config none (.prepared []))) := .fresh
  have opened : (DenseSolver.new problem config none (.prepared [])).isReleased = false :=
    (Solver.buffer_spec config problem.size).1.opened
  exact (new.kept.ready opened).started (some (.point point))
    (Prod.ext (ok_of_toOption _ true accepted) rfl)

/-- In the valley, the step along the first row is stopped by the second. -/
theorem blocking_row_solvable_valley :
    let stepped := ((startedAt valley marginless [0, 1]).2.stepOnce
      (denseEnvironment stoppedClock)).2
    stepped.working.included = [0] ∧ stepped.blocking = some 1 ∧
      Nonsingular 4 (Kkt.matrix valley [0, 1]) := by
  intro stepped
  have included : stepped.working.included = [0] := by decide +kernel
  have blocked : stepped.blocking = some 1 := by decide +kernel
  have entered : (stepped.working.insert 1).included = [0, 1] := by decide +kernel
  have tight : Linear.apply (Kkt.rows valley stepped.working.included)
      (startedAt valley marginless [0, 1]).2.point =
        Kkt.bounds valley stepped.working.included := by decide +kernel
  obtain ⟨_, nonsingular, _⟩ := blocking_row_solvable
    (startedAt_ready valley marginless [0, 1] (by decide +kernel)) valley_convex rfl _ stepped 1 rfl
    tight blocked
  rw [entered] at nonsingular
  exact ⟨included, blocked, nonsingular⟩

end ConvexQP
