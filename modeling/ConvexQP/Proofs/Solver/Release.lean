import ConvexQP.Proofs.Exact.Leaving
import ConvexQP.Proofs.Solver.Blocking

/-!
A row that is dropped is left. A pass that ends at the solution of its subproblem drops a row for its
negative multiplier; the step of the next pass goes away from the bound of this row, so the row does
not stop it, and the objective falls however short the step is.
-/
namespace ConvexQP
open scoped Exact

namespace Solver
variable {R Systems Programs : Type} [Scalar R]
variable {environment : Environment R Systems Programs} {solver dropped : Solver R Systems Programs}

/-- A pass that drops a row was not stopped by one. -/
theorem pass_dropped (passed : solver.pass environment = (true, dropped)) (row : Nat)
    (left : dropped.toExclude = some row) :
    (solver.landing environment).2.rowToExclude = some row ∧
      dropped.working = (solver.subproblem environment).working.erase row := by
  have kept := landing_working environment solver
  obtain ⟨other, notes, printed, ⟨_, entered⟩ | ⟨_, chosen, gone⟩⟩ :=
    pass_again environment solver dropped passed
  · rw [entered] at left
    cases left
  · rw [gone] at left
    have same : other = row := Option.some.inj left
    rw [same] at chosen gone
    refine ⟨chosen, ?_⟩
    rw [gone]
    exact congrArg (WorkingSet.erase · row) kept

end Solver

variable {K : Type} [Field K] [LinearOrder K] [IsStrictOrderedRing K] [Rooted K]
variable {problem : Problem K} {config : Config K} {solver : DenseSolver K} {elapsed : Nat → K}

namespace DenseSolver.Ready
variable (ready : Ready problem config solver)

include ready in
/-- A row is dropped for a negative multiplier of the solution. -/
theorem multiplier_of_dropped (valid : 0 ≤ config.pivotTolerance) (entries : List K)
    (answer : solver.systemAnswer (denseEnvironment elapsed) = some entries) (row : Nat)
    (chosen : (solver.landed (denseEnvironment elapsed)).2.rowToExclude = some row) :
    ∃ multiplier, (row, multiplier) ∈ solver.working.included.zip
      ((entries.drop problem.size).drop problem.equalities.count) ∧ multiplier < 0 := by
  have solution := ready.solution valid entries answer
  obtain ⟨_, _, _, _, _, landed⟩ := Solver.landed_frame _ solver entries answer
  have stored : (solver.answered (denseEnvironment elapsed) entries).includedEntries =
      solver.working.included.zip
        ((entries.drop problem.size).drop problem.equalities.count) :=
    ready.answered_includedEntries entries solution
  obtain ⟨multiplier, member, droppable⟩ := MultiplierChoice.rowToDrop_spec _ _ _ row chosen
  rw [landed] at member
  change _ ∈ (solver.answered (denseEnvironment elapsed) entries).includedEntries at member
  rw [stored] at member
  exact ⟨multiplier, member, of_decide_eq_true (Bool.and_eq_true_iff.mp droppable).1⟩

include ready in
/-- A point that moved went some way to the answer. -/
theorem landed_moved (valid : 0 ≤ config.pivotTolerance) (entries : List K)
    (answer : solver.systemAnswer (denseEnvironment elapsed) = some entries)
    (moved : (solver.landed (denseEnvironment elapsed)).1 = true) :
    ∃ factor : K, 0 < factor ∧ factor ≤ 1 ∧ (solver.landed (denseEnvironment elapsed)).2.point =
      Linear.addScaled factor (solver.heading entries) solver.point := by
  have sizes := ready.heading_size valid entries answer
  unfold Solver.landed at moved ⊢
  rw [answer] at moved ⊢
  simp only at moved ⊢
  split
  · rename_i short
    rw [if_pos short] at moved
    cases moved
  · rename_i long
    rw [if_neg long] at moved
    exact ⟨_, of_decide_eq_true moved, (RatioTest.length_range _ _).2,
      ready.stepped_point _ sizes⟩

include ready in
/-- The same for the step of a pass whose first system is answered. -/
theorem stepOnce_moved (valid : 0 ≤ config.pivotTolerance) (entries : List K)
    (answer : solver.systemAnswer (denseEnvironment elapsed) = some entries)
    (moved : (solver.stepOnce (denseEnvironment elapsed)).1 = true) :
    ∃ factor : K, 0 < factor ∧ factor ≤ 1 ∧ (solver.stepOnce (denseEnvironment elapsed)).2.point =
      Linear.addScaled factor (solver.heading entries) solver.point := by
  have round := ready.subproblem elapsed
  obtain ⟨notes, landed⟩ := Solver.stepOnce_landed (denseEnvironment elapsed) solver
  rw [landed] at moved ⊢
  rw [Solver.subproblem_answered _ solver entries answer] at round moved ⊢
  exact round.landed_moved valid entries answer moved

include ready in
/-- A row that stops the step of such a pass is crossed on the way to the answer. -/
theorem stepOnce_crosses (entries : List K)
    (answer : solver.systemAnswer (denseEnvironment elapsed) = some entries) (row : Nat)
    (blocked : (solver.stepOnce (denseEnvironment elapsed)).2.blocking = some row) :
    0 < problem.inequalities.bodyOf (solver.heading entries) row := by
  have round := ready.subproblem elapsed
  have free := Solver.subproblem_blocking (denseEnvironment elapsed) solver
  obtain ⟨notes, landed⟩ := Solver.stepOnce_landed (denseEnvironment elapsed) solver
  rw [landed] at blocked
  rw [Solver.subproblem_answered _ solver entries answer] at round free blocked
  obtain ⟨found, again, _, stopped, _⟩ := Solver.landed_blocking _ _ free row blocked
  have same : found = entries := Option.some.inj (again.symm.trans answer)
  rw [same] at stopped
  have crossed := round.sized.bodyOf_blocking_pos (solver.heading entries) row stopped
  rwa [round.problem_eq] at crossed

end DenseSolver.Ready

/-- In exact arithmetic: where a pass solved its system, ended at the solution and dropped a row,
and the next pass solves the system without this row, the step of the next pass leaves the row, is
not stopped by it, and lowers the objective if the point moves. -/
theorem dropped_row_released (ready : DenseSolver.Ready problem config solver)
    (convex : problem.Convex) (valid : 0 ≤ config.pivotTolerance) (entries : List K)
    (answer : (solver.subproblem (denseEnvironment elapsed)).systemAnswer
      (denseEnvironment elapsed) = some entries)
    (dropped : DenseSolver K) (passed : solver.pass (denseEnvironment elapsed) = (true, dropped))
    (row : Nat) (left : dropped.toExclude = some row)
    (ended : dropped.point = entries.take problem.size) (clock : Nat → K) (others : List K)
    (solved : (dropped.overdue (denseEnvironment clock)).2.systemAnswer
      (denseEnvironment clock) = some others) :
    let round := solver.subproblem (denseEnvironment elapsed)
    let looked := (dropped.overdue (denseEnvironment clock)).2
    let direction := Linear.subtract (others.take problem.size) dropped.point
    let next := looked.stepOnce (denseEnvironment clock)
    looked.working.included = round.working.included.erase row ∧
    ∃ multiplier, (row, multiplier) ∈ round.working.included.zip
        ((entries.drop problem.size).drop problem.equalities.count) ∧ multiplier < 0 ∧
      Kkt.Leaves problem dropped.point direction row multiplier ∧
      next.2.blocking ≠ some row ∧
      (next.1 = true →
        (∃ factor : K, 0 < factor ∧ factor ≤ 1 ∧
          next.2.point = Linear.addScaled factor direction dropped.point) ∧
        problem.inequalities.slackOf dropped.point row <
          problem.inequalities.slackOf next.2.point row ∧
        problem.objective next.2.point < problem.objective dropped.point) := by
  intro round looked direction next
  obtain ⟨chosen, working⟩ := Solver.pass_dropped passed row left
  have here : DenseSolver.Ready problem config round := ready.subproblem elapsed
  have later : DenseSolver.Ready problem config looked := (ready.passed passed).looked clock
  obtain ⟨clockReadings, watched⟩ := Solver.overdue_frame (denseEnvironment clock) dropped
  have included : looked.working.included = round.working.included.erase row := by
    rw [← WorkingSet.included_erase]
    exact congrArg WorkingSet.included ((congrArg Solver.working watched).trans working)
  have place : looked.point = dropped.point := by
    have same := congrArg Solver.point watched
    exact same
  have heading : looked.heading others = direction := by
    unfold Solver.heading
    rw [congrArg Problem.size later.problem_eq, place]
  refine ⟨included, ?_⟩
  obtain ⟨multiplier, pair, negative⟩ := here.multiplier_of_dropped valid entries answer row chosen
  obtain ⟨columns, accepted⟩ := here.accepted valid entries answer
  have solution := here.solution valid entries answer
  have target := later.solution valid others solved
  rw [included] at target
  have leaves : Kkt.Leaves problem dropped.point direction row multiplier := by
    have away := solution.leaves here.inside (WorkingSet.included_nodup round.working) pair target
      convex config.pivotTolerance columns valid accepted negative
    rw [← ended] at away
    exact away
  refine ⟨multiplier, pair, negative, leaves, ?_, ?_⟩
  · intro stopped
    have crossed := later.stepOnce_crosses others solved row stopped
    rw [heading] at crossed
    exact lt_asymm crossed leaves.inward
  · intro moved
    obtain ⟨factor, forward, short, reached⟩ := later.stepOnce_moved valid others solved moved
    rw [heading, place] at reached
    refine ⟨⟨factor, forward, short, reached⟩, ?_, ?_⟩
    · rw [reached]
      exact leaves.gains factor forward
    · rw [reached]
      exact leaves.falls factor forward short

/-! ### A row that is left -/

/-- Half of `x²` with `x`, where `x` is not positive. -/
def ebb : Problem ℚ := line 1 (-1) 1 0

theorem ebb_convex : ebb.Convex where
  symmetric := by decide +kernel
  semidefinite vector size := by
    obtain ⟨entry, rfl⟩ := List.length_eq_one_iff.mp size
    simpa [ebb, line] using mul_self_nonneg entry

/-- At zero the row is dropped for its multiplier, and the next step goes to minus one. -/
theorem dropped_row_released_ebb : ∃ multiplier : ℚ,
    multiplier < 0 ∧ Kkt.Leaves ebb [0] [-1] 0 multiplier := by
  let start := (startedAt ebb plainConfig [0]).2
  let dropped := (start.pass (denseEnvironment stoppedClock)).2
  have again : (start.pass (denseEnvironment stoppedClock)).1 = true := by decide +kernel
  have place : dropped.point = [0] := by decide +kernel
  have direction : Linear.subtract (([-1] : List ℚ).take ebb.size) [0] = [-1] := by decide +kernel
  obtain ⟨_, multiplier, _, negative, leaves, _⟩ := dropped_row_released
    (startedAt_ready ebb plainConfig [0] (by decide +kernel)) ebb_convex
    plainConfig_nonnegative.pivot [0, -1] (by decide +kernel) dropped (Prod.ext again rfl) 0
    (by decide +kernel) (by decide +kernel) stoppedClock [-1] (by decide +kernel)
  rw [place, direction] at leaves
  exact ⟨multiplier, negative, leaves⟩

end ConvexQP
