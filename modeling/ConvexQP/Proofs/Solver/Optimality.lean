import ConvexQP.Proofs.Scan.FirstLeast
import ConvexQP.Proofs.Solver.Exact

/-!
What an optimal result says, in exact arithmetic. When the system of the returned active set was
solved in the last pass, the result carries a certificate: its solution is stationary on the active
rows, the multipliers are those of the solution, and they bound the objective from below on the
whole feasible set. A run can also end as optimal without a solved system; then no row is active.
-/
namespace ConvexQP
open scoped Exact
variable {K : Type} [Field K] [LinearOrder K] [IsStrictOrderedRing K] [Rooted K]

/-- The point is the target, or what is left to it is a step too small to be taken. -/
def Near (tolerance : K) (point target : List K) : Prop :=
  point = target ∨
    if Linear.norm point ≤ tolerance then Linear.norm (Linear.subtract target point) ≤ tolerance
    else Linear.norm (Linear.subtract target point) ≤ tolerance * Linear.norm point

/-- What a result certifies about the solution of the subproblem over a working set. -/
structure Certificate (problem : Problem K) (tolerance : K) (included : List Nat)
    (point multipliers : List K) (result : Result K) : Prop where
  activeSet : result.activeSet = included
  equalities : Linear.apply problem.equalities.rows point = problem.equalities.bounds
  active : Linear.apply (problem.inequalities.rowsAt included) point =
    problem.inequalities.boundsAt included
  stationary :
    Kkt.reducedGradient problem point included multipliers = Linear.zeros problem.size
  floor : ∀ multiplier ∈ multipliers.drop problem.equalities.count, -tolerance ≤ multiplier
  equalityMultipliers : result.multipliers.take problem.equalities.count =
    multipliers.take problem.equalities.count
  activeMultipliers : ∀ pair ∈ included.zip (multipliers.drop problem.equalities.count),
    result.multipliers[problem.equalities.count + pair.1]? = some pair.2
  otherMultipliers : ∀ row < problem.inequalities.count, row ∉ included →
    result.multipliers[problem.equalities.count + row]? = some 0
  near : Near tolerance result.point point
  bound : ∀ other, problem.Feasible other →
    problem.objective point - tolerance * (problem.inequalities.slackAt other included).sum ≤
      problem.objective other

namespace DenseSolver.Ready
variable {problem : Problem K} {config : Config K} {elapsed : Nat → K} {solver : DenseSolver K}
variable (ready : Ready problem config solver) (entries : List K)
variable (answer : solver.systemAnswer (denseEnvironment elapsed) = some entries)
variable (solution : Kkt.Solution problem solver.working.included (entries.take problem.size)
  (entries.drop problem.size))

include ready answer solution in
/-- When nothing stops the step, it arrives or is too small. -/
theorem near_of_not_blocked (valid : config.Nonnegative) (fresh : solver.blocking = none)
    (free : (solver.landed (denseEnvironment elapsed)).2.blocking = none) :
    Near config.solutionTolerance (solver.landed (denseEnvironment elapsed)).2.point
      (entries.take problem.size) := by
  have heading := ready.heading_eq entries
  rcases ready.landed_point valid.pivot with ⟨stayed, short⟩ | ⟨other, found, _, moved, blocked⟩
  · have tolerance : solver.solutionTolerance.bound = config.solutionTolerance := by
      rw [← ready.config_eq]
      rfl
    -- The step was not taken, so it is small beside the point it starts from.
    have small := (Exact.isSmall_iff _ _ _ (by rw [tolerance]; exact valid.solution)).mp
      (short entries answer)
    rw [abs_of_nonneg (Linear.norm_nonneg _), abs_of_nonneg (Linear.norm_nonneg _), tolerance,
      heading] at small
    rw [stayed]
    exact Or.inr small
  · obtain rfl : entries = other := Option.some.inj (answer.symm.trans found)
    -- A step that nothing stops has length one.
    have whole : (solver.stepLimit (solver.heading entries)).length = 1 :=
      RatioTest.length_of_not_blocked _ _ ((blocked fresh).symm.trans free)
    rw [moved, whole, heading, Linear.addScaled_one_subtract]
    · exact Or.inl rfl
    · rw [ready.point_size, solution.size]

include ready in
/-- No inequality row, or none that blocks: either way the step was free. -/
theorem free_of_reason (fresh : solver.blocking = none)
    (reason : (solver.landed (denseEnvironment elapsed)).2.inequalityCount = 0 ∨
      (solver.landed (denseEnvironment elapsed)).2.blocking = none ∧
        (solver.landed (denseEnvironment elapsed)).2.rowToExclude = none) :
    (solver.landed (denseEnvironment elapsed)).2.blocking = none := by
  rcases reason with empty | ⟨free, _⟩
  · rcases Option.eq_none_or_eq_some (solver.landed (denseEnvironment elapsed)).2.blocking with
      free | ⟨row, blocked⟩
    · exact free
    · obtain ⟨entries, answer, _, stopped, _⟩ := Solver.landed_blocking _ solver fresh row blocked
      obtain ⟨_, _, _, _, _, landed⟩ := Solver.landed_frame _ solver entries answer
      rw [landed] at empty
      have excluded := Solver.stepLimit_blocking _ _ row stopped
      have none : solver.problem.inequalities.count = 0 := empty
      exact absurd (ready.sized.outside row excluded) (by omega)
  · exact free

include ready answer solution in
theorem floor_of_reason (valid : 0 ≤ config.solutionTolerance)
    (reason : (solver.landed (denseEnvironment elapsed)).2.inequalityCount = 0 ∨
      (solver.landed (denseEnvironment elapsed)).2.blocking = none ∧
        (solver.landed (denseEnvironment elapsed)).2.rowToExclude = none) :
    ∀ multiplier ∈ (entries.drop problem.size).drop problem.equalities.count,
      -config.solutionTolerance ≤ multiplier := by
  obtain ⟨_, _, _, _, _, landed⟩ := Solver.landed_frame _ solver entries answer
  rw [landed] at reason
  have count : ((entries.drop problem.size).drop problem.equalities.count).length =
      solver.working.included.length := by
    rw [List.length_drop, solution.counts]
    omega
  rcases reason with empty | ⟨_, kept⟩
  · have rows : solver.working.included = [] := by
      apply List.eq_nil_iff_forall_not_mem.mpr
      intro row member
      have none : solver.problem.inequalities.count = 0 := empty
      exact absurd (ready.sized.inside row member) (by omega)
    rw [rows, List.length_nil] at count
    rw [List.length_eq_zero_iff.mp count]
    simp
  · have chosen : MultiplierChoice.rowToDrop (⟨config.solutionTolerance⟩ : Tolerance K)
        solver.working.latestIn
        (solver.answered (denseEnvironment elapsed) entries).includedEntries = none := by
      rw [← ready.config_eq]
      exact kept
    rw [answered_includedEntries ready entries solution] at chosen
    have rows : (solver.working.included.zip
        ((entries.drop problem.size).drop problem.equalities.count)).map Prod.fst =
          solver.working.included := List.map_fst_zip count.ge
    have distinct := WorkingSet.included_nodup solver.working
    rw [← rows] at distinct
    intro multiplier member
    obtain ⟨place, bound, here⟩ := List.mem_iff_getElem.mp member
    have placed : place < solver.working.included.length := count ▸ bound
    have entry : (solver.working.included[place], multiplier) ∈
        solver.working.included.zip
          ((entries.drop problem.size).drop problem.equalities.count) := by
      apply List.mem_iff_getElem.mpr
      exact ⟨place, by rw [List.length_zip]; omega, by rw [List.getElem_zip, here]⟩
    exact (MultiplierChoice.not_droppable_iff ⟨config.solutionTolerance⟩ valid multiplier).mp
      (MultiplierChoice.droppable_of_rowToDrop_none _ _ _ distinct chosen _ entry)

end DenseSolver.Ready

namespace Solver
variable {R Systems Programs : Type} [Scalar R] (solver : Solver R Systems Programs)

/-- Rows outside the working set have multiplier zero, the others their own. -/
theorem result_multiplier (row : Nat) (value : R)
    (leading : solver.equalityMultipliers.length = solver.equalityCount)
    (found : solver.inequalityMultipliers[row]? = some value) :
    solver.result.multipliers[solver.equalityCount + row]? =
      some (if row ∈ solver.working.included then value else 0) := by
  unfold result
  simp only
  rw [List.getElem?_append_right (by omega), leading, Nat.add_sub_cancel_left, List.getElem?_map,
    List.getElem?_zipIdx, found]
  simp only [Option.map_some, Nat.zero_add, Option.some.injEq]
  by_cases member : row ∈ solver.working.included
  · rw [if_pos member, if_pos ((WorkingSet.contains_iff _ _).mpr member)]
  · rw [if_neg member, if_neg fun inside => member ((WorkingSet.contains_iff _ _).mp inside)]

end Solver

namespace DenseSolver.Ready
variable {problem : Problem K} {config : Config K} {elapsed : Nat → K} {solver : DenseSolver K}

/-- The multipliers of a result are those of the answer, in the places of their rows. -/
theorem landed_multipliers (ready : Ready problem config solver) (entries : List K)
    (answer : solver.systemAnswer (denseEnvironment elapsed) = some entries)
    (solution : Kkt.Solution problem solver.working.included (entries.take problem.size)
      (entries.drop problem.size)) :
    (solver.landed (denseEnvironment elapsed)).2.result.multipliers.take
        problem.equalities.count = (entries.drop problem.size).take problem.equalities.count ∧
      ∀ row < problem.inequalities.count, ∃ value,
        (solver.landed (denseEnvironment elapsed)).2.result.multipliers[
          problem.equalities.count + row]? = some value ∧
        (row ∉ solver.working.included → value = 0) ∧
        ∀ multiplier, (row, multiplier) ∈ solver.working.included.zip
          ((entries.drop problem.size).drop problem.equalities.count) → value = multiplier := by
  obtain ⟨_, _, _, _, _, landed⟩ := Solver.landed_frame _ solver entries answer
  obtain ⟨stored, scattered⟩ := ready.answered_multipliers elapsed entries solution
  generalize (solver.landed (denseEnvironment elapsed)).2 = final at landed ⊢
  have equalities : final.equalityMultipliers =
      (entries.drop problem.size).take problem.equalities.count := by
    rw [landed]
    exact stored
  have inequalities : final.inequalityMultipliers =
      Solver.scatter solver.inequalityMultipliers solver.working.included
        ((entries.drop problem.size).drop problem.equalities.count) := by
    rw [landed]
    exact scattered
  have working : final.working = solver.working := by
    rw [landed]
    rfl
  have count : final.equalityCount = problem.equalities.count := by
    rw [landed]
    exact ready.equalityCount_eq
  have leading : ((entries.drop problem.size).take problem.equalities.count).length =
      problem.equalities.count := by
    rw [List.length_take, solution.counts]
    omega
  have held : solver.inequalityMultipliers.length = problem.inequalities.count := by
    rw [ready.sized.length_inequalityMultipliers, ready.inequalityCount_eq]
  constructor
  · unfold Solver.result
    simp only
    rw [equalities, List.take_append_of_le_length leading.ge, List.take_of_length_le leading.le]
  · intro row bound
    have inside : row < final.inequalityMultipliers.length := by
      rw [inequalities, Solver.length_scatter, held]
      exact bound
    have found := Solver.result_multiplier final row _ (by rw [equalities, leading, count])
      (List.getElem?_eq_getElem inside)
    rw [count, working] at found
    refine ⟨_, found, fun absent => if_neg absent, ?_⟩
    intro multiplier pair
    have member := (List.of_mem_zip pair).1
    have scattered := Solver.scatter_at solver.inequalityMultipliers _ _
      (WorkingSet.included_nodup solver.working)
      (by rw [held, ← ready.problem_eq]; exact ready.sized.inside) _ pair
    rw [← inequalities, List.getElem?_eq_getElem inside] at scattered
    rw [if_pos member]
    exact Option.some.inj scattered

end DenseSolver.Ready

section Runs
variable {problem : Problem K} {config : Config K} {method : ProgramMethod K}
variable {session : Session K (DenseSystems K) (ProgramSource K)}

theorem optimal_result (reached : Session.Reached problem config method session)
    (opened : session.solver.isReleased = false) (elapsed : Nat → K) (budget : Nat)
    (kick : Option (KickStart K)) (result : Result K)
    (answered : (session.solver.solve (denseEnvironment elapsed) budget kick).1 =
      .ok (some result))
    (optimal : result.verdict = .optimal) : ∃ before,
    session.solver.lastPass (denseEnvironment elapsed) budget kick = some before ∧
      DenseSolver.Ready problem config (before.subproblem (denseEnvironment elapsed)) ∧
      ((before.landing (denseEnvironment elapsed)).2.inequalityCount = 0 ∨
        (before.landing (denseEnvironment elapsed)).2.blocking = none ∧
          (before.landing (denseEnvironment elapsed)).2.rowToExclude = none) ∧
      result.activeSet = (before.landing (denseEnvironment elapsed)).2.working.included ∧
      result.point = (before.landing (denseEnvironment elapsed)).2.point ∧
      result.multipliers = (before.landing (denseEnvironment elapsed)).2.result.multipliers := by
  obtain ⟨before, ended, last, ends, verdict, told⟩ := Solver.solve_optimal _ _ budget kick result
    answered optimal
  obtain ⟨reason, notes, printed, same⟩ := Solver.pass_optimal _ before ended ends verdict
  have ready := (reached.kept.ready opened).lastPass budget kick last
  refine ⟨before, last, ready.subproblem elapsed, reason, ?_⟩
  rw [told, same]
  generalize before.landing (denseEnvironment elapsed) = landing
  exact ⟨rfl, rfl, rfl⟩

/-- An optimal result whose last pass solved the system of its working set certifies itself. -/
theorem optimal_certificate (reached : Session.Reached problem config method session)
    (opened : session.solver.isReleased = false) (convex : problem.Convex)
    (valid : config.Nonnegative) (elapsed : Nat → K) (budget : Nat)
    (kick : Option (KickStart K)) (result : Result K)
    (answered : (session.solver.solve (denseEnvironment elapsed) budget kick).1 =
      .ok (some result))
    (optimal : result.verdict = .optimal) (before : DenseSolver K)
    (last : session.solver.lastPass (denseEnvironment elapsed) budget kick = some before)
    (entries : List K)
    (solved : (before.subproblem (denseEnvironment elapsed)).systemAnswer
      (denseEnvironment elapsed) = some entries) :
    Certificate problem config.solutionTolerance
      (before.subproblem (denseEnvironment elapsed)).working.included
      (entries.take problem.size) (entries.drop problem.size) result := by
  obtain ⟨other, found, ready, reason, activeSet, point, multipliers⟩ :=
    optimal_result reached opened elapsed budget kick result answered optimal
  obtain rfl : before = other := Option.some.inj (last.symm.trans found)
  have fresh := Solver.subproblem_blocking (denseEnvironment elapsed) before
  unfold Solver.landing at reason activeSet point multipliers
  generalize before.subproblem (denseEnvironment elapsed) = decisive at *
  have solution := ready.solution valid.pivot entries solved
  have free := DenseSolver.Ready.free_of_reason ready fresh reason
  have floor := DenseSolver.Ready.floor_of_reason ready entries solved solution valid.solution
    reason
  have near := DenseSolver.Ready.near_of_not_blocked ready entries solved solution valid fresh free
  obtain ⟨_, _, _, _, _, landed⟩ := Solver.landed_frame _ decisive entries solved
  have included : (decisive.landed (denseEnvironment elapsed)).2.working.included =
      decisive.working.included := by
    rw [landed]
    rfl
  obtain ⟨leading, places⟩ := DenseSolver.Ready.landed_multipliers ready entries solved solution
  obtain ⟨equalities, active⟩ := solution.rows_hold
  have inside := ready.inside
  rw [← multipliers] at leading places
  exact {
    activeSet := activeSet.trans included
    equalities, active, floor
    stationary := solution.stationary
    equalityMultipliers := leading
    activeMultipliers := fun pair member => by
      obtain ⟨value, found, _, same⟩ := places pair.1 (inside _ (List.of_mem_zip member).1)
      rw [found, same pair.2 member]
    otherMultipliers := fun row bound absent => by
      obtain ⟨value, found, zero, _⟩ := places row bound
      rw [found, zero absent]
    near := by
      rw [point]
      exact near
    bound := fun other feasible => solution.objective_bound problem _ inside convex
      config.solutionTolerance floor other feasible }

end Runs

/-! ### A run that solves its last system -/

/-- Half of `x²` less `x`, where `x` is not positive. -/
def halfLine : Problem ℚ := line 1 1 1 0

theorem halfLine_strictlyConvex : halfLine.StrictlyConvex where
  symmetric := by decide +kernel
  definite vector size nonzero := by
    obtain ⟨entry, rfl⟩ := List.length_eq_one_iff.mp size
    have away : entry ≠ 0 := fun zero => nonzero (by rw [zero]; rfl)
    simpa [halfLine, line] using mul_self_pos.mpr away

theorem Problem.StrictlyConvex.convex {problem : Problem K} (strict : problem.StrictlyConvex) :
    problem.Convex where
  symmetric := strict.symmetric
  semidefinite vector size := by
    by_cases zero : vector = Linear.zeros problem.size
    · rw [zero, Linear.dot_zeros]
    · exact (strict.definite vector size zero).le

/-- At its end the half line holds the point back with multiplier one. -/
theorem optimal_certificate_halfLine :
    Certificate halfLine plainConfig.solutionTolerance [0] [0] [1]
      ⟨.optimal, [0], 0, 0, [0], [1]⟩ := by
  have decisive : ((freshSession halfLine).solver.lastPass (denseEnvironment stoppedClock) 1
      (some (.point [0]))).map (fun before =>
        ((before.subproblem (denseEnvironment stoppedClock)).systemAnswer
          (denseEnvironment stoppedClock),
          (before.subproblem (denseEnvironment stoppedClock)).working.included)) =
      some (some [0, 1], [0]) := by decide +kernel
  obtain ⟨before, last, parts⟩ := Option.map_eq_some_iff.mp decisive
  rw [Prod.mk.injEq] at parts
  have certificate := optimal_certificate (freshSession_reached halfLine) rfl
    halfLine_strictlyConvex.convex plainConfig_nonnegative stoppedClock 1 (some (.point [0]))
    ⟨.optimal, [0], 0, 0, [0], [1]⟩ (ok_of_toOption _ _ (by decide +kernel)) rfl before last [0, 1] parts.1
  rw [parts.2] at certificate
  exact certificate

end ConvexQP
