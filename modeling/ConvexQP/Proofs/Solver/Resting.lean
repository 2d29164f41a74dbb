import ConvexQP.Proofs.Solver.Blocking
import ConvexQP.Proofs.Solver.Infeasible
import ConvexQP.Proofs.Solver.Optimality

/-!
Passes that change nothing. From a feasible point, a pass is idle and ends the run as optimal just
if the solution over the working set rests at the point, with no multiplier far below zero, or the
working set is empty and no solution is found.
-/
namespace ConvexQP
open scoped Exact

namespace Solver
variable {R Systems Programs : Type} [Scalar R]

/-- A pass that changes nothing: it lands where it started, with the same rows, and no row is to
enter or to leave. -/
structure Idle (environment : Environment R Systems Programs)
    (solver : Solver R Systems Programs) : Prop where
  still : (solver.landing environment).1 = false
  included : (solver.landing environment).2.working.included = solver.working.included
  free : (solver.landing environment).2.blocking = none
  kept : (solver.landing environment).2.rowToExclude = none

variable (environment : Environment R Systems Programs) (solver : Solver R Systems Programs)

/-- Without a row to give up, the first round is decisive. -/
theorem subproblem_empty (empty : solver.working.included = []) :
    solver.subproblem environment = { solver with blocking := none, stepLength := none } := by
  simp [subproblem, narrowed, empty]

theorem rowToExclude_empty (empty : solver.working.included = []) : solver.rowToExclude = none := by
  have entries : solver.includedEntries = [] := by
    rw [includedEntries, empty]
    rfl
  rw [rowToExclude, entries]
  rfl

/-- A pass that changes nothing finds the point optimal, unless it lands as infeasible or on values
that are not finite. -/
theorem Idle.pass {environment : Environment R Systems Programs}
    {solver : Solver R Systems Programs} (idle : Idle environment solver)
    (possible : (solver.landing environment).2.verdict ≠ .infeasible)
    (finite : (solver.landing environment).2.allFinite = true) :
    ∃ ended, solver.pass environment = (false, ended) ∧ ended.verdict = .optimal ∧
      ended.problem = solver.problem ∧ ended.point = solver.point ∧
      ended.iterations = solver.iterations := by
  have point : (solver.landing environment).2.point = solver.point :=
    congrArg (fun iterate => iterate.vector.toList) (landing_still environment solver idle.still)
  have base := landing_iterations environment solver
  have problem := landing_problem environment solver
  rcases pass_cases environment solver with ⟨lost, _⟩ | ⟨infinite, _⟩ |
    ⟨_, notes, printed, passed⟩ | ⟨row, blocked, _⟩ | ⟨row, _, dropped, _⟩
  · exact absurd lost possible
  · rw [finite] at infinite
    simp at infinite
  · refine ⟨_, passed, rfl, problem, point, ?_⟩
    have uncounted : (solver.landing environment).2.optimal.countAfter
        (solver.landing environment).1 solver.working.included = solver.iterations := by
      have included : (solver.landing environment).2.optimal.working.included =
          solver.working.included := idle.included
      rw [countAfter, idle.still, included]
      simpa [Solver.optimal] using base
    exact uncounted
  · rw [idle.free] at blocked
    simp at blocked
  · rw [idle.kept] at dropped
    simp at dropped

end Solver

variable {K : Type} [Field K] [LinearOrder K] [IsStrictOrderedRing K] [Rooted K]
variable {problem : Problem K} {config : Config K} {elapsed : Nat → K}

/-- The solution over a working set is found at the point itself, or too near to be stepped to, and
none of its multipliers is far below zero; or no row is included and the equality rows alone are
rejected. -/
inductive Rests (problem : Problem K) (config : Config K) (included : List Nat)
    (point : List K) : Prop
  | solved (entries : List K)
      (answer : (factorise config.pivotTolerance (Kkt.matrix problem included)).toOption.map
        (fun columns => Elimination.solve columns (Kkt.rhs problem included)) = some entries)
      (near : Near config.solutionTolerance point (entries.take problem.size))
      (floor : ∀ multiplier ∈ (entries.drop problem.size).drop problem.equalities.count,
        -config.solutionTolerance ≤ multiplier)
  | unsolved (empty : included = [])
      (rejected : (factorise config.pivotTolerance (Kkt.matrix problem [])).toOption = none)

/-- A step to where it starts has no length. -/
theorem Linear.norm_subtract_self (vector : List K) :
    Linear.norm (Linear.subtract vector vector) = 0 := by
  have root := Rooted.root_square (0 : K)
  rw [mul_zero, abs_zero] at root
  rw [Linear.subtract_self]
  change Rooted.root (Linear.dot _ _) = 0
  rw [Linear.dot_zeros, root]

namespace DenseSolver.Ready
variable {solver : DenseSolver K} (ready : Ready problem config solver)
variable (valid : config.Nonnegative)

include ready valid in
/-- A solution that is near is not stepped to. -/
theorem stands_of_near (entries : List K)
    (near : Near config.solutionTolerance solver.point (entries.take problem.size)) :
    solver.stands (solver.heading entries) = true := by
  have tolerance : solver.solutionTolerance.bound = config.solutionTolerance := by
    rw [← ready.config_eq]
    rfl
  rw [Solver.stands, Exact.isSmall_iff _ _ _ (by rw [tolerance]; exact valid.solution), tolerance,
    abs_of_nonneg (Linear.norm_nonneg _), abs_of_nonneg (Linear.norm_nonneg _),
    ready.heading_eq]
  rcases near with there | short
  · rw [← there, Linear.norm_subtract_self]
    split
    · exact valid.solution
    · exact mul_nonneg valid.solution (Linear.norm_nonneg _)
  · exact short

include ready in
/-- From a feasible point no pass lands as infeasible. -/
theorem landing_possible (feasible : problem.Feasible solver.point) :
    (solver.landing (denseEnvironment elapsed)).2.verdict ≠ .infeasible := by
  intro lost
  have decisive := ready.subproblem elapsed
  have held := decisive.isFeasible_of_feasible (by
    rw [Solver.subproblem_point]
    exact feasible)
  rw [(Solver.landed_infeasible (denseEnvironment elapsed) _ lost).2] at held
  simp at held

variable (elapsed) in
include ready valid in
/-- No row leaves whose multiplier is not far below zero. -/
theorem kept_of_floor (entries : List K)
    (solution : Kkt.Solution problem solver.working.included (entries.take problem.size)
      (entries.drop problem.size))
    (floor : ∀ multiplier ∈ (entries.drop problem.size).drop problem.equalities.count,
      -config.solutionTolerance ≤ multiplier) :
    (solver.answered (denseEnvironment elapsed) entries).rowToExclude = none := by
  have tolerance : solver.solutionTolerance = ⟨config.solutionTolerance⟩ := by
    rw [← ready.config_eq]
    rfl
  by_contra dropped
  obtain ⟨row, chosen⟩ := Option.ne_none_iff_exists'.mp dropped
  obtain ⟨value, member, drops⟩ := MultiplierChoice.rowToDrop_spec _ _ _ row chosen
  rw [answered_includedEntries ready entries solution] at member
  change MultiplierChoice.droppable solver.solutionTolerance value = true at drops
  rw [tolerance, MultiplierChoice.droppable_iff _ valid.solution] at drops
  exact absurd drops (not_lt.mpr (floor value (List.of_mem_zip member).2))

include ready valid in
/-- Where a solution rests, a pass changes nothing. -/
theorem idle_of_rests (rests : Rests problem config solver.working.included solver.point) :
    Solver.Idle (denseEnvironment elapsed) solver := by
  cases rests with
  | solved entries answer near floor =>
      rw [← ready.systemAnswer_eq elapsed valid.pivot] at answer
      have first := Solver.subproblem_answered (denseEnvironment elapsed) solver entries answer
      have solution := ready.solution valid.pivot entries answer
      have kept := ready.kept_of_floor elapsed valid entries solution floor
      have landing : solver.landing (denseEnvironment elapsed) = (false,
          { solver.answered (denseEnvironment elapsed) entries with
            blocking := none, stepLength := none, direction := solver.heading entries,
            verdict := .feasible }) := by
        have again : ({ solver with blocking := none, stepLength := none } :
            DenseSolver K).systemAnswer (denseEnvironment elapsed) = some entries := answer
        have stands : (({ solver with blocking := none, stepLength := none } :
            DenseSolver K).answered (denseEnvironment elapsed) entries).stands
              (({ solver with blocking := none, stepLength := none } :
                DenseSolver K).heading entries) = true :=
          ready.stands_of_near valid entries near
        rw [Solver.landing, first]
        simp only [Solver.landed, again, stands, if_true]
        rfl
      refine ⟨by rw [landing], by rw [landing]; rfl, by rw [landing], ?_⟩
      rw [landing]
      exact kept
  | unsolved empty rejected =>
      have system := ready.systemAnswer_eq elapsed valid.pivot
      rw [empty, rejected] at system
      have alone := Solver.subproblem_empty (denseEnvironment elapsed) solver empty
      have none : (solver.subproblem (denseEnvironment elapsed)).systemAnswer
          (denseEnvironment elapsed) = none := by
        rw [alone]
        exact system
      obtain ⟨systems, verdict, landed⟩ := Solver.landed_unsolved (denseEnvironment elapsed) _ none
      have still : (solver.landing (denseEnvironment elapsed)).1 = false := by
        rw [Solver.landing, Solver.landed, none]
      have same : (solver.landing (denseEnvironment elapsed)).2 =
          { solver with blocking := .none, stepLength := .none, systems, verdict } := by
        rw [Solver.landing, landed, alone]
      refine ⟨still, by rw [same], by rw [same], ?_⟩
      rw [same]
      exact Solver.rowToExclude_empty _ empty

include ready valid in
/-- A pass that changes nothing stands on a solution that rests there. -/
theorem rests_of_idle (idle : Solver.Idle (denseEnvironment elapsed) solver) :
    Rests problem config solver.working.included solver.point := by
  have decisive := ready.subproblem elapsed
  have fresh := Solver.subproblem_blocking (denseEnvironment elapsed) solver
  have place := Solver.subproblem_point (denseEnvironment elapsed) solver
  have given := Solver.subproblem_unsolved (denseEnvironment elapsed) solver
  have point : (solver.landing (denseEnvironment elapsed)).2.point = solver.point :=
    congrArg (fun iterate => iterate.vector.toList)
      (Solver.landing_still (denseEnvironment elapsed) solver idle.still)
  have included := idle.included
  rw [Solver.landing_working] at included
  have free := idle.free
  have kept := idle.kept
  simp only [Solver.landing] at point free kept
  generalize solver.subproblem (denseEnvironment elapsed) = round
    at decisive fresh place given point included free kept
  have system := decisive.systemAnswer_eq elapsed valid.pivot
  cases answer : round.systemAnswer (denseEnvironment elapsed) with
  | none =>
      have empty := given answer
      rw [answer, empty] at system
      rw [empty] at included
      exact .unsolved included.symm (Option.map_eq_none_iff.mp system.symm)
  | some entries =>
      have solution := decisive.solution valid.pivot entries answer
      have near := near_of_not_blocked decisive entries answer solution valid fresh free
      have floor := floor_of_reason decisive entries answer solution valid.solution
        (Or.inr ⟨free, kept⟩)
      rw [answer, included] at system
      rw [point] at near
      exact .solved entries system.symm near floor

include ready in
/-- A pass that finds the point optimal and is not counted changes nothing. -/
theorem idle_of_pass (ended : DenseSolver K)
    (passed : solver.pass (denseEnvironment elapsed) = (false, ended))
    (optimal : ended.verdict = .optimal) (uncounted : ended.iterations = solver.iterations) :
    Solver.Idle (denseEnvironment elapsed) solver := by
  have decisive := ready.subproblem elapsed
  have fresh := Solver.subproblem_blocking (denseEnvironment elapsed) solver
  have base := Solver.landing_iterations (denseEnvironment elapsed) solver
  obtain ⟨reason, notes, printed, same⟩ :=
    Solver.pass_optimal (denseEnvironment elapsed) solver ended passed optimal
  have free := free_of_reason decisive fresh reason
  have count : (solver.landing (denseEnvironment elapsed)).2.optimal.countAfter
      (solver.landing (denseEnvironment elapsed)).1 solver.working.included =
        (solver.landing (denseEnvironment elapsed)).2.iterations := by
    rw [base, ← uncounted, same]
    rfl
  have unchanged : ¬ ((solver.landing (denseEnvironment elapsed)).1 ||
      (solver.landing (denseEnvironment elapsed)).2.working.included ≠
        solver.working.included) = true := by
    intro changed
    exact absurd ((if_pos changed).symm.trans count) (Nat.succ_ne_self _)
  rw [Bool.or_eq_true, not_or, Bool.not_eq_true, decide_eq_true_eq, not_not] at unchanged
  refine ⟨unchanged.1, unchanged.2, free, ?_⟩
  rcases reason with none | ⟨_, kept⟩
  -- There is no row, so none is included.
  · apply Solver.rowToExclude_empty
    rw [unchanged.2]
    apply List.eq_nil_iff_forall_not_mem.mpr
    intro row member
    have bound := ready.inside row member
    have count := Solver.landing_problem (denseEnvironment elapsed) solver
    rw [Solver.inequalityCount, count, ready.problem_eq] at none
    omega
  · exact kept

end DenseSolver.Ready

end ConvexQP
