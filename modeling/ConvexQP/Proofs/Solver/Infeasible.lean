import ConvexQP.Proofs.Solver.Feasibility
import ConvexQP.Proofs.Solver.Start

/-!
Runs that end as infeasible. Either the programmes of the start say so, and no point is feasible;
or the last pass had no answer and no row to give up, and its point failed the test of the solver.
Every start passes the test, so a pass before lost it, by a step over a row that the ratio test
leaves out.
-/
namespace ConvexQP
open scoped Exact

/-! ### The last pass -/

namespace Solver
section Pass
variable {R Systems Programs : Type} [Scalar R] (environment : Environment R Systems Programs)
variable (solver : Solver R Systems Programs)

theorem landed_infeasible (infeasible : (solver.landed environment).2.verdict = .infeasible) :
    solver.systemAnswer environment = none ∧ solver.isFeasible false = false := by
  simp only [landed] at infeasible
  split at infeasible
  · split at infeasible
    · simp at infeasible
    · simp [stepped] at infeasible
  · rename_i unsolved
    refine ⟨unsolved, ?_⟩
    by_contra held
    rw [Bool.not_eq_false] at held
    simp [held] at infeasible

/-- A pass that ends a run as infeasible had no answer, gave up every row, and left the point where
it fails the test. -/
theorem pass_infeasible (ended : Solver R Systems Programs)
    (passed : solver.pass environment = (false, ended)) (infeasible : ended.verdict = .infeasible) :
    (solver.subproblem environment).systemAnswer environment = none ∧
      (solver.subproblem environment).working.included = [] ∧
      (solver.subproblem environment).isFeasible false = false ∧ ended.point = solver.point := by
  rcases pass_cases environment solver with ⟨worst, notes, printed, here⟩ | ⟨_, notes, here⟩ |
    ⟨_, notes, printed, here⟩ | ⟨row, _, notes, printed, here⟩ | ⟨row, _, _, notes, printed, here⟩
  · obtain ⟨unsolved, fails⟩ := landed_infeasible environment _ worst
    refine ⟨unsolved, subproblem_unsolved environment solver unsolved, fails, ?_⟩
    obtain ⟨systems, verdict, landed⟩ := landed_unsolved environment _ unsolved
    rw [passed, Prod.mk.injEq] at here
    rw [here.2]
    change (solver.landing environment).2.point = solver.point
    rw [landing, landed]
    exact subproblem_point environment solver
  · rw [passed, Prod.mk.injEq] at here
    rw [here.2] at infeasible
    simp at infeasible
  · rw [passed, Prod.mk.injEq] at here
    rw [here.2] at infeasible
    simp [counted, optimal] at infeasible
  · rw [passed] at here
    simp at here
  · rw [passed] at here
    simp at here

/-- Between a state of a run that passes a test and a later one that fails it, a pass lost it. -/
theorem Boundary.lost {kick : Option (KickStart R)} (holds : Solver R Systems Programs → Prop)
    {again : Bool} {state : Solver R Systems Programs}
    (boundary : solver.Boundary environment kick again state)
    (start : ∀ start, (solver.reset environment).findStart environment kick = (.ok true, start) →
      holds start)
    (fails : ¬ holds state) : ∃ before again after,
      solver.Boundary environment kick true before ∧ OnePass environment before again after ∧
        holds before ∧ ¬ holds after := by
  induction boundary with
  | started found begun => exact absurd (start found begun) fails
  | passed before after again here step ih =>
      by_cases held : holds before
      · exact ⟨before, again, after, here, step, held, fails⟩
      · exact ih held

/-- A step uses up a row that the ratio test leaves out: the slope of the row is small beside the
step, or the row is over its bound already. -/
structure Oversteps (entries : List R) (row : Nat) : Prop where
  answer : solver.systemAnswer environment = some entries
  moves : solver.stands (solver.heading entries) = false
  excluded : row ∈ solver.working.excluded
  rising : 0 < solver.problem.inequalities.bodyOf (solver.heading entries) row
  unseen : solver.solutionTolerance.isSmall (Linear.norm (solver.heading entries))
      (solver.problem.inequalities.bodyOf (solver.heading entries) row) = true ∨
    solver.problem.inequalities.slackOf solver.point row < 0

/-- The step of a pass goes over a row. -/
def OverstepsInPass (before : Solver R Systems Programs) (row : Nat) : Prop :=
  ∃ entries, ((before.overdue environment).2.subproblem environment).Oversteps environment
    entries row

end Pass
end Solver

/-! ### Rows that a pass loses -/

/-- A point passes the test of a solver for a tolerance. -/
def Problem.Holds {R : Type} [Scalar R] (problem : Problem R) (tolerance : Tolerance R)
    (point : List R) : Prop :=
  problem.equalitiesHold tolerance point = true ∧
    ∀ row < problem.inequalities.count, Violation.ofInequality tolerance
      (problem.inequalities.bounds.getD row 0) (problem.inequalities.bodyOf point row) = false

variable {K : Type} [Field K] [LinearOrder K] [IsStrictOrderedRing K] [Rooted K]

/-- Equality rows that hold still do on the way to a point where they are met. -/
theorem Violation.firstEquality_closer (tolerance : Tolerance K) (valid : 0 ≤ tolerance.bound)
    (small : tolerance.bound < 1) (factor : K) (low : 0 ≤ factor) (high : factor ≤ 1)
    (bounds bodies : List K) (held : Violation.firstEquality tolerance bounds bodies = none) :
    Violation.firstEquality tolerance bounds
      (Linear.addScaled factor (Linear.subtract bounds bodies) bodies) = none := by
  simp only [Violation.firstEquality, List.findIdx?_eq_none_iff] at held ⊢
  induction bounds generalizing bodies with
  | nil => simp
  | cons bound bounds ih =>
      cases bodies with
      | nil => simp [Linear.addScaled]
      | cons body bodies =>
          simp only [List.zip_cons_cons, List.forall_mem_cons, Linear.subtract, Linear.addScaled,
            List.zipWith_cons_cons] at held ⊢
          refine ⟨?_, ih bodies held.2⟩
          have share : body + factor * (bound - body) =
              bound + (1 - factor) * (body - bound) := by ring
          simp only [Violation.ofEquality, share]
          exact Exact.isDifferent_closer tolerance valid small bound body (1 - factor)
            (sub_nonneg.mpr high) (sub_le_self 1 low) held.1

namespace DenseSolver.Ready
variable {problem : Problem K} {config : Config K} {elapsed : Nat → K} {solver : DenseSolver K}
variable (ready : Ready problem config solver)

include ready in
/-- The test depends on the point alone. -/
theorem isFeasible_iff_holds :
    solver.isFeasible false = true ↔ problem.Holds ⟨config.slackTolerance⟩ solver.point := by
  have tolerance : solver.slackTolerance = ⟨config.slackTolerance⟩ := by
    rw [Solver.slackTolerance, ready.config_eq]
  obtain rfl := ready.problem_eq
  rw [ready.sized.isFeasible_iff, ready.inequalityCount_eq]
  simp only [Problem.Holds, Solver.violates, tolerance]

include ready in
/-- A row that holds where a step starts, and not where it ends, is overstepped. -/
theorem oversteps_of_violated (valid : config.Nonnegative) (small : config.slackTolerance < 1)
    (entries : List K)
    (answer : solver.systemAnswer (denseEnvironment elapsed) = some entries)
    (moves : solver.stands (solver.heading entries) = false) (row : Nat)
    (bound : row < problem.inequalities.count)
    (held : Violation.ofInequality ⟨config.slackTolerance⟩
      (problem.inequalities.bounds.getD row 0)
      (problem.inequalities.bodyOf solver.point row) = false)
    (violated : Violation.ofInequality ⟨config.slackTolerance⟩
      (problem.inequalities.bounds.getD row 0)
      (problem.inequalities.bodyOf (Linear.addScaled
        (solver.stepLimit (solver.heading entries)).length (solver.heading entries)
          solver.point) row) = true) :
    solver.Oversteps (denseEnvironment elapsed) entries row := by
  have solution := ready.solution valid.pivot entries answer
  obtain ⟨low, high⟩ : 0 ≤ (solver.stepLimit (solver.heading entries)).length ∧
      (solver.stepLimit (solver.heading entries)).length ≤ 1 := RatioTest.length_range _ _
  rw [Constraints.bodyOf_addScaled _ _ _ _ _
    (ready.heading_size valid.pivot entries answer).symm] at violated
  -- A body that does not grow, or stays below its bound, is not violated.
  have grows : ¬ problem.inequalities.bodyOf solver.point row +
      (solver.stepLimit (solver.heading entries)).length *
        problem.inequalities.bodyOf (solver.heading entries) row ≤
          problem.inequalities.bodyOf solver.point row := by
    intro lower
    rw [Violation.ofInequality_closer _ valid.slack small _ _ _ lower held] at violated
    simp at violated
  have exceeds : ¬ problem.inequalities.bodyOf solver.point row +
      (solver.stepLimit (solver.heading entries)).length *
        problem.inequalities.bodyOf (solver.heading entries) row ≤
          problem.inequalities.bounds.getD row 0 := by
    intro within
    rw [Violation.ofInequality_of_le _ _ _ within] at violated
    simp at violated
  have rising : 0 < problem.inequalities.bodyOf (solver.heading entries) row := by
    by_contra falling
    have back := mul_nonpos_of_nonneg_of_nonpos low (not_lt.mp falling)
    exact grows (by linarith)
  by_cases member : row ∈ solver.working.included
  · -- An included row is met by the answer, so its body only comes closer to the bound.
    have tight := solution.slackOf_eq_zero ready.inside row member
    have slope := problem.inequalities.bodyOf_subtract row (entries.take problem.size)
      solver.point (solution.size.trans ready.point_size.symm)
    rw [tight, sub_zero, ← ready.heading_eq, Constraints.slackOf] at slope
    rw [slope] at rising exceeds
    exact absurd (by nlinarith) exceeds
  · have rowsSize := ready.sized.rows.trans ready.inequalityCount_eq
    have excluded : row ∈ solver.working.excluded :=
      (WorkingSet.mem_included_or_excluded solver.working row
        (rowsSize ▸ bound)).resolve_left member
    refine ⟨answer, moves, excluded, ?_, ?_⟩
    · rw [ready.problem_eq]
      exact rising
    · rw [ready.problem_eq]
      by_contra seen
      rw [not_or, Bool.not_eq_true, not_lt] at seen
      have candidate := ready.sized.mem_candidates (solver.heading entries) row excluded
      rw [ready.problem_eq] at candidate
      have within := RatioTest.length_mul_slope_le (⟨solver.slackTolerance,
        solver.solutionTolerance, Linear.norm (solver.heading entries)⟩ : RatioTest K)
        _ _ candidate seen.2 seen.1
      have slack : (solver.stepLimit (solver.heading entries)).length *
          problem.inequalities.bodyOf (solver.heading entries) row ≤
            problem.inequalities.slackOf solver.point row := within
      rw [Constraints.slackOf] at slack
      exact exceeds (by linarith)

include ready in
/-- A round from a point that holds loses only rows it oversteps. -/
theorem landed_holds (valid : config.Nonnegative) (small : config.slackTolerance < 1)
    (held : problem.Holds ⟨config.slackTolerance⟩ solver.point) :
    problem.equalitiesHold ⟨config.slackTolerance⟩
        (solver.landed (denseEnvironment elapsed)).2.point = true ∧
      ∀ row < problem.inequalities.count,
        (Violation.ofInequality ⟨config.slackTolerance⟩ (problem.inequalities.bounds.getD row 0)
          (problem.inequalities.bodyOf (solver.landed (denseEnvironment elapsed)).2.point row)) =
            true →
        ∃ entries, solver.Oversteps (denseEnvironment elapsed) entries row := by
  obtain ⟨equalities, rows⟩ := held
  rcases ready.landed_point valid.pivot with ⟨stayed, _⟩ | ⟨entries, answer, moves, moved, _⟩
  · rw [stayed]
    refine ⟨equalities, ?_⟩
    intro row bound violated
    rw [rows row bound] at violated
    simp at violated
  · rw [moved]
    constructor
    · have solution := ready.solution valid.pivot entries answer
      have fits := ready.heading_size valid.pivot entries answer
      have range := RatioTest.length_range (⟨solver.slackTolerance, solver.solutionTolerance,
        Linear.norm (solver.heading entries)⟩ : RatioTest K)
          (solver.candidates (solver.heading entries))
      have reached := (solution.rows_hold problem solver.working.included).1
      simp only [Problem.equalitiesHold, Option.isNone_iff_eq_none] at equalities ⊢
      rw [Linear.apply_addScaled _ _ _ _ fits.symm, ready.heading_eq,
        Linear.apply_subtract _ _ _ (solution.size.trans ready.point_size.symm), reached]
      rw [ready.heading_eq] at range
      exact Violation.firstEquality_closer _ valid.slack small _ range.1 range.2 _ _ equalities
    · intro row bound violated
      exact ⟨entries, ready.oversteps_of_violated valid small entries answer moves row bound
        (rows row bound) violated⟩

end DenseSolver.Ready

/-! ### Passes and starts -/

namespace DenseSolver.Ready
variable {problem : Problem K} {config : Config K} {elapsed : Nat → K}
variable {before after : DenseSolver K} {again : Bool} (ready : Ready problem config before)
variable (step : Solver.OnePass (denseEnvironment elapsed) before again after)

include ready in
/-- The decisive round of a pass passes the test just if the pass starts where it is passed. -/
theorem subproblem_isFeasible_iff :
    ((before.overdue (denseEnvironment elapsed)).2.subproblem
      (denseEnvironment elapsed)).isFeasible false = true ↔ before.isFeasible false = true := by
  obtain ⟨clockReadings, looking⟩ := Solver.overdue_frame (denseEnvironment elapsed) before
  have decisive := (ready.looked elapsed).subproblem elapsed
  have stood : ((before.overdue (denseEnvironment elapsed)).2.subproblem
      (denseEnvironment elapsed)).point = before.point := by
    rw [Solver.subproblem_point, looking]
    rfl
  rw [decisive.isFeasible_iff_holds, ready.isFeasible_iff_holds, stood]

include ready step in
/-- A pass that loses the test oversteps a row, and this row looks violated. -/
theorem pass_lost (valid : config.Nonnegative) (small : config.slackTolerance < 1)
    (held : before.isFeasible false = true) (lost : ¬ after.isFeasible false = true) :
    ∃ row, before.OverstepsInPass (denseEnvironment elapsed) row ∧
      after.violates after.point row = true := by
  have decisive := (ready.looked elapsed).subproblem elapsed
  have later := (ready.looked elapsed).passed step.passed
  obtain ⟨equalities, rows⟩ := landed_holds decisive valid small
    (decisive.isFeasible_iff_holds.mp (ready.subproblem_isFeasible_iff.mpr held))
  by_contra never
  apply lost
  rw [later.isFeasible_iff_holds, pass_point _ _ _ _ step.passed]
  refine ⟨equalities, ?_⟩
  intro row bound
  by_contra violated
  rw [Bool.not_eq_false] at violated
  refine never ⟨row, rows row bound violated, ?_⟩
  have tolerance : after.slackTolerance = ⟨config.slackTolerance⟩ := by
    rw [Solver.slackTolerance, later.config_eq]
  rw [Solver.violates, tolerance, pass_point _ _ _ _ step.passed]
  obtain rfl := later.problem_eq
  exact violated

end DenseSolver.Ready

namespace DenseSolver.Ready
variable {problem : Problem K} {config : Config K} {elapsed : Nat → K} {solver : DenseSolver K}
variable (ready : Ready problem config solver) (kick : Option (KickStart K))
variable (trusted : ∀ given, solver.Searches kick given →
  PhaseOne.Trusted ProgramSource.solve solver.problem solver.programOptions
    (PhaseOne.hint solver.problem given) solver.programs)

include ready trusted in
/-- A start that is found passes the test of the solver. -/
theorem isFeasible_of_start (start : DenseSolver K)
    (begun : solver.findStart (denseEnvironment elapsed) kick = (.ok true, start)) :
    start.isFeasible false = true := by
  have step := Solver.findStart_follows (denseEnvironment elapsed) solver kick
  rw [begun] at step
  have later := ready.follows step
  rcases Solver.findStart_cases (denseEnvironment elapsed) solver kick with
    ⟨cause, refused, failed⟩ | ⟨given, searches⟩ |
    ⟨entries, held, multipliers, working, systems, notes, taken⟩
  · rw [begun] at failed
    simp at failed
  · obtain ⟨answers, after, _, settled | ⟨_, cause, refused, failed⟩⟩ :=
      Solver.findStart_settled (denseEnvironment elapsed) ready.sized searches
        (trusted given searches)
    · obtain ⟨found, next, same, _, _, _, feasible⟩ := settled
      rw [begun] at same
      simp only [Prod.mk.injEq, Except.ok.injEq] at same
      obtain ⟨rfl, rfl⟩ := same
      apply later.isFeasible_of_feasible
      rw [← ready.problem_eq]
      exact feasible rfl
    · rw [begun] at failed
      simp at failed
  · have emptied : Solver.Follows (denseEnvironment elapsed) solver
        { solver with working := solver.working.clear } :=
      { (Solver.Follows.refl solver : Solver.Follows (denseEnvironment elapsed) solver solver) with
        rows := WorkingSet.size_clear solver.working }
    have placed : Ready problem config (solver.placed entries) :=
      ready.follows (emptied.trans (Solver.setPoint_follows (denseEnvironment elapsed) _ entries))
    rw [begun] at taken
    simp only [Prod.mk.injEq, true_and] at taken
    rw [later.isFeasible_iff_holds, taken]
    exact placed.isFeasible_iff_holds.mp held

include ready trusted in
/-- A start that ends as infeasible is right. -/
theorem infeasible_of_start (stopped : DenseSolver K)
    (begun : solver.findStart (denseEnvironment elapsed) kick = (.ok false, stopped))
    (infeasible : stopped.verdict = .infeasible) (point : List K) : ¬ problem.Feasible point := by
  rcases Solver.findStart_cases (denseEnvironment elapsed) solver kick with
    ⟨cause, refused, failed⟩ | ⟨given, searches⟩ |
    ⟨entries, held, multipliers, working, systems, notes, taken⟩
  · rw [begun] at failed
    simp at failed
  · obtain ⟨answers, after, exchange, settled | ⟨_, cause, refused, failed⟩⟩ :=
      Solver.findStart_settled (denseEnvironment elapsed) ready.sized searches
        (trusted given searches)
    · obtain ⟨found, next, same, _, verdict, _, _⟩ := settled
      rw [begun] at same
      simp only [Prod.mk.injEq, Except.ok.injEq] at same
      obtain ⟨rfl, rfl⟩ := same
      rw [← ready.problem_eq]
      apply exchange.infeasible searches.length (trusted given searches)
      exact (Solver.verdictAfter_eq_iff answers).2.mp (verdict.symm.trans infeasible)
    · rw [begun] at failed
      simp at failed
  · rw [begun] at taken
    simp at taken

end DenseSolver.Ready

/-! ### Runs -/

section Runs
variable {problem : Problem K} {config : Config K} {method : ProgramMethod K}
variable {session : Session K (DenseSystems K) (ProgramSource K)}

/-- With sound answers a run ends as infeasible only if no point is feasible, unless a pass lost
the point of the run: the start passed the test, and the last pass had no answer, gave up every row
and failed the test. Then a pass left the feasible set over a row whose slope it took for small, if
the start was feasible; and for any start, a pass lost the test over a row that the ratio test
leaves out, if the tolerance for slacks is less than one. -/
theorem infeasible_sound (reached : Session.Reached problem config method session)
    (opened : session.solver.isReleased = false) (valid : config.Nonnegative) (elapsed : Nat → K)
    (budget : Nat) (kick : Option (KickStart K)) (result : Result K)
    (trusted : ∀ given,
      (session.solver.reset (denseEnvironment elapsed)).Searches kick given →
      PhaseOne.Trusted ProgramSource.solve problem session.solver.programOptions
        (PhaseOne.hint problem given) session.solver.programs)
    (answered : (session.solver.solve (denseEnvironment elapsed) budget kick).1 =
      .ok (some result))
    (infeasible : result.verdict = .infeasible) :
    (∀ point, ¬ problem.Feasible point) ∨
    ∃ start before ended,
      (session.solver.reset (denseEnvironment elapsed)).findStart (denseEnvironment elapsed) kick =
        (.ok true, start) ∧ start.isFeasible false = true ∧
      session.solver.Boundary (denseEnvironment elapsed) kick true before ∧
      Solver.OnePass (denseEnvironment elapsed) before false ended ∧ result = ended.result ∧
      ((before.overdue (denseEnvironment elapsed)).2.subproblem
        (denseEnvironment elapsed)).systemAnswer (denseEnvironment elapsed) = none ∧
      ((before.overdue (denseEnvironment elapsed)).2.subproblem
        (denseEnvironment elapsed)).working.included = [] ∧
      before.isFeasible false = false ∧
      (problem.Feasible start.point → ∃ passed again next row,
        session.solver.Boundary (denseEnvironment elapsed) kick true passed ∧
        Solver.OnePass (denseEnvironment elapsed) passed again next ∧
        problem.Feasible passed.point ∧ ¬ problem.Feasible next.point ∧
        passed.OverlooksInPass (denseEnvironment elapsed) row) ∧
      (config.slackTolerance < 1 → ∃ passed again next row,
        session.solver.Boundary (denseEnvironment elapsed) kick true passed ∧
        Solver.OnePass (denseEnvironment elapsed) passed again next ∧
        passed.isFeasible false = true ∧ next.isFeasible false = false ∧
        passed.OverstepsInPass (denseEnvironment elapsed) row ∧
        next.violates next.point row = true) := by
  have opening := reached.kept.ready opened
  have reset := opening.follows (Solver.reset_follows (denseEnvironment elapsed) session.solver)
  have trusted : ∀ given, (session.solver.reset (denseEnvironment elapsed)).Searches kick given →
      PhaseOne.Trusted ProgramSource.solve
        (session.solver.reset (denseEnvironment elapsed)).problem
        (session.solver.reset (denseEnvironment elapsed)).programOptions
        (PhaseOne.hint (session.solver.reset (denseEnvironment elapsed)).problem given)
        (session.solver.reset (denseEnvironment elapsed)).programs := by
    intro given searches
    rw [reset.problem_eq]
    exact trusted given searches
  rcases Solver.solve_decided (denseEnvironment elapsed) session.solver budget kick result answered
      (by simp [infeasible]) with
    ⟨stopped, begun, same⟩ | ⟨start, before, ended, begun, here, step, same⟩
  · left
    rw [same] at infeasible
    exact reset.infeasible_of_start kick trusted stopped begun infeasible
  · right
    have accepted := reset.isFeasible_of_start kick trusted start begun
    have ready := opening.boundary kick true here
    rw [same] at infeasible
    obtain ⟨unsolved, empty, fails, _⟩ :=
      Solver.pass_infeasible (denseEnvironment elapsed) _ ended step.passed infeasible
    have lost : ¬ before.isFeasible false = true := by
      rw [← ready.subproblem_isFeasible_iff, fails]
      simp
    refine ⟨start, before, ended, begun, accepted, here, step, same, unsolved, empty,
      Bool.eq_false_iff.mpr lost, ?_, ?_⟩
    · intro feasible
      obtain ⟨passed, again, next, there, pass, inside, outside⟩ := here.lost
        (denseEnvironment elapsed) session.solver (fun state => problem.Feasible state.point)
        (by
          intro other found
          rw [begun] at found
          simp only [Prod.mk.injEq, true_and] at found
          exact found ▸ feasible)
        (fun inside => lost (ready.isFeasible_of_feasible inside))
      have overlooked := mt
        ((opening.boundary kick true there).pass_feasible_iff pass valid.pivot inside).mpr outside
      simp only [not_forall, not_not] at overlooked
      obtain ⟨row, overlooked⟩ := overlooked
      exact ⟨passed, again, next, row, there, pass, inside, outside, overlooked⟩
    · intro small
      obtain ⟨passed, again, next, there, pass, held, failed⟩ := here.lost
        (denseEnvironment elapsed) session.solver (fun state => state.isFeasible false = true)
        (by
          intro other found
          rw [begun] at found
          simp only [Prod.mk.injEq, true_and] at found
          exact found ▸ accepted)
        lost
      obtain ⟨row, overstepped, violated⟩ :=
        (opening.boundary kick true there).pass_lost pass valid small held failed
      exact ⟨passed, again, next, row, there, pass, held, Bool.eq_false_iff.mpr failed,
        overstepped, violated⟩

end Runs

/-! ### A wall with a small slope -/

/-- Half of `x²` less `10⁶ x`, and `y`, where `10⁻¹¹ x` is not more than `10⁻⁷` and `y` lies
between minus one and zero. -/
def faintWall : Problem ℚ where
  size := 2
  quadratic := [[1, 0], [0, 0]]
  linear := [1000000, -1]
  equalities := Constraints.none
  inequalities := ⟨[[0, 1], [1e-11, 0], [0, -1]], [0, 1e-7, 1], by decide +kernel, rfl⟩
  size_pos := Nat.zero_lt_two
  quadratic_height := rfl
  quadratic_width := by decide +kernel
  linear_length := rfl

theorem faintWall_feasible : faintWall.Feasible [0, 0] :=
  ⟨rfl, rfl, .cons (by decide +kernel) (.cons (by decide +kernel) (.cons (by decide +kernel) .nil))⟩

/-- No answer is prepared, so none is wrong. -/
theorem faintWall_trusted (given : Option (List ℚ)) :
    PhaseOne.Trusted ProgramSource.solve faintWall (freshSession faintWall).solver.programOptions
      (PhaseOne.hint faintWall given) (freshSession faintWall).solver.programs := by
  have silent (program : LinearProgram ℚ) : program.Sound ProgramSource.exhausted := by
    refine ⟨?_, ?_⟩ <;> intro code <;> simp [ProgramSource.exhausted] at code
  exact ⟨silent _, silent _⟩

theorem faintWall_start : ∃ start, ((freshSession faintWall).solver.reset
    (denseEnvironment stoppedClock)).findStart (denseEnvironment stoppedClock)
      (some (.point [0, 0])) = (.ok true, start) ∧ faintWall.Feasible start.point := by
  let found := ((freshSession faintWall).solver.reset
    (denseEnvironment stoppedClock)).findStart (denseEnvironment stoppedClock)
      (some (.point [0, 0]))
  have accepted : found.1.toOption = some true ∧ found.2.point = [0, 0] := by
    decide +kernel
  obtain ⟨started, point⟩ := accepted
  refine ⟨found.2, Prod.ext (ok_of_toOption found.1 true started) rfl, ?_⟩
  rw [point]
  exact faintWall_feasible

theorem faintWall_solve : ((freshSession faintWall).solver.solve (denseEnvironment stoppedClock) 3
    (some (.point [0, 0]))).1.toOption =
      some (some ⟨.infeasible, [1000000, 0], -500000000000, 1, [], [0, 0, 0]⟩) := by
  decide +kernel

theorem infeasible_sound_faintWall : ∃ passed row,
    (freshSession faintWall).solver.Boundary (denseEnvironment stoppedClock)
      (some (.point [0, 0])) true passed ∧
      passed.OverlooksInPass (denseEnvironment stoppedClock) row := by
  obtain ⟨start, begun, feasible⟩ := faintWall_start
  rcases infeasible_sound (freshSession_reached faintWall) rfl plainConfig_nonnegative stoppedClock
      3 (some (.point [0, 0])) _ (fun given _ => faintWall_trusted given)
      (ok_of_toOption _ _ faintWall_solve) rfl with
    none | ⟨other, _, _, found, _, _, _, _, _, _, _, left, _⟩
  · exact absurd faintWall_feasible (none [0, 0])
  · rw [begun] at found
    simp only [Prod.mk.injEq, true_and] at found
    obtain ⟨passed, _, _, row, boundary, _, _, _, overlooked⟩ := left (found ▸ feasible)
    exact ⟨passed, row, boundary, overlooked⟩

/-- A run from a feasible point ends as infeasible. -/
theorem faintWall_ends_infeasible :
    plainConfig.slackTolerance < 1 ∧
      (∀ given, PhaseOne.Trusted ProgramSource.solve faintWall
        (freshSession faintWall).solver.programOptions (PhaseOne.hint faintWall given)
        (freshSession faintWall).solver.programs) ∧
      (∃ start, ((freshSession faintWall).solver.reset
        (denseEnvironment stoppedClock)).findStart (denseEnvironment stoppedClock)
          (some (.point [0, 0])) = (.ok true, start) ∧ faintWall.Feasible start.point) ∧
      ((freshSession faintWall).solver.solve (denseEnvironment stoppedClock) 3
        (some (.point [0, 0]))).1.toOption =
          some (some ⟨.infeasible, [1000000, 0], -500000000000, 1, [], [0, 0, 0]⟩) :=
  ⟨by decide +kernel, faintWall_trusted, faintWall_start, faintWall_solve⟩

end ConvexQP
