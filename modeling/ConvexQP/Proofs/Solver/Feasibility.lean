import ConvexQP.Proofs.Exact.Steps
import ConvexQP.Proofs.Scan.Violation
import ConvexQP.Proofs.Solver.Exact

/-!
Feasible runs. The ratio test leaves out a row whose slope is small beside the step, however far
the step goes. From a feasible point a pass leaves the feasible set just by a step beyond such a
row, so a run that starts at a feasible point stays feasible until a pass overlooks a row.
-/
namespace ConvexQP
open scoped Exact

/-! ### The test of the solver -/

namespace Solver
variable {R Systems Programs : Type} [Scalar R]

/-- A row looks violated at a point, beyond the tolerance for slacks. -/
def violates (solver : Solver R Systems Programs) (point : List R) (row : Nat) : Bool :=
  Violation.ofInequality solver.slackTolerance
    (solver.problem.inequalities.bounds.getD row 0)
    (solver.problem.inequalities.bodyOf point row)

theorem firstInequality_eq_none_iff (tolerance : Tolerance R) (bounds bodies : List R) :
    Violation.firstInequality tolerance bounds bodies = none ↔
      ∀ pair ∈ bounds.zip bodies, Violation.ofInequality tolerance pair.1 pair.2 = false := by
  unfold Violation.firstInequality
  rw [List.findIdx?_eq_none_iff]

theorem inequalitiesHold_iff (problem : Problem R) (tolerance : Tolerance R) (point : List R)
    (rows : List Nat) (inside : ∀ row ∈ rows, row < problem.inequalities.count) :
    problem.inequalitiesHold tolerance point rows = true ↔
      ∀ row ∈ rows, Violation.ofInequality tolerance (problem.inequalities.bounds.getD row 0)
        (problem.inequalities.bodyOf point row) = false := by
  unfold Problem.inequalitiesHold
  rw [Option.isNone_iff_eq_none, firstInequality_eq_none_iff,
    Constraints.apply_rowsAt _ _ _ inside, Constraints.boundsAt_eq_map _ _ inside]
  simp [List.zip_map']

/-- The test looks at every row, whichever side it is on. -/
theorem Sized.isFeasible_iff {solver : Solver R Systems Programs} (sized : Sized solver) :
    solver.isFeasible false = true ↔
      solver.problem.equalitiesHold solver.slackTolerance solver.point = true ∧
        ∀ row < solver.inequalityCount, solver.violates solver.point row = false := by
  unfold isFeasible
  simp only [Bool.false_or, Bool.and_eq_true]
  rw [inequalitiesHold_iff _ _ _ _ sized.inside, inequalitiesHold_iff _ _ _ _ sized.outside]
  constructor
  · rintro ⟨⟨equalities, included⟩, excluded⟩
    refine ⟨equalities, ?_⟩
    intro row bound
    rw [← sized.rows] at bound
    -- The two scans together look at each row once.
    rcases WorkingSet.mem_included_or_excluded solver.working row bound with member | member
    · exact included row member
    · exact excluded row member
  · rintro ⟨equalities, rows⟩
    exact ⟨⟨equalities, fun row member => rows row (sized.inside row member)⟩,
      fun row member => rows row (sized.outside row member)⟩

/-! ### Overlooked rows -/

/-- A step overlooks a row: the slope of the row is small beside the step, and the step uses up
more of the row than is left. -/
structure Overlooks (environment : Environment R Systems Programs)
    (solver : Solver R Systems Programs) (entries : List R) (row : Nat) : Prop where
  answer : solver.systemAnswer environment = some entries
  moves : solver.stands (solver.heading entries) = false
  excluded : row ∈ solver.working.excluded
  small : solver.solutionTolerance.isSmall (Linear.norm (solver.heading entries))
    (solver.problem.inequalities.bodyOf (solver.heading entries) row) = true
  beyond : solver.problem.inequalities.slackOf solver.point row <
    (solver.stepLimit (solver.heading entries)).length *
      solver.problem.inequalities.bodyOf (solver.heading entries) row

/-- The step of a pass overlooks a row. -/
def OverlooksInPass (environment : Environment R Systems Programs)
    (before : Solver R Systems Programs) (row : Nat) : Prop :=
  ∃ entries, ((before.overdue environment).2.subproblem environment).Overlooks environment
    entries row

theorem Sized.candidates_eq {solver : Solver R Systems Programs} (sized : Sized solver)
    (direction : List R) : solver.candidates direction = solver.working.excluded.map fun row =>
      ⟨solver.problem.inequalities.slackOf solver.point row,
        solver.problem.inequalities.bodyOf direction row, row⟩ := by
  unfold candidates
  simp only
  rw [Constraints.slackAt_eq_map _ _ _ sized.outside, Constraints.apply_rowsAt _ _ _ sized.outside,
    List.zip_map', List.zipWith_map_left, List.zipWith_self]

theorem Sized.mem_candidates {solver : Solver R Systems Programs} (sized : Sized solver)
    (direction : List R) (row : Nat) (member : row ∈ solver.working.excluded) :
    (⟨solver.problem.inequalities.slackOf solver.point row,
      solver.problem.inequalities.bodyOf direction row, row⟩ : Candidate R Nat) ∈
        solver.candidates direction := by
  rw [sized.candidates_eq]
  exact List.mem_map_of_mem member

/-- A row stops a step only if the step uses it up. -/
theorem Sized.bodyOf_blocking_pos {solver : Solver R Systems Programs} (sized : Sized solver)
    (direction : List R) (row : Nat)
    (blocked : (solver.stepLimit direction).blocking = some row) :
    0 < solver.problem.inequalities.bodyOf direction row := by
  unfold stepLimit at blocked
  rcases RatioTest.run_cases
      ⟨solver.slackTolerance, solver.solutionTolerance, Linear.norm direction⟩
      (solver.candidates direction) with whole | ⟨candidate, member, stopped, ahead, _⟩
  · rw [whole] at blocked
    simp at blocked
  · rw [stopped, Option.some.injEq] at blocked
    rw [sized.candidates_eq] at member
    obtain ⟨other, _, rfl⟩ := List.mem_map.mp member
    rw [← blocked]
    exact of_decide_eq_true (Bool.and_eq_true_iff.mp ahead).1

end Solver

variable {K : Type} [Field K] [LinearOrder K] [IsStrictOrderedRing K] [Rooted K]

theorem Problem.equalitiesHold_of_eq {problem : Problem K} {point : List K}
    (equalities : Linear.apply problem.equalities.rows point = problem.equalities.bounds)
    (tolerance : Tolerance K) : problem.equalitiesHold tolerance point = true := by
  unfold Problem.equalitiesHold Violation.firstEquality
  rw [equalities, Option.isNone_iff_eq_none, List.findIdx?_eq_none_iff]
  intro pair member
  rw [List.zip_eq_zipWith, List.zipWith_self] at member
  obtain ⟨value, _, rfl⟩ := List.mem_map.mp member
  exact Exact.isDifferent_self tolerance value

namespace DenseSolver.Ready
variable {problem : Problem K} {config : Config K} {elapsed : Nat → K} {solver : DenseSolver K}
variable (ready : Ready problem config solver)

include ready in
/-- A feasible point passes the test of the solver. -/
theorem isFeasible_of_feasible (feasible : problem.Feasible solver.point) :
    solver.isFeasible false = true := by
  rw [ready.sized.isFeasible_iff, ready.problem_eq]
  refine ⟨Problem.equalitiesHold_of_eq feasible.equalities _, ?_⟩
  intro row bound
  rw [ready.inequalityCount_eq] at bound
  unfold Solver.violates
  rw [ready.problem_eq]
  exact Violation.ofInequality_of_le _ _ _ (feasible.body_le problem _ row bound)

include ready in
/-- A row that is not overlooked has slack for the step. -/
theorem overlooks_iff (entries : List K)
    (answer : solver.systemAnswer (denseEnvironment elapsed) = some entries)
    (moves : solver.stands (solver.heading entries) = false)
    (feasible : problem.Feasible solver.point) (row : Nat)
    (bound : row < problem.inequalities.count) (absent : row ∉ solver.working.included) :
    solver.Overlooks (denseEnvironment elapsed) entries row ↔
      ¬ (solver.stepLimit (solver.heading entries)).length *
          problem.inequalities.bodyOf (solver.heading entries) row ≤
        problem.inequalities.slackOf solver.point row := by
  have rows := ready.sized.rows.trans ready.inequalityCount_eq
  have excluded : row ∈ solver.working.excluded :=
    (WorkingSet.mem_included_or_excluded solver.working row (rows ▸ bound)).resolve_left absent
  constructor
  · intro overlooked
    have beyond := overlooked.beyond
    rw [ready.problem_eq] at beyond
    exact not_le.mpr beyond
  · intro beyond
    have member := ready.sized.mem_candidates (solver.heading entries) row excluded
    rw [ready.problem_eq] at member
    have slack := ((problem.feasible_iff solver.point).mp feasible).2.2 row bound
    refine ⟨answer, moves, excluded, ?_, ?_⟩
    · rw [ready.problem_eq]
      -- A row the ratio test sees stops the step where it is used up, at the latest.
      by_contra seen
      rw [Bool.not_eq_true] at seen
      exact beyond (RatioTest.length_mul_slope_le _ _ _ member slack seen)
    · rw [ready.problem_eq]
      exact not_le.mp beyond

include ready in
/-- From a feasible point a round lands where the equality rows hold, and the other rows hold but
for those it overlooks. -/
theorem landed_rows (valid : 0 ≤ config.pivotTolerance) (feasible : problem.Feasible solver.point) :
    (solver.landed (denseEnvironment elapsed)).2.point.length = problem.size ∧
      Linear.apply problem.equalities.rows (solver.landed (denseEnvironment elapsed)).2.point =
        problem.equalities.bounds ∧
      ∀ row < problem.inequalities.count,
        0 ≤ problem.inequalities.slackOf (solver.landed (denseEnvironment elapsed)).2.point row ↔
          ¬ ∃ entries, solver.Overlooks (denseEnvironment elapsed) entries row := by
  obtain ⟨size, equalities, slacks⟩ := (problem.feasible_iff solver.point).mp feasible
  rcases ready.landed_point valid with ⟨stayed, short⟩ |
    ⟨entries, answer, moves, moved, _⟩
  · rw [stayed]
    refine ⟨size, equalities, ?_⟩
    intro row bound
    refine ⟨fun _ => ?_, fun _ => slacks row bound⟩
    rintro ⟨entries, overlooked⟩
    have stands := short entries overlooked.answer
    rw [overlooked.moves] at stands
    simp at stands
  · have inside := ready.inside
    have solution := ready.solution valid entries answer
    have heading := ready.heading_eq entries
    have fits := (ready.heading_size valid entries answer).symm
    have limit := RatioTest.length_range (⟨solver.slackTolerance, solver.solutionTolerance,
      Linear.norm (solver.heading entries)⟩ : RatioTest K)
        (solver.candidates (solver.heading entries))
    have kept := solution.equalities_of_step solver.point feasible
      (solver.stepLimit (solver.heading entries)).length
    have tight := solution.slackOf_step_nonneg solver.point feasible
      (solver.stepLimit (solver.heading entries)).length inside limit.2
    rw [← heading] at kept tight
    rw [moved]
    refine ⟨by rw [Linear.length_addScaled, ← fits, Nat.min_self, size], kept, ?_⟩
    intro row bound
    -- Included rows are tight at the answer, so on the way to it they lose no more than they have.
    by_cases member : row ∈ solver.working.included
    · refine ⟨fun _ => ?_, fun _ => tight row member⟩
      rintro ⟨other, overlooked⟩
      exact WorkingSet.not_mem_included_of_excluded _ row overlooked.excluded member
    · have overlooks := ready.overlooks_iff entries answer moves feasible row bound member
      rw [Constraints.slackOf_addScaled _ _ _ _ _ fits, sub_nonneg]
      constructor
      · rintro enough ⟨other, overlooked⟩
        obtain rfl : entries = other := Option.some.inj (answer.symm.trans overlooked.answer)
        exact overlooks.mp overlooked enough
      · intro never
        by_contra beyond
        exact never ⟨entries, overlooks.mpr beyond⟩

end DenseSolver.Ready

/-! ### Passes -/

theorem pass_point (environment : Environment K (DenseSystems K) (ProgramSource K))
    (solver next : DenseSolver K) (again : Bool)
    (passed : solver.pass environment = (again, next)) :
    next.point = (solver.landing environment).2.point := by
  rcases Solver.pass_cases environment solver with ⟨_, notes, printed, here⟩ | ⟨infinite, _⟩ |
    ⟨_, notes, printed, here⟩ | ⟨row, _, notes, printed, here⟩ | ⟨row, _, _, notes, printed, here⟩
  case inr.inl =>
    simp only [Solver.allFinite, Exact.allFinite] at infinite
    simp at infinite
  all_goals
    rw [passed, Prod.mk.injEq] at here
    rw [here.2]
    rfl

namespace DenseSolver.Ready
variable {problem : Problem K} {config : Config K} {elapsed : Nat → K}

theorem boundary {solver state : DenseSolver K} (ready : Ready problem config solver)
    (kick : Option (KickStart K)) (again : Bool)
    (boundary : solver.Boundary (denseEnvironment elapsed) kick again state) :
    Ready problem config state := by
  induction boundary with
  | started start begun => exact ready.started kick begun
  | passed before after again _ step ih => exact (ih.looked elapsed).passed step.passed

variable {before after : DenseSolver K} {again : Bool} (ready : Ready problem config before)

include ready in
theorem lt_count_of_overlooks (row : Nat)
    (overlooked : before.OverlooksInPass (denseEnvironment elapsed) row) :
    row < problem.inequalities.count := by
  obtain ⟨entries, overlooked⟩ := overlooked
  have decisive := (ready.looked elapsed).subproblem elapsed
  have bound := decisive.sized.outside row overlooked.excluded
  rwa [decisive.problem_eq] at bound

variable (step : Solver.OnePass (denseEnvironment elapsed) before again after)

include ready step in
theorem pass_rows (valid : 0 ≤ config.pivotTolerance) (feasible : problem.Feasible before.point) :
    after.point.length = problem.size ∧
      Linear.apply problem.equalities.rows after.point = problem.equalities.bounds ∧
      ∀ row < problem.inequalities.count, 0 ≤ problem.inequalities.slackOf after.point row ↔
        ¬ before.OverlooksInPass (denseEnvironment elapsed) row := by
  obtain ⟨clockReadings, looking⟩ := Solver.overdue_frame (denseEnvironment elapsed) before
  have here : (before.overdue (denseEnvironment elapsed)).2.point = before.point := by
    rw [looking]
    rfl
  have start := Solver.subproblem_point (denseEnvironment elapsed)
    (before.overdue (denseEnvironment elapsed)).2
  have decisive := (ready.looked elapsed).subproblem elapsed
  rw [pass_point _ _ _ _ step.passed]
  exact decisive.landed_rows valid (by rw [start, here]; exact feasible)

include ready step in
theorem pass_feasible_iff (valid : 0 ≤ config.pivotTolerance)
    (feasible : problem.Feasible before.point) :
    problem.Feasible after.point ↔
      ∀ row, ¬ before.OverlooksInPass (denseEnvironment elapsed) row := by
  obtain ⟨size, equalities, rows⟩ := ready.pass_rows step valid feasible
  rw [Problem.feasible_iff]
  constructor
  · rintro ⟨_, _, slacks⟩ row overlooked
    have bound := ready.lt_count_of_overlooks row overlooked
    exact (rows row bound).mp (slacks row bound) overlooked
  · intro never
    exact ⟨size, equalities, fun row bound => (rows row bound).mpr (never row)⟩

include ready step in
/-- A pass from a feasible point passes the test of the solver just if no row it overlooks looks
violated. -/
theorem pass_isFeasible_iff (valid : 0 ≤ config.pivotTolerance)
    (feasible : problem.Feasible before.point) :
    after.isFeasible false = true ↔ ∀ row,
      before.OverlooksInPass (denseEnvironment elapsed) row →
        after.violates after.point row = false := by
  obtain ⟨_, equalities, rows⟩ := ready.pass_rows step valid feasible
  have later := (ready.looked elapsed).passed step.passed
  rw [later.sized.isFeasible_iff, later.inequalityCount_eq, later.problem_eq]
  constructor
  · rintro ⟨_, kept⟩ row overlooked
    exact kept row (ready.lt_count_of_overlooks row overlooked)
  · intro kept
    refine ⟨Problem.equalitiesHold_of_eq equalities _, ?_⟩
    intro row bound
    by_cases overlooked : before.OverlooksInPass (denseEnvironment elapsed) row
    · exact kept row overlooked
    · have slack := (rows row bound).mpr overlooked
      unfold Solver.violates
      rw [later.problem_eq]
      exact Violation.ofInequality_of_le _ _ _ (sub_nonneg.mp slack)

end DenseSolver.Ready

/-! ### Runs -/

section Runs
variable {problem : Problem K} {config : Config K} {method : ProgramMethod K}
variable {session : Session K (DenseSystems K) (ProgramSource K)}

/-- A run that starts at a feasible point stays feasible, and passes its own test, just as long as
no pass overlooks a row; the pass that does leaves the feasible set, and fails the test if such a
row looks violated. -/
theorem run_feasible (reached : Session.Reached problem config method session)
    (opened : session.solver.isReleased = false) (valid : config.Nonnegative) (elapsed : Nat → K)
    (kick : Option (KickStart K)) (start : DenseSolver K)
    (begun : (session.solver.reset (denseEnvironment elapsed)).findStart (denseEnvironment elapsed)
      kick = (.ok true, start))
    (feasible : problem.Feasible start.point) :
    ((∀ again state, session.solver.Boundary (denseEnvironment elapsed) kick again state →
        problem.Feasible state.point ∧ state.isFeasible false = true) ↔
      ∀ before after again, session.solver.Boundary (denseEnvironment elapsed) kick true before →
        Solver.OnePass (denseEnvironment elapsed) before again after →
        ∀ row, ¬ before.OverlooksInPass (denseEnvironment elapsed) row) ∧
    ∀ before after again, session.solver.Boundary (denseEnvironment elapsed) kick true before →
      Solver.OnePass (denseEnvironment elapsed) before again after →
      problem.Feasible before.point →
      (problem.Feasible after.point ↔
        ∀ row, ¬ before.OverlooksInPass (denseEnvironment elapsed) row) ∧
      (after.isFeasible false = true ↔ ∀ row,
        before.OverlooksInPass (denseEnvironment elapsed) row →
          after.violates after.point row = false) := by
  have opening := reached.kept.ready opened
  have single (before after : DenseSolver K) (again : Bool)
      (here : session.solver.Boundary (denseEnvironment elapsed) kick true before)
      (step : Solver.OnePass (denseEnvironment elapsed) before again after)
      (inside : problem.Feasible before.point) :=
    And.intro ((opening.boundary kick true here).pass_feasible_iff step valid.pivot inside)
      ((opening.boundary kick true here).pass_isFeasible_iff step valid.pivot inside)
  refine ⟨⟨?_, ?_⟩, single⟩
  · intro always before after again here step
    exact (single before after again here step (always true before here).1).1.mp
      (always again after (.passed before after again here step)).1
  · intro never again state boundary
    -- By induction over the passes; the next one may use that its start is feasible.
    have stays : problem.Feasible state.point := by
      induction boundary with
      | started other found =>
          rw [begun] at found
          simp only [Prod.mk.injEq, true_and] at found
          exact found ▸ feasible
      | passed before after again here step ih =>
          exact (single before after again here step ih).1.mpr
            (never before after again here step)
    exact ⟨stays, (opening.boundary kick again boundary).isFeasible_of_feasible stays⟩

end Runs

/-! ### A row with a small slope -/

/-- Half of `x²` less `10⁶ x`, where `10⁻¹¹ x` is not more than `10⁻⁷`. -/
def faintRow : Problem ℚ := line 1 1000000 1e-11 1e-7

theorem faintRow_feasible : faintRow.Feasible [0] :=
  ⟨rfl, rfl, .cons (by decide +kernel) .nil⟩

theorem faintRow_start : ∃ start again next, ((freshSession faintRow).solver.reset
    (denseEnvironment stoppedClock)).findStart (denseEnvironment stoppedClock)
      (some (.point [0])) = (.ok true, start) ∧ start.point = [0] ∧
        Solver.OnePass (denseEnvironment stoppedClock) start again next ∧
        next.point = [1000000] := by
  let found := ((freshSession faintRow).solver.reset
    (denseEnvironment stoppedClock)).findStart (denseEnvironment stoppedClock) (some (.point [0]))
  have accepted : found.1.toOption = some true ∧ found.2.point = [0] ∧
      (found.2.overdue (denseEnvironment stoppedClock)).1 = none ∧ found.2.iterations = 0 ∧
      ((found.2.overdue (denseEnvironment stoppedClock)).2.pass
        (denseEnvironment stoppedClock)).2.point = [1000000] := by
    decide +kernel
  obtain ⟨started, point, timely, iterations, lands⟩ := accepted
  have begun : found = (.ok true, found.2) := Prod.ext (ok_of_toOption found.1 true started) rfl
  have ready := ((freshSession_reached faintRow).kept.ready rfl).started _ begun
  refine ⟨found.2, _, _, begun, point, ⟨?_, timely, Prod.mk.eta.symm⟩, lands⟩
  rw [ready.config_eq, iterations]
  decide

theorem run_feasible_faintRow : ∃ start row, ((freshSession faintRow).solver.reset
    (denseEnvironment stoppedClock)).findStart (denseEnvironment stoppedClock)
      (some (.point [0])) = (.ok true, start) ∧
        start.OverlooksInPass (denseEnvironment stoppedClock) row := by
  obtain ⟨start, again, next, begun, point, step, lands⟩ := faintRow_start
  have inside : faintRow.Feasible start.point := by
    rw [point]
    exact faintRow_feasible
  have single := (run_feasible (freshSession_reached faintRow) rfl plainConfig_nonnegative
    stoppedClock (some (.point [0])) start begun inside).2 start next again (.started start begun)
      step inside
  have outside : ¬ faintRow.Feasible next.point := by
    intro feasible
    have within := feasible.body_le faintRow _ 0 (by decide)
    rw [lands] at within
    revert within
    decide +kernel
  have overlooked := mt single.1.mpr outside
  simp only [not_forall, not_not] at overlooked
  obtain ⟨row, overlooked⟩ := overlooked
  exact ⟨start, row, begun, overlooked⟩

/-- A run from a feasible point ends as optimal at a point that fails its test. -/
theorem faintRow_ends_infeasible :
    plainConfig.slackTolerance < 1 ∧
      (∃ start, ((freshSession faintRow).solver.reset
        (denseEnvironment stoppedClock)).findStart (denseEnvironment stoppedClock)
          (some (.point [0])) = (.ok true, start) ∧ faintRow.Feasible start.point) ∧
      ((freshSession faintRow).solver.solve (denseEnvironment stoppedClock) 2
        (some (.point [0]))).1.toOption =
          some (some ⟨.optimal, [1000000], -500000000000, 1, [], [0]⟩) ∧
      ((freshSession faintRow).solver.solve (denseEnvironment stoppedClock) 2
        (some (.point [0]))).2.isFeasible false = false := by
  obtain ⟨start, _, _, begun, point, _⟩ := faintRow_start
  refine ⟨by decide +kernel, ⟨start, begun, ?_⟩, by decide +kernel, by decide +kernel⟩
  rw [point]
  exact faintRow_feasible

end ConvexQP
