import ConvexQP.Proofs.Solver.Descent
import ConvexQP.Proofs.Solver.Feasibility

/-!
What a pass leaves of the rows. Every row that is active along the step loses the same share of its
residual, the share of the way that the step goes. Another row that holds before the step loses no
more than it has, unless the ratio test leaves it out for its small slope; then its slope bounds
what it loses.
-/
namespace ConvexQP
open scoped Exact
variable {K : Type} [Field K] [LinearOrder K] [IsStrictOrderedRing K] [Rooted K]

/-! ### Rows out of sight of the ratio test -/

theorem Exact.abs_le_of_isSmall (tolerance : Tolerance K) (reference value : K)
    (valid : 0 ≤ tolerance.bound) (small : tolerance.isSmall reference value = true) :
    |value| ≤ tolerance.bound * max 1 |reference| := by
  have told := (isSmall_iff tolerance reference value valid).mp small
  split at told
  · calc |value| ≤ tolerance.bound * 1 := by rw [mul_one]; exact told
      _ ≤ tolerance.bound * max 1 |reference| := by gcongr; exact le_max_left _ _
  · exact told.trans (by gcongr; exact le_max_right _ _)

/-- A row that holds is not left by more than the slope that counts as small. -/
theorem RatioTest.neg_le_left {Row : Type} (test : RatioTest K) (candidates : List (Candidate K Row))
    (candidate : Candidate K Row) (valid : 0 ≤ test.solutionTolerance.bound)
    (norm : 0 ≤ test.stepNorm) (member : candidate ∈ candidates) (slack : 0 ≤ candidate.slack) :
    -(test.solutionTolerance.bound * max 1 test.stepNorm) ≤
      candidate.slack - (test.run candidates).length * candidate.slope := by
  have margin : 0 ≤ test.solutionTolerance.bound * max 1 test.stepNorm :=
    mul_nonneg valid (zero_le_one.trans (le_max_left _ _))
  cases seen : test.solutionTolerance.isSmall test.stepNorm candidate.slope with
  | false =>
      have within := length_mul_slope_le test candidates candidate member slack seen
      linarith
  | true =>
      have slope := Exact.abs_le_of_isSmall _ _ _ valid seen
      rw [abs_of_nonneg norm] at slope
      obtain ⟨forward, short⟩ := length_range test candidates
      have used : (test.run candidates).length * candidate.slope ≤
          test.solutionTolerance.bound * max 1 test.stepNorm :=
        calc (test.run candidates).length * candidate.slope
            ≤ (test.run candidates).length * |candidate.slope| := by gcongr; exact le_abs_self _
          _ ≤ 1 * |candidate.slope| := by gcongr
          _ ≤ _ := by rw [one_mul]; exact slope
      linarith

theorem Solver.Sized.neg_le_left {Systems Programs : Type} {solver : Solver K Systems Programs}
    (sized : solver.Sized) (valid : 0 ≤ solver.config.solutionTolerance) (entries : List K)
    (row : Nat) (member : row ∈ solver.working.excluded)
    (slack : 0 ≤ solver.problem.inequalities.slackOf solver.point row) :
    -(solver.config.solutionTolerance * max 1 (Linear.norm (solver.heading entries))) ≤
      solver.problem.inequalities.slackOf solver.point row -
        solver.stride entries * solver.problem.inequalities.bodyOf (solver.heading entries) row := by
  have bounded := RatioTest.neg_le_left ⟨solver.slackTolerance, solver.solutionTolerance,
    Linear.norm (solver.heading entries)⟩ _ _ valid (Linear.norm_nonneg _)
      (sized.mem_candidates (solver.heading entries) row member) slack
  rw [stride]
  split
  · -- A step too small to be taken leaves the row as it is.
    have margin : 0 ≤ solver.config.solutionTolerance *
        max 1 (Linear.norm (solver.heading entries)) :=
      mul_nonneg valid (zero_le_one.trans (le_max_left _ _))
    linarith
  · exact bounded

/-! ### Rows along a step -/

theorem Constraints.slackOf_eq_zero_of_apply {size : Nat} (block : Constraints K size)
    (point : List K) (held : Linear.apply block.rows point = block.bounds) (row : Nat)
    (bound : row < block.count) : block.slackOf point row = 0 := by
  have inside : row < block.rows.length := bound
  rw [slackOf, bodyOf, ← held, List.getD_eq_getElem?_getD, List.getD_eq_getElem?_getD,
    Linear.apply, List.getElem?_map, List.getElem?_eq_getElem inside]
  exact sub_self _

/-- What a step from a point to another leaves of the rows, when it goes some length along a
direction: the rows that it takes into account keep their share, and no other row that held is left
by more than a margin. -/
structure Problem.Residuals (problem : Problem K) (included excluded : List Nat) (tolerance : K)
    (start stop direction : List K) (length : K) : Prop where
  equalities : ∀ row < problem.equalities.count,
    problem.equalities.slackOf stop row = (1 - length) * problem.equalities.slackOf start row
  included : ∀ row ∈ included,
    problem.inequalities.slackOf stop row = (1 - length) * problem.inequalities.slackOf start row
  excluded : ∀ row ∈ excluded, 0 ≤ problem.inequalities.slackOf start row →
    -(tolerance * max 1 (Linear.norm direction)) ≤ problem.inequalities.slackOf stop row

namespace Problem.Residuals
variable {problem : Problem K} {included excluded : List Nat} {tolerance length : K}
variable {start stop direction : List K}

/-- A point that stays keeps all residuals. -/
theorem stay (valid : 0 ≤ tolerance) :
    problem.Residuals included excluded tolerance start start direction 0 where
  equalities row _ := by rw [sub_zero, one_mul]
  included row _ := by rw [sub_zero, one_mul]
  excluded row _ held :=
    (neg_nonpos.mpr (mul_nonneg valid (zero_le_one.trans (le_max_left _ _)))).trans held

/-- From a feasible point the active rows hold, and the others up to the margin. -/
theorem of_feasible (left : problem.Residuals included excluded tolerance start stop direction length)
    (short : length ≤ 1) (inside : Kkt.Inside problem included)
    (outside : Kkt.Inside problem excluded) (feasible : problem.Feasible start) :
    (∀ row < problem.equalities.count, problem.equalities.slackOf stop row = 0) ∧
      (∀ row ∈ included, 0 ≤ problem.inequalities.slackOf stop row) ∧
      ∀ row ∈ excluded, -(tolerance * max 1 (Linear.norm direction)) ≤
        problem.inequalities.slackOf stop row := by
  obtain ⟨_, equalities, slacks⟩ := (problem.feasible_iff start).mp feasible
  refine ⟨?_, ?_, ?_⟩
  · intro row bound
    rw [left.equalities row bound,
      Constraints.slackOf_eq_zero_of_apply _ _ equalities row bound, mul_zero]
  · intro row member
    rw [left.included row member]
    exact mul_nonneg (sub_nonneg.mpr short) (slacks row (inside row member))
  · intro row member
    exact left.excluded row member (slacks row (outside row member))

end Problem.Residuals

/-! ### The step of a pass -/

theorem Solver.landed_direction {R Systems Programs : Type} [Scalar R]
    (environment : Environment R Systems Programs) (solver : Solver R Systems Programs)
    (entries : List R) (answer : solver.systemAnswer environment = some entries) :
    (solver.landed environment).2.direction = solver.heading entries := by
  unfold landed
  rw [answer]
  simp only
  split
  · rfl
  · rfl

namespace DenseSolver.Ready
variable {problem : Problem K} {config : Config K} {elapsed : Nat → K} {solver : DenseSolver K}
variable (ready : Ready problem config solver)

include ready in
/-- An answered round goes its length along the heading, where no length is none at all. -/
theorem landed_length (entries : List K)
    (answer : solver.systemAnswer (denseEnvironment elapsed) = some entries)
    (valid : 0 ≤ config.pivotTolerance) (fresh : solver.stepLength = none) :
    (solver.landed (denseEnvironment elapsed)).2.point =
        Linear.addScaled (solver.stride entries) (solver.heading entries) solver.point ∧
      (solver.landed (denseEnvironment elapsed)).2.stepLength.getD 0 = solver.stride entries := by
  obtain ⟨moved, length⟩ := ready.landed_stride entries answer valid
  refine ⟨moved, ?_⟩
  rcases length with walked | ⟨zero, still⟩
  · rw [walked, Option.getD_some]
  · rw [still, fresh, Option.getD_none, zero]

include ready in
/-- What a round leaves of the rows, answered or not. -/
theorem landed_residuals (elapsed : Nat → K) (valid : config.Nonnegative)
    (fresh : solver.stepLength = none) :
    problem.Residuals solver.working.included solver.working.excluded config.solutionTolerance
      solver.point (solver.landed (denseEnvironment elapsed)).2.point
      (solver.landed (denseEnvironment elapsed)).2.direction
      ((solver.landed (denseEnvironment elapsed)).2.stepLength.getD 0) := by
  cases answer : solver.systemAnswer (denseEnvironment elapsed) with
  | none =>
      obtain ⟨systems, verdict, landed⟩ := Solver.landed_unsolved _ solver answer
      rw [landed]
      simp only [fresh, Option.getD_none]
      exact .stay valid.solution
  | some entries =>
      obtain ⟨moved, length⟩ := ready.landed_length entries answer valid.pivot fresh
      have solution := ready.solution valid.pivot entries answer
      have sizes : (entries.take problem.size).length = solver.point.length :=
        solution.size.trans ready.point_size.symm
      have fits := (ready.heading_size valid.pivot entries answer).symm
      rw [moved, length, Solver.landed_direction _ solver entries answer]
      refine ⟨?_, ?_, ?_⟩
      · intro row bound
        rw [ready.heading_eq]
        exact Constraints.slackOf_towards _ _ _ _ _ sizes (Constraints.slackOf_eq_zero_of_apply _ _
          (solution.rows_hold problem _).1 row bound)
      · intro row member
        rw [ready.heading_eq]
        exact Constraints.slackOf_towards _ _ _ _ _ sizes
          (solution.slackOf_eq_zero ready.inside row member)
      · intro row member held
        rw [Constraints.slackOf_addScaled _ _ _ _ _ fits]
        have bounded := ready.sized.neg_le_left (by rw [ready.config_eq]; exact valid.solution)
          entries row member (by rw [ready.problem_eq]; exact held)
        rw [ready.config_eq, ready.problem_eq] at bounded
        exact bounded

include ready in
/-- A round heads for the solution on its rows, or it has given up all of them and stays. -/
theorem landed_heads (elapsed : Nat → K) (valid : config.Nonnegative)
    (fresh : solver.stepLength = none)
    (decides : solver.systemAnswer (denseEnvironment elapsed) = none →
      solver.working.included = []) :
    let landed := (solver.landed (denseEnvironment elapsed)).2
    0 ≤ landed.stepLength.getD 0 ∧ landed.stepLength.getD 0 ≤ 1 ∧
      ((∃ target multipliers, Kkt.Solution problem solver.working.included target multipliers ∧
          landed.direction = Linear.subtract target solver.point ∧
          landed.point =
            Linear.addScaled (landed.stepLength.getD 0) landed.direction solver.point) ∨
        solver.working.included = [] ∧ landed.stepLength = none ∧
          landed.point = solver.point) := by
  cases answer : solver.systemAnswer (denseEnvironment elapsed) with
  | none =>
      obtain ⟨systems, verdict, landed⟩ := Solver.landed_unsolved _ solver answer
      simp only [landed, fresh, Option.getD_none]
      exact ⟨le_refl 0, zero_le_one, Or.inr ⟨decides answer, trivial, rfl⟩⟩
  | some entries =>
      obtain ⟨moved, length⟩ := ready.landed_length entries answer valid.pivot fresh
      have range := solver.stride_range entries
      simp only [length, moved, Solver.landed_direction _ solver entries answer]
      exact ⟨range.1, range.2, Or.inl ⟨_, _, ready.solution valid.pivot entries answer,
        ready.heading_eq entries, trivial⟩⟩

end DenseSolver.Ready

section Passes
variable {problem : Problem K} {config : Config K} {method : ProgramMethod K}
variable {session : Session K (DenseSystems K) (ProgramSource K)}

/-- A pass goes some length between zero and one towards the solution on its active rows, or stays
where no system is solved. Every equality row and every active row keeps the share of its residual
that the length leaves; every other row that held is left by no more than the margin below which
a slope counts as small. So from a feasible point the equality rows and the active rows hold, and
the others up to this margin. -/
theorem pass_residuals (reached : Session.Reached problem config method session)
    (opened : session.solver.isReleased = false) (valid : config.Nonnegative) (elapsed : Nat → K) :
    let before := session.solver
    let after := (before.stepOnce (denseEnvironment elapsed)).2
    let length := after.stepLength.getD 0
    (before.pass (denseEnvironment elapsed)).2.point = after.point ∧ 0 ≤ length ∧ length ≤ 1 ∧
      ((∃ target multipliers, Kkt.Solution problem after.working.included target multipliers ∧
          after.direction = Linear.subtract target before.point ∧
          after.point = Linear.addScaled length after.direction before.point) ∨
        after.working.included = [] ∧ after.stepLength = none ∧ after.point = before.point) ∧
      problem.Residuals after.working.included after.working.excluded config.solutionTolerance
        before.point after.point after.direction length ∧
      (problem.Feasible before.point →
        (∀ row < problem.equalities.count, problem.equalities.slackOf after.point row = 0) ∧
          (∀ row ∈ after.working.included, 0 ≤ problem.inequalities.slackOf after.point row) ∧
          ∀ row ∈ after.working.excluded,
            -(config.solutionTolerance * max 1 (Linear.norm after.direction)) ≤
              problem.inequalities.slackOf after.point row) := by
  intro before after length
  have ready := reached.kept.ready opened
  have decisive := ready.subproblem elapsed
  have start : (before.subproblem (denseEnvironment elapsed)).point = before.point :=
    Solver.subproblem_point (denseEnvironment elapsed) before
  have fresh : (before.subproblem (denseEnvironment elapsed)).stepLength = none := by
    obtain ⟨_, _, _, _, rounds⟩ := Solver.subproblem_frame (denseEnvironment elapsed) before
    rw [rounds]
  obtain ⟨notes, stepped⟩ := Solver.stepOnce_landed (denseEnvironment elapsed) before
  have landed : after = { ((before.subproblem (denseEnvironment elapsed)).landed
      (denseEnvironment elapsed)).2 with notes } := congrArg Prod.snd stepped
  have point : after.point = ((before.subproblem (denseEnvironment elapsed)).landed
      (denseEnvironment elapsed)).2.point := by rw [landed]; rfl
  have direction : after.direction = ((before.subproblem (denseEnvironment elapsed)).landed
      (denseEnvironment elapsed)).2.direction := by rw [landed]
  have walked : after.stepLength = ((before.subproblem (denseEnvironment elapsed)).landed
      (denseEnvironment elapsed)).2.stepLength := by rw [landed]
  have working : after.working = (before.subproblem (denseEnvironment elapsed)).working := by
    rw [landed]
    exact Solver.landing_working (denseEnvironment elapsed) before
  obtain ⟨forward, short, heads⟩ := decisive.landed_heads elapsed valid fresh
    (Solver.subproblem_unsolved (denseEnvironment elapsed) before)
  have kept := decisive.landed_residuals elapsed valid fresh
  rw [← working, ← walked, ← point, ← direction, start] at heads
  rw [← working, ← walked, ← point, ← direction, start] at kept
  rw [← walked] at forward short
  have landing : (before.pass (denseEnvironment elapsed)).2.point = after.point :=
    (pass_point (denseEnvironment elapsed) before _ _ Prod.mk.eta.symm).trans point.symm
  have inside := decisive.inside
  have outside := decisive.sized.outside
  rw [← working] at inside outside
  rw [decisive.problem_eq] at outside
  exact ⟨landing, forward, short, heads, kept, kept.of_feasible short inside outside⟩

end Passes

/-- The faint row is left by a step of a million, yet by less than the margin. -/
theorem pass_residuals_faintRow :
    let after := ((freshSession faintRow).solver.stepOnce (denseEnvironment stoppedClock)).2
    after.point = [1000000] ∧ faintRow.inequalities.slackOf after.point 0 = -99 / 10000000 ∧
      -(plainConfig.solutionTolerance * max 1 (Linear.norm after.direction)) ≤
        faintRow.inequalities.slackOf after.point 0 := by
  obtain ⟨_, _, _, _, _, held⟩ := pass_residuals (freshSession_reached faintRow) rfl
    plainConfig_nonnegative stoppedClock
  have start : (freshSession faintRow).solver.point = [0] := by decide +kernel
  exact ⟨by decide +kernel, by decide +kernel,
    (held (start ▸ faintRow_feasible)).2.2 0 (by decide +kernel)⟩

end ConvexQP
