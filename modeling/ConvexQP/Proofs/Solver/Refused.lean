import ConvexQP.Proofs.Solver.DataModel
import ConvexQP.Proofs.Solver.Forgetting

/-!
Starts of another size. They are refused after the working set is emptied, and a run is reset before
it looks at its start. A refused run therefore leaves the reset state, with the verdict of the run
before it.
-/
namespace ConvexQP
open scoped Exact

namespace Solver
variable {R Systems Programs : Type} [Scalar R] (environment : Environment R Systems Programs)
variable (solver : Solver R Systems Programs) (start : KickStart R)

theorem findStart_misfit (misfit : start.entries.length ≠ solver.problem.size) :
    solver.findStart environment (some start) =
      (.error (.kickStartSize start.entries.length solver.problem.size),
        { solver with working := solver.working.clear }) := by
  unfold findStart
  simp only [if_pos misfit]

/-- Emptied twice, the working set is empty as before. -/
theorem solve_misfit (budget : Nat) (misfit : start.entries.length ≠ solver.problem.size) :
    solver.solve environment budget (some start) =
      (.error (.kickStartSize start.entries.length solver.problem.size),
        solver.reset environment) := by
  have again : (solver.reset environment).working.clear = (solver.reset environment).working := by
    have size : (solver.reset environment).working.size = solver.working.size :=
      WorkingSet.size_clear solver.working
    rw [WorkingSet.clear, size]
    rfl
  have refused := findStart_misfit environment (solver.reset environment) start misfit
  rw [again] at refused
  simp only [solve, refused]
  rfl

variable {problem : Problem R} {config : Config R} {solver}

/-- What is left once a start was refused that a run was to begin with. -/
structure Cleared (problem : Problem R) (solver : Solver R Systems Programs) : Prop where
  point : solver.point = Linear.zeros problem.size
  multiplierList : solver.multiplierList =
    Linear.zeros (problem.equalities.count + problem.inequalities.count)
  working : solver.working = WorkingSet.empty problem.inequalities.count
  iterations : solver.iterations = 0
  history : solver.history = #[]

theorem Housed.reset_cleared (housed : Housed problem config solver) :
    Cleared problem (solver.reset environment) where
  point := by rw [housed.sized.point_reset environment, housed.problem_eq]
  multiplierList := by
    rw [housed.sized.multiplierList_reset environment, equalityCount, inequalityCount,
      housed.problem_eq]
  working := by
    rw [← housed.rows]
    rfl
  iterations := rfl
  history := rfl

end Solver

namespace Session
variable {R Systems Programs : Type} [Scalar R] {problem : Problem R} {config : Config R}
variable {session : Session R Systems Programs}

/-- A start of another size is refused. The search for a start leaves all but the working set, which
is emptied; a run leaves the verdict and the latest result, and clears the rest. -/
theorem refused_start (driven : Driven problem config session)
    (environment : Environment R Systems Programs) (start : KickStart R) (budget : Nat)
    (misfit : start.entries.length ≠ problem.size) :
    let cause := Error.kickStartSize start.entries.length problem.size
    let left := session.run environment (.solve (.given start) budget)
    session.run environment (.findStart (.given start)) =
        (.error cause, { session with solver := { session.solver with
          working := WorkingSet.empty problem.inequalities.count } }) ∧
      left.1 = .error cause ∧ left.2.latest = session.latest ∧
      left.2.solver.verdict = session.solver.verdict ∧ left.2.solver.Cleared problem := by
  intro cause left
  have housed := driven.housed
  have opened := driven.opened
  have other : start.entries.length ≠ session.solver.problem.size := by
    rwa [housed.problem_eq]
  have emptied : session.solver.working.clear = WorkingSet.empty problem.inequalities.count := by
    rw [WorkingSet.clear, housed.rows]
  have ended : left = (.error cause,
      { session with solver := session.solver.reset environment }) := by
    simp only [left, cause, run, runSolve, opened, Bool.false_eq_true, if_false, Session.start,
      Solver.solve_misfit environment _ start _ other, housed.problem_eq]
  refine ⟨?_, ?_, ?_, ?_, ?_⟩
  · simp only [run, runFindStart, opened, Bool.false_eq_true, if_false, Session.start,
      Solver.findStart_misfit environment _ start other, emptied, housed.problem_eq]
    rfl
  · rw [ended]
  · rw [ended]
  · rw [ended]
    rfl
  · rw [ended]
    exact housed.reset_cleared environment

end Session

/-- A session that solved and found its optimum on the boundary. -/
def solvedSession : Session ℚ (DenseSystems ℚ) (ProgramSource ℚ) :=
  ((freshSession (line 1 2 1 1)).run (denseEnvironment stoppedClock)
    (.solve (.given (.point [0])))).2

theorem solvedSession_driven : Session.Driven (line 1 2 1 1) plainConfig solvedSession :=
  .later _ _ _ rfl (.fresh _ _)

theorem refused_start_solved :
    Session.Driven (line 1 2 1 1) plainConfig solvedSession ∧
      (KickStart.point [(1 : ℚ), 2, 3]).entries.length ≠ (line 1 2 1 1).size ∧
      (solvedSession.run (denseEnvironment stoppedClock)
        (.solve (.given (.point [1, 2, 3])))).2.solver.verdict = .optimal ∧
      (solvedSession.run (denseEnvironment stoppedClock)
        (.solve (.given (.point [1, 2, 3])))).2.solver.Cleared (line 1 2 1 1) := by
  have misfit : (KickStart.point [(1 : ℚ), 2, 3]).entries.length ≠ (line 1 2 1 1).size := by decide
  have optimal : solvedSession.solver.verdict = .optimal := by decide +kernel
  obtain ⟨_, _, _, verdict, cleared⟩ := Session.refused_start solvedSession_driven
    (denseEnvironment stoppedClock) (.point [1, 2, 3]) _ misfit
  exact ⟨solvedSession_driven, misfit, verdict.trans optimal, cleared⟩

/-- A refused start does not leave the solver as it was. The search for a start loses the working
set; a run loses the optimum, of which the verdict still speaks. -/
theorem refused_start_loses_optimum :
    let refused := solvedSession.run (denseEnvironment stoppedClock)
      (.solve (.given (.point [1, 2, 3])))
    let searched := solvedSession.run (denseEnvironment stoppedClock)
      (.findStart (.given (.point [1, 2, 3])))
    (solvedSession.solver.verdict = .optimal ∧ solvedSession.solver.point = [1] ∧
      solvedSession.solver.multiplierList = [1] ∧ solvedSession.solver.working.included = [0] ∧
      solvedSession.solver.iterations = 1 ∧ solvedSession.solver.history.size = 2) ∧
    (refused.1 matches .error (.kickStartSize 3 1)) ∧
    (refused.2.solver.verdict = .optimal ∧ refused.2.solver.point = [0] ∧
      refused.2.solver.multiplierList = [0] ∧ refused.2.solver.working.included = [] ∧
      refused.2.solver.iterations = 0 ∧ refused.2.solver.history.size = 0) ∧
    (searched.1 matches .error (.kickStartSize 3 1)) ∧
    searched.2.solver.point = [1] ∧ searched.2.solver.working.included = [] := by
  decide +kernel

end ConvexQP
