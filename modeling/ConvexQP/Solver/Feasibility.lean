import ConvexQP.Scan.Violation
import ConvexQP.Solver.State

/-!
Whether the current point meets the constraints, up to the slack tolerance: all of them, or the
excluded inequality rows only.
-/
namespace ConvexQP

def Problem.equalitiesHold {R : Type} [Scalar R] (problem : Problem R)
    (tolerance : Tolerance R) (point : List R) : Bool :=
  (Violation.firstEquality tolerance problem.equalities.bounds
    (Linear.apply problem.equalities.rows point)).isNone

def Problem.inequalitiesHold {R : Type} [Scalar R] (problem : Problem R)
    (tolerance : Tolerance R) (point : List R) (rows : List Nat) : Bool :=
  (Violation.firstInequality tolerance (problem.inequalities.boundsAt rows)
    (Linear.apply (problem.inequalities.rowsAt rows) point)).isNone

namespace Solver
variable {R Systems Programs : Type} [Scalar R] (solver : Solver R Systems Programs)

def slackTolerance : Tolerance R := ⟨solver.config.slackTolerance⟩
def solutionTolerance : Tolerance R := ⟨solver.config.solutionTolerance⟩

def isFeasible (onlyExcluded : Bool) : Bool :=
  let problem := solver.problem
  let tolerance := solver.slackTolerance
  let x := solver.point
  (onlyExcluded ||
    (problem.equalitiesHold tolerance x &&
      problem.inequalitiesHold tolerance x solver.working.included)) &&
    problem.inequalitiesHold tolerance x solver.working.excluded

end Solver
end ConvexQP
