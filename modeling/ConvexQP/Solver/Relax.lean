import ConvexQP.Scan.MultiplierChoice
import ConvexQP.Solver.State

/-!
Giving up an included row: the last one of largest multiplier.
-/
namespace ConvexQP.Solver
variable {R Systems Programs : Type} [Scalar R]
variable (environment : Environment R Systems Programs) (solver : Solver R Systems Programs)

def includedEntries : List (Nat × R) :=
  let included := solver.working.included
  included.zip (solver.multipliersAt included)

/-- The greatest magnitude of a list of multipliers; undefined if one of them is. -/
def largestMagnitude (values : List R) : R :=
  match values.map magnitude with
  | [] => 0
  | first :: rest => rest.foldl greater first

def relax : Solver R Systems Programs :=
  match MultiplierChoice.largestMagnitude solver.includedEntries with
  | none => solver
  | some row =>
    let largest := largestMagnitude (solver.multipliersAt solver.working.included)
    (solver.trace (.relax row largest)).excludeRow environment row

/-- Gives up rows until the count of active rows is at most the count of variables. There are no
more rows to give up than there are included ones. -/
def trim : Nat → Solver R Systems Programs → Solver R Systems Programs
  | 0, solver => solver
  | steps + 1, solver =>
    if solver.problem.size < solver.equalityCount + solver.working.includedCount &&
        decide (0 < solver.working.includedCount) then
      trim steps (solver.relax environment)
    else solver

end ConvexQP.Solver
