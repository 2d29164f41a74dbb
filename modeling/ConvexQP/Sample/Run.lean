import ConvexQP.Report
import ConvexQP.Solver.Released
import ConvexQP.Solver.Systems

/-!
A demonstration: a problem is solved, its result is reported, and the solver starts once more from
the result.
-/
namespace ConvexQP.Sample

/-- What a demonstration reports, and the linear programmes it needed. -/
structure Demonstration where
  result : Result Float
  lines : List String
  programs : ProgramSource Float

def warmLine (result : Result Float) : String :=
  "  warm re-solve: " ++ result.verdict.name ++ s!" in {result.iterations} iterations"

/-- Runs the solver on a problem, and again from the result of the first run. Without an answer, the
budget of passes is spent. -/
def demonstrate (environment : Environment Float (DenseSystems Float) (ProgramSource Float))
    (name : String) (solver : DenseSolver Float) (budget : Nat := Solver.passBudget) :
    Except Error (Option Demonstration) := do
  let (first, once) := solver.solve environment budget none
  match ← first with
  | none => return none
  | some result =>
    let kick := some (.result result.verdict result.point)
    let (second, twice) := { once with printed := #[] }.solve environment budget kick
    match ← second with
    | none => return none
    | some warm =>
      let lines := once.printed.toList.map Report.tableLine ++
        [Text.zeroedLine (name ++ ": " ++ result.describe)] ++
        twice.printed.toList.map Report.tableLine ++ [warmLine warm]
      return some ⟨result, lines, twice.programs⟩

end ConvexQP.Sample
