import ConvexQP.Decimal.Style
import ConvexQP.Verdict
import ConvexQP.WorkingSet

/-!
The outcome of a run: verdict, point, objective value, count of iterations, working set and
multipliers.
-/
namespace ConvexQP

structure Result (R : Type) where
  verdict : Verdict
  point : List R
  value : R
  iterations : Nat := 0
  activeSet : List Nat := []
  multipliers : List R := []
  deriving Repr

/-- One line with the value to six significant digits. -/
def Result.describe (result : Result Float) : String :=
  "Result(state=" ++ result.verdict.name ++
    ", value=" ++ (Decimal.Style.general 6).text result.value ++
    s!", iterations={result.iterations}, active_set=" ++
    WorkingSet.rowsText result.activeSet ++ ")"

end ConvexQP
