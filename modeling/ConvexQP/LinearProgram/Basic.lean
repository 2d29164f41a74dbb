import ConvexQP.Tensor.Operations

/-!
Linear programmes in equality form: minimise a cost over points without negative entries that meet
a block of equality rows. How such a programme is solved is a parameter of everything that uses it;
this module holds what is asked and what may be answered.
-/
namespace ConvexQP

inductive ProgramStatus where
  | optimal
  | infeasible
  | unbounded
  | failed
  deriving Repr, DecidableEq

namespace ProgramStatus

def name : ProgramStatus → String
  | optimal => "optimal"
  | infeasible => "infeasible"
  | unbounded => "unbounded"
  | failed => "failed"

/-- The status a solver reports as a number; numbers without a meaning are failures. -/
def ofCode (code : Int) : ProgramStatus :=
  if code = 0 then optimal
  else if code = 2 then infeasible
  else if code = 3 then unbounded
  else failed

def isFeasible (status : ProgramStatus) : Bool := status == optimal

end ProgramStatus

/-- What the solver of linear programmes is told beside the programme. -/
structure ProgramOptions (R : Type) where
  presolve : Bool
  tolerance : R
  timeLimit : Option R

def ProgramOptions.ofData (timeLimit tolerance presolve : Datum) :
    Except Error (ProgramOptions Float) := do
  let bound ← tolerance.toReal
  let limit ← match timeLimit with
    | .absent => pure none
    | limit => limit.toReal.map some
  return ⟨presolve.truthy, bound, limit⟩

structure LinearProgram (R : Type) where
  cost : List R
  /-- Equality rows with their right-hand sides, if there are any. -/
  equalities : Option (List (List R) × List R)
  options : ProgramOptions R

structure ProgramAnswer (R : Type) where
  code : Int
  point : Option (List R)
  /-- Reduced costs of the lower bounds. -/
  marginals : Option (List R)
  message : String

structure ProgramResult (R : Type) where
  status : ProgramStatus
  point : List R
  reducedCosts : List R
  message : String

namespace LinearProgram
variable {R : Type} [Scalar R]

/-- An answer read for a programme: what is missing counts as zeros. -/
def interpret (program : LinearProgram R) (answer : ProgramAnswer R) : ProgramResult R :=
  let nothing := Linear.zeros program.cost.length
  ⟨.ofCode answer.code, answer.point.getD nothing, answer.marginals.getD nothing, answer.message⟩

/-- A block of equality rows for a cost, if the shapes fit. -/
def equalityBlock (cost : List R) (rows bounds : Tensor R) :
    Except Error (List (List R) × List R) :=
  let matrix := rows.atLeastMatrix
  let limits := bounds.toList
  if matrix.shape = [limits.length, cost.length] then .ok (matrix.rows, limits)
  else .error (.programShape matrix.shape limits.length cost.length)

end LinearProgram

/-- The value of one variable; negative positions count from the end. -/
def ProgramResult.valueAt {R : Type} [Scalar R] (result : ProgramResult R) (place : Int) :
    Except Error R :=
  (Tensor.rowNumber result.point.length place).map fun number => result.point.getD number 0

end ConvexQP
