import ConvexQP.Note
import ConvexQP.Problem.Build

/-!
A feasible start by a linear programme. A free variable is the difference of two that are not
negative, and an inequality row becomes an equality with a slack; rows with a negative right-hand
side change sign. The cost leans towards the descent direction of the objective. When the programme
with that cost has no optimum, feasibility is asked for with a zero cost.
-/
namespace ConvexQP

/-- Lists fit together when their lengths agree; a list of one is repeated. -/
def fitLengths {R : Type} (left right : List R) : Except Error (List R × List R) :=
  if left.length = right.length then .ok (left, right)
  else match left, right with
    | [only], right => .ok (List.replicate right.length only, right)
    | left, [only] => .ok (left, List.replicate left.length only)
    | _, _ => .error .shapesDiffer

namespace PhaseOne
variable {R : Type} [Scalar R]

/-- A row on the differences of the split variables, followed by its entries on the slacks. -/
def splitRow (row slacks : List R) : List R := row ++ Linear.negate row ++ slacks

/-- A row whose bound is negative, and the bound, change sign. -/
def orient (entry : List R × R) : List R × R :=
  if entry.2 < 0 then (entry.1.map (· * -1), entry.2 * -1) else entry

/-- The rows of the programme with their right-hand sides. -/
def entries (problem : Problem R) : List (List R × R) :=
  let slacks := problem.inequalities.count
  let equalities := problem.equalities.rows.map fun row => splitRow row (Linear.zeros slacks)
  let inequalities := problem.inequalities.rows.zipWith splitRow (Linear.identity slacks)
  ((equalities ++ inequalities).zip
    (problem.equalities.bounds ++ problem.inequalities.bounds)).map orient

def rows (problem : Problem R) : List (List R) := (entries problem).map (·.1)
def bounds (problem : Problem R) : List R := (entries problem).map (·.2)

/-- The gradient on the differences of the split variables; slacks cost nothing. -/
def costOf (problem : Problem R) (gradient : List R) : List R :=
  gradient ++ Linear.negate gradient ++ Linear.zeros problem.inequalities.count

/-- The gradient at a start, or at the origin when there is none. -/
def gradientAt (problem : Problem R) : Option (List R) → Except Error (List R)
  | none => .ok (Linear.negate problem.linear)
  | some point =>
    if point.length = problem.size then .ok (problem.gradient point) else .error .shapesDiffer

/-- What is told about a start: the status of the last programme, how many were solved, whether the
second one was needed, and what was reported. -/
structure Info where
  status : ProgramStatus := .failed
  solves : Nat := 0
  repeated : Bool := false
  messages : List String := []

/-- A start and multipliers for the inequality rows. Without a start the point is the one that was
given. -/
structure Start (R : Type) where
  found : Bool
  point : List R
  multipliers : List R

/-- Everything a search for a start leaves behind. -/
structure Search (R Programs : Type) where
  outcome : Except Error (Start R)
  info : Info
  notes : List (Note R)
  programs : Programs

/-- Solves linear programmes from a state, and says what the next state is. -/
abbrev ProgramSolver (R Programs : Type) :=
  Programs → LinearProgram R → ProgramAnswer R × Programs

/-- What the point of a programme says of the variables: the differences of the split parts. -/
def startOf (problem : Problem R) (result : ProgramResult R) : Except Error (Start R) := do
  let size := problem.size
  let slacks := problem.inequalities.count
  let (raised, lowered) ← fitLengths (result.point.take size) ((result.point.drop size).take size)
  return ⟨true, Linear.subtract raised lowered, (result.reducedCosts.drop (2 * size)).take slacks⟩

variable {Programs : Type}

def solveCost (solver : ProgramSolver R Programs) (problem : Problem R)
    (options : ProgramOptions R) (programs : Programs) (cost : List R) :
    ProgramResult R × Programs :=
  let program : LinearProgram R := ⟨cost, some (rows problem, bounds problem), options⟩
  let (answer, next) := solver programs program
  (program.interpret answer, next)

def anyCost (cost : List R) : Bool := cost.any fun entry => !same entry 0

def conclude (problem : Problem R) (given : List R) (result : ProgramResult R) :
    Except Error (Start R) :=
  if result.status.isFeasible then startOf problem result
  else .ok ⟨false, given, Linear.zeros problem.inequalities.count⟩

def search (solver : ProgramSolver R Programs) (problem : Problem R)
    (options : ProgramOptions R) (tracing : Bool) (programs : Programs)
    (start : Option (List R)) : Search R Programs :=
  let given := start.getD (Linear.zeros problem.size)
  if problem.equalities.count + problem.inequalities.count = 0 then
    ⟨.ok ⟨true, given, []⟩, { status := .optimal }, [], programs⟩
  else
    match gradientAt problem start with
    | .error cause => ⟨.error cause, {}, [], programs⟩
    | .ok gradient =>
      let cost := costOf problem gradient
      let traced : ProgramResult R → List (Note R) := fun result =>
        if tracing then [.programEnded result.status result.message] else []
      let (first, later) := solveCost solver problem options programs cost
      if !first.status.isFeasible && anyCost cost then
        let (second, last) :=
          solveCost solver problem options later (Linear.zeros cost.length)
        ⟨conclude problem given second,
          { status := second.status, solves := 2, repeated := true,
            messages := [first.message, second.message] },
          traced first ++ [.programRepeated first.status] ++ traced second, last⟩
      else
        ⟨conclude problem given first,
          { status := first.status, solves := 1, repeated := false,
            messages := [first.message] },
          traced first, later⟩

end PhaseOne
end ConvexQP
