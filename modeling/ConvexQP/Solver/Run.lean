import ConvexQP.Solver.Pass
import ConvexQP.Solver.Start

/-!
Whole runs. Passes follow each other until the point is optimal, a limit is reached or a pass ends
the run. Passes that change nothing are not counted, so the iteration limit alone does not bound
their number; a budget of passes does.
-/
namespace ConvexQP.Solver
variable {R Systems Programs : Type} [Scalar R]
variable (environment : Environment R Systems Programs)

/-- The state in which every run starts. -/
def reset (solver : Solver R Systems Programs) : Solver R Systems Programs :=
  let cleared := (solver.setPoint (Linear.zeros solver.problem.size)).setMultipliers
    (Linear.zeros (solver.equalityCount + solver.inequalityCount))
  { cleared with
    working := solver.working.clear
    direction := Linear.zeros solver.problem.size
    blocking := none
    iterations := 0
    history := #[]
    stepLength := none
    toInclude := none
    toExclude := none
    clockReadings := 0 }.forgetSystem environment

/-- The result as the state stands. Rows outside the working set have multiplier zero. -/
def result (solver : Solver R Systems Programs) : Result R :=
  let x := solver.point
  let rows := solver.inequalityMultipliers.zipIdx.map fun (multiplier, row) =>
    if solver.working.contains row then multiplier else 0
  { verdict := solver.verdict
    point := x
    value := solver.problem.objective x
    iterations := solver.iterations
    activeSet := solver.working.included
    multipliers := solver.equalityMultipliers ++ rows }

/-- The time limit if it has passed. Every look at a limit reads the clock. -/
def overdue (solver : Solver R Systems Programs) : Option R × Solver R Systems Programs :=
  match solver.config.timeLimit with
  | none => (none, solver)
  | some limit =>
    let late := decide (limit < environment.elapsed solver.clockReadings)
    (if late then some limit else none,
      { solver with clockReadings := solver.clockReadings + 1 })

/-- Passes until the run ends. Without an answer, the budget of passes is spent. -/
def passes : Nat → Solver R Systems Programs → Option Unit × Solver R Systems Programs
  | 0, solver => (none, solver)
  | budget + 1, solver =>
    if solver.config.iterationLimit ≤ solver.iterations then
      (some (), { solver.note (.iterationLimit solver.config.iterationLimit) with
        verdict := .failed })
    else
      match solver.overdue environment with
      | (some limit, looked) => (some (), { looked.note (.timeLimit limit) with verdict := .failed })
      | (none, looked) =>
        match looked.pass environment with
        | (true, next) => passes budget next
        | (false, next) => (some (), next)

/-- A run from a start, if there is one. Without a result, the budget of passes is spent. -/
def solve (budget : Nat) (solver : Solver R Systems Programs) (kick : Option (KickStart R)) :
    Except Error (Option (Result R)) × Solver R Systems Programs :=
  match (solver.reset environment).findStart environment kick with
  | (.error cause, refused) => (.error cause, refused)
  | (.ok false, stopped) => (.ok (some stopped.result), stopped)
  | (.ok true, started) =>
    match passes environment budget started with
    | (none, spent) => (.ok none, spent)
    | (some (), ended) =>
      let closed := ended.printLine (.closing ended.verdict ended.iterations)
      (.ok (some closed.result), closed)

/-- The passes of a run for which no other budget is given. -/
def passBudget : Nat := 65536

end ConvexQP.Solver
