import ConvexQP.Scan.RatioTest
import ConvexQP.Solver.Feasibility
import ConvexQP.Solver.Relax

/-!
One pass of the method: the subproblem of the working set is solved, giving up rows while it cannot
be; the point moves towards the solution as far as the excluded rows allow; then the row that
stopped the step enters the working set, or the row with the most negative multiplier leaves it, or
the point is optimal.
-/
namespace ConvexQP.Solver
variable {R Systems Programs : Type} [Scalar R]
variable (environment : Environment R Systems Programs)

def candidates (solver : Solver R Systems Programs) (direction : List R) : List (Candidate R Nat) :=
  let excluded := solver.working.excluded
  let block := solver.problem.inequalities
  let slack := block.slackAt solver.point excluded
  let slopes := Linear.apply (block.rowsAt excluded) direction
  (slack.zip slopes).zipWith (fun (left, slope) row => ⟨left, slope, row⟩) excluded

/-- Moves the point along a direction as far as the excluded rows allow. -/
def advance (solver : Solver R Systems Programs) (direction : List R) (norm : R) :
    Bool × Solver R Systems Programs :=
  let rows := solver.candidates direction
  let test : RatioTest R := ⟨solver.slackTolerance, solver.solutionTolerance, norm⟩
  let limit := test.run rows
  let told := if rows.isEmpty then solver
    else { solver.trace (.stepLengths (rows.map fun row => row.slack / row.slope)) with
      blocking := limit.blocking }
  let moved := decide (0 < limit.length)
  let placed := if moved then
      told.setPoint (Linear.addScaled limit.length direction told.point)
    else told
  (moved, { placed with stepLength := some limit.length, verdict := .approximate })

/-- Acts on a solution of the subproblem: a step too small to matter leaves the point alone. -/
def acceptSolution (solver : Solver R Systems Programs) (direction : List R) :
    Bool × Solver R Systems Programs :=
  let x := solver.point
  let norm := Linear.norm direction
  let told := ({ solver with direction }.trace (.current x)).trace (.step direction)
  let (moved, settled) :=
    if solver.solutionTolerance.isSmall (Linear.norm x) norm then
      (false, { told.trace .stepTooSmall with verdict := .feasible })
    else told.advance direction norm
  (moved, settled.traceSlacks .afterIteration)

/-- Acts on a subproblem without a solution and without rows to give up. -/
def acceptFailure (solver : Solver R Systems Programs) : Bool × Solver R Systems Programs :=
  let verdict : Verdict := if solver.isFeasible false then .feasible else .infeasible
  (false, { solver with verdict }.traceSlacks .afterIteration)

/-- Acts on the outcome of the subproblem. Without an answer, the subproblem is to be solved again
over the smaller working set. -/
def respond (solver : Solver R Systems Programs) (target : Option (List R)) :
    Option Bool × Solver R Systems Programs :=
  match target with
  | some target =>
    let (moved, next) := solver.acceptSolution (Linear.subtract target solver.point)
    (some moved, next)
  | none =>
    if solver.working.included.isEmpty then
      let (moved, next) := solver.acceptFailure
      (some moved, next)
    else (none, solver.relax environment)

/-- Solves the subproblem of the working set. The point of the solution is returned, and its
multipliers are stored. -/
def solveSubproblem (solver : Solver R Systems Programs) :
    Option (List R) × Solver R Systems Programs :=
  let included := solver.working.included
  let problem := solver.problem
  let (solution, said, systems) := environment.solveSystem solver.systems
    (Kkt.matrix problem included) (Kkt.rhs problem included) included
  let told := { solver with systems }.noteAll (said.map .factor)
  match solution with
  | some entries =>
    (some (entries.take problem.size), told.storeMultipliers included (entries.drop problem.size))
  | none => (none, told.trace (.systemNotSolved included))

/-- Solves and gives up rows in turn. Every round but the last makes the working set smaller, so
one round more than there are included rows is enough. -/
def attempt : Nat → Solver R Systems Programs → Bool × Solver R Systems Programs
  | 0, solver => (false, solver)
  | rounds + 1, solver =>
    let (target, told) := solver.solveSubproblem environment
    match told.respond environment target with
    | (some moved, next) => (moved, next)
    | (none, next) => attempt rounds next

/-- One subproblem and one step; says whether the point moved. -/
def stepOnce (solver : Solver R Systems Programs) : Bool × Solver R Systems Programs :=
  attempt environment (solver.working.includedCount + 1)
    { solver with blocking := none, stepLength := none }

def rowToInclude (solver : Solver R Systems Programs) : Option Nat := solver.blocking

/-- The included row whose multiplier says that it is held for nothing. -/
def rowToExclude (solver : Solver R Systems Programs) : Option Nat :=
  MultiplierChoice.rowToDrop solver.solutionTolerance solver.working.latestIn
    solver.includedEntries

/-- Changes the working set as suggested, or finds the point optimal. -/
def revise (solver : Solver R Systems Programs) :
    Bool × Solver R Systems Programs :=
  let toInclude := if solver.inequalityCount = 0 then none else solver.rowToInclude
  let toExclude := if solver.inequalityCount = 0 || toInclude.isSome then none
    else solver.rowToExclude
  let told := ({ solver with toInclude, toExclude }.trace (.workingSet solver.working)).trace
    (.suggestion toInclude toExclude)
  match toInclude, toExclude with
  | none, none => (false, { told with verdict := .optimal })
  | some row, _ => (true, { told.includeRow environment row with verdict := .approximate })
  | none, some row => (true, { told.excludeRow environment row with verdict := .approximate })

/-- Keeps a pass in the history. It counts as an iteration if the point moved or the working set is
another one than before. -/
def record (solver : Solver R Systems Programs) (moved : Bool) (before : List Nat) :
    Solver R Systems Programs :=
  let included := solver.working.included
  let iterations := if moved || included ≠ before then solver.iterations + 1
    else solver.iterations
  let entry : Entry R := {
    iteration := iterations
    objective := solver.problem.objective solver.point
    stepLength := solver.stepLength
    stepNorm := Linear.norm solver.direction
    moved, included
    toInclude := solver.toInclude
    toExclude := solver.toExclude
    verdict := solver.verdict }
  let number := solver.history.size
  let kept := { solver with iterations, history := solver.history.push entry }
  let headed := if number % 20 = 0 then kept.printLine .heading else kept
  headed.printLine (.pass number entry)

def allFinite (solver : Solver R Systems Programs) : Bool :=
  Linear.allFinite solver.point && Linear.allFinite solver.multiplierList

/-- One pass; says whether another one follows. A point that is not finite is taken back. -/
def pass (solver : Solver R Systems Programs) : Bool × Solver R Systems Programs :=
  let point := solver.point
  let before := solver.working.included
  let (moved, stepped) := solver.stepOnce environment
  if stepped.verdict = .infeasible then (false, stepped.record moved before)
  else if !stepped.allFinite then
    (false, { (stepped.note .notFinite).setPoint point with verdict := .failed })
  else
    let (again, changed) := stepped.revise environment
    (again, changed.record moved before)

end ConvexQP.Solver
