import ConvexQP.Solver.Run

/-!
What a solver still does once its buffers are given back. There is no point to read and no place to
write one, so every request that needs an entry is refused; what happens before the refusal stays.
-/
namespace ConvexQP.Solver

variable {R Systems Programs : Type} [Scalar R]
variable (environment : Environment R Systems Programs) (solver : Solver R Systems Programs)

def isReleased : Bool := solver.iterate.vector.closed

def release : Solver R Systems Programs :=
  { solver with iterate := solver.iterate.close, multipliers := solver.multipliers.close }

namespace Released

/-- Refuses to read multipliers of included rows. -/
def readIncluded : Except Error Unit :=
  if solver.working.included.isEmpty then .ok () else .error .noSuchRow

/-- Refuses to multiply rows with a point. -/
def measure (rows : Nat) : Except Error Unit := if rows = 0 then .ok () else .error .shapesDiffer

/-- Refuses to store a point. -/
def store (size : Nat) : Except Error Unit :=
  if size = 0 then .ok () else .error (.sourceTooLong size 0)

def solve : Except Error Unit × Solver R Systems Programs :=
  (store solver.problem.size, { solver with working := solver.working.clear })

/-- The verdict of the linear programme is kept, and its point is refused. -/
def searchStart : Except Error Bool × Solver R Systems Programs :=
  let found := PhaseOne.search environment.solveProgram solver.problem solver.programOptions
    solver.config.tracing solver.programs none
  let told := { solver with programs := found.programs }.noteAll found.notes
  match found.outcome with
  | .error cause => (.error cause, told)
  | .ok start =>
    let settled := if start.found then told
      else if found.info.status = .infeasible then { told with verdict := .infeasible }
      else { told.note (.noStart found.info.status) with verdict := .failed }
    ((store start.point.length).map fun _ => false, settled)

def findStart (kick : Option (KickStart R)) : Except Error Bool × Solver R Systems Programs :=
  let emptied := { solver with working := solver.working.clear }
  match kick with
  | none => searchStart environment emptied
  | some kick =>
    let size := kick.entries.length
    if size ≠ solver.problem.size then
      (.error (.kickStartSize size solver.problem.size), emptied)
    else if kick.usable && Linear.allFinite kick.entries then
      ((store size).map fun _ => false, emptied)
    else searchStart environment emptied

def relax : Except Error Unit × Solver R Systems Programs := (readIncluded solver, solver)

def activate : Except Error Unit × Solver R Systems Programs :=
  let refusal := do
    measure solver.working.excludedCount
    if solver.problem.size < solver.equalityCount + solver.working.includedCount then
      readIncluded solver
  match refusal with
  | .error cause => (.error cause, solver)
  | .ok () => (.ok (), { solver.forgetSystem environment with verdict := .feasible })

def isFeasible (onlyExcluded : Bool) : Except Error Bool :=
  (measure (if onlyExcluded then solver.working.excludedCount
    else solver.equalityCount + solver.inequalityCount)).map fun _ => true

/-- Notes the point, and is refused at the first slack. -/
def traceSlacks (moved : Bool) (moment : Moment) : Except Error Bool × Solver R Systems Programs :=
  if solver.config.tracing then
    ((measure (solver.equalityCount + solver.inequalityCount)).map fun _ => moved,
      solver.note (.solution moment []))
  else (.ok moved, solver)

/-- A target of at most one entry has a step without entries, which is too small. -/
def acceptSolution (target : List R) : Except Error Bool × Solver R Systems Programs :=
  if 1 < target.length then (.error .shapesDiffer, solver)
  else
    let told := (({ solver with direction := [] }.trace (.current [])).trace (.step [])).trace
      .stepTooSmall
    traceSlacks { told with verdict := .feasible } false .afterIteration

def respond (target : Option (List R)) :
    Except Error (Option Bool) × Solver R Systems Programs :=
  let answered := fun (answer : Except Error Bool × Solver R Systems Programs) =>
    (answer.1.map some, answer.2)
  match target with
  | some target => answered (acceptSolution solver target)
  | none =>
    match readIncluded solver, isFeasible solver false with
    | .error cause, _ | .ok (), .error cause => (.error cause, solver)
    | .ok (), .ok _ =>
      answered (traceSlacks { solver with verdict := .feasible } false .afterIteration)

def stepOnce : Except Error (Option Bool) × Solver R Systems Programs :=
  let (target, told) := { solver with blocking := none, stepLength := none }.solveSubproblem
    environment
  let refusal := if target.isNone then .ok ()
    else if 1 < solver.equalityCount then .error .shapesDiffer
    else readIncluded solver
  match refusal with
  | .error cause => (.error cause, told)
  | .ok () => respond told target

def revise : Except Error Bool × Solver R Systems Programs :=
  match if solver.blocking.isSome then .ok () else readIncluded solver with
  | .error cause => (.error cause, solver)
  | .ok () =>
    let (again, next) := solver.revise environment
    (.ok again, next)

end Released
end ConvexQP.Solver
