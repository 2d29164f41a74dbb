import ConvexQP.Solver.Released

/-!
A solver driven from outside, one request after the other. Loose values are read as each request
needs them, and a request may be refused; what it did before the refusal stays.
-/
namespace ConvexQP

/-- The start of a run: none, a given one, or the result of the latest run. -/
inductive Kick (R : Type) where
  | none
  | given (start : KickStart R)
  | latest

/-- The single steps of the method, and looks at the state between them. -/
inductive SolverStep where
  | activate
  | stepOnce
  | revise
  | isFeasible (onlyExcluded : Bool)
  | rowToInclude
  | rowToExclude
  | activeMultipliers
  | relax

inductive SolverRequest (R : Type) where
  /-- A whole run. It stays unfinished where it takes more passes than its budget. -/
  | solve (kick : Kick R) (budget : Nat := Solver.passBudget)
  | findStart (kick : Kick R)
  | take (step : SolverStep)
  /-- The outcome of a subproblem, and its solution. -/
  | respond (solved : Bool) (target : Option (List R))
  | includeRow (index : Datum)
  | excludeRow (index : Datum)
  | setPoint (entries : List R)
  | setMultipliers (entries : List R)
  | liveBytes
  | close
  | useAndClose

inductive SolverReply (R : Type) where
  | done
  | flag (answer : Bool)
  | row (number : Option Nat)
  | numbers (values : List R)
  | bytes (iterate multipliers : Int)
  | finished (result : Result R) (history : List (Entry R))
  | unfinished

structure Session (R Systems Programs : Type) where
  solver : Solver R Systems Programs
  latest : Option (Result R)

namespace Session
variable {R Systems Programs : Type} [Scalar R]

def new (solver : Solver R Systems Programs) : Session R Systems Programs := ⟨solver, none⟩

variable (environment : Environment R Systems Programs)

def start (session : Session R Systems Programs) : Kick R → Option (KickStart R)
  | .none => none
  | .given start => some start
  | .latest => session.latest.map fun result => .result result.verdict result.point

/-- Forgets the multiplier of a row named by a loose value. Only an index is taken. -/
def forgetMultiplier (solver : Solver R Systems Programs) (index : Datum) :
    Except Error (Solver R Systems Programs) := do
  let row ← index.toIndex
  let vector ← solver.multipliers.vector.set (solver.equalityCount + row) 0
  return { solver with multipliers := { solver.multipliers with vector } }

/-- Moves a row and forgets the system; a row that leaves loses its multiplier in between. -/
def moveRow (solver : Solver R Systems Programs) (move : WorkingSet.Move) :
    Except Error Unit × Solver R Systems Programs :=
  match solver.working.move move with
  | (.error cause, working) => (.error cause, { solver with working })
  | (.ok (), working) =>
    let moved := { solver with working }
    let cleared := match move with
      | .erase index => forgetMultiplier moved index
      | _ => .ok moved
    match cleared with
    | .error cause => (.error cause, moved)
    | .ok cleared => (.ok (), cleared.forgetSystem environment)

def overwrite (buffer : Stored R) (entries : List R) : Except Error (Stored R) :=
  (buffer.vector.overwriteLeading entries).map fun vector => { buffer with vector }

/-- A target with one entry stands for every place. A target of another length is seen through as
far as its step is too small to be taken. -/
def respondTo (solver : Solver R Systems Programs) (target : List R) :
    Except Error (Option Bool) × Solver R Systems Programs :=
  match fitLengths target solver.point with
  | .error cause => (.error cause, solver)
  | .ok (target, point) =>
    let direction := Linear.subtract target point
    if direction.length = solver.problem.size ||
        solver.solutionTolerance.isSmall (Linear.norm solver.point) (Linear.norm direction) then
      let (moved, next) := solver.acceptSolution direction
      (.ok (some moved), next)
    else
      (.error .shapesDiffer,
        ({ solver with direction }.trace (.current solver.point)).trace (.step direction))

def respond (solver : Solver R Systems Programs) (solved : Bool)
    (target : Option (List R)) : Except Error (Option Bool) × Solver R Systems Programs :=
  match solved, target with
  | true, none => (.error .wrongKind, solver)
  | true, some target =>
    if solver.isReleased then Solver.Released.respond solver (some target)
    else respondTo solver target
  | false, _ =>
    if solver.isReleased then Solver.Released.respond solver none
    else
      let (answer, next) := solver.respond environment none
      (.ok answer, next)

/-- A step of a solver that holds its buffers. -/
def take (solver : Solver R Systems Programs) :
    SolverStep → Except Error (SolverReply R) × Solver R Systems Programs
  | .activate => (.ok .done, solver.activate environment)
  | .stepOnce =>
    let (moved, next) := solver.stepOnce environment
    (.ok (.flag moved), next)
  | .revise =>
    let (again, next) := solver.revise environment
    (.ok (.flag again), next)
  | .isFeasible onlyExcluded => (.ok (.flag (solver.isFeasible onlyExcluded)), solver)
  | .rowToInclude => (.ok (.row solver.rowToInclude), solver)
  | .rowToExclude => (.ok (.row solver.rowToExclude), solver)
  | .activeMultipliers => (.ok (.numbers solver.activeMultipliers), solver)
  | .relax => (.ok .done, solver.relax environment)

/-- A decision about the step, or none. -/
def decision : Option Bool → SolverReply R
  | some moved => .flag moved
  | none => .done

/-- The same step once the buffers are given back. -/
def takeReleased (solver : Solver R Systems Programs) :
    SolverStep → Except Error (SolverReply R) × Solver R Systems Programs
  | .activate => (Solver.Released.activate environment solver).map
      (·.map fun _ => .done) id
  | .stepOnce => (Solver.Released.stepOnce environment solver).map
      (·.map decision) id
  | .revise => (Solver.Released.revise environment solver).map
      (·.map .flag) id
  | .isFeasible onlyExcluded =>
    ((Solver.Released.isFeasible solver onlyExcluded).map .flag, solver)
  | .rowToInclude => (.ok (.row solver.rowToInclude), solver)
  | .rowToExclude => ((Solver.Released.readIncluded solver).map fun _ => .row none, solver)
  | .activeMultipliers =>
    ((Solver.Released.readIncluded solver).map fun _ => .numbers [], solver)
  | .relax => (Solver.Released.relax solver).map (·.map fun _ => .done) id

/-- A whole run; its result is kept as the latest one. -/
def runSolve (session : Session R Systems Programs) (budget : Nat) (kick : Kick R) :
    Except Error (SolverReply R) × Session R Systems Programs :=
  let solver := session.solver
  if solver.isReleased then
    let (outcome, next) := Solver.Released.solve solver
    (outcome.map fun _ => .unfinished, { session with solver := next })
  else
    let (outcome, next) := solver.solve environment budget (session.start kick)
    match outcome with
    | .error cause => (.error cause, { session with solver := next })
    | .ok none => (.ok .unfinished, { session with solver := next })
    | .ok (some result) => (.ok (.finished result next.history.toList), ⟨next, some result⟩)

def runFindStart (session : Session R Systems Programs) (kick : Kick R) :
    Except Error Bool × Solver R Systems Programs :=
  let solver := session.solver
  let start := session.start kick
  if solver.isReleased then Solver.Released.findStart environment solver start
  else solver.findStart environment start

def run (session : Session R Systems Programs) (request : SolverRequest R) :
    Except Error (SolverReply R) × Session R Systems Programs :=
  let solver := session.solver
  let stay := fun (reply : Except Error (SolverReply R)) => (reply, session)
  let go := fun (outcome : Except Error (SolverReply R) × Solver R Systems Programs) =>
    (outcome.1, { session with solver := outcome.2 })
  match request with
  | .solve kick budget => session.runSolve environment budget kick
  | .findStart kick => go ((session.runFindStart environment kick).map (·.map .flag) id)
  | .respond solved target =>
    go ((respond environment solver solved target).map (·.map decision) id)
  | .take step => go (if solver.isReleased then takeReleased environment solver step
      else take environment solver step)
  | .includeRow index =>
    go ((moveRow environment solver (.insert index)).map (·.map fun _ => .done) id)
  | .excludeRow index =>
    go ((moveRow environment solver (.erase index)).map (·.map fun _ => .done) id)
  | .setPoint entries => match overwrite solver.iterate entries with
    | .error cause => stay (.error cause)
    | .ok iterate => go (.ok .done, { solver with iterate })
  | .setMultipliers entries => match overwrite solver.multipliers entries with
    | .error cause => stay (.error cause)
    | .ok multipliers => go (.ok .done, { solver with multipliers })
  | .liveBytes => stay
    (.ok (.bytes solver.iterate.allocator.liveBytes solver.multipliers.allocator.liveBytes))
  | .close => go (.ok .done, solver.release)
  | .useAndClose => go (.ok (.flag true), solver.release)

/-- The session without the notes, lines and programmes of the requests so far. -/
def quiet (session : Session R Systems Programs) (forget : Programs → Programs) :
    Session R Systems Programs :=
  { session with solver := { session.solver with
      notes := #[]
      printed := #[]
      programs := forget session.solver.programs } }

end Session
end ConvexQP
