import ConvexQP.Solver.Feasibility
import ConvexQP.Solver.Relax

/-!
The start of a run: a given point if it is feasible, else the point of the linear programme. Tight
inequality rows enter the working set.
-/
namespace ConvexQP

/-- A point to start from. The point of an earlier result is used only if its verdict is at least
approximate. -/
inductive KickStart (R : Type) where
  | point (entries : List R)
  | result (verdict : Verdict) (entries : List R)

namespace KickStart
variable {R : Type}

def entries : KickStart R → List R
  | point entries => entries
  | result _ entries => entries

def usable : KickStart R → Bool
  | point _ => true
  | result verdict _ => verdict.isApproximate

end KickStart

namespace Solver
variable {R Systems Programs : Type} [Scalar R]
variable (environment : Environment R Systems Programs)

/-- Includes the excluded rows that leave nothing of their bounds. -/
def includeTight (solver : Solver R Systems Programs) : Solver R Systems Programs :=
  let excluded := solver.working.excluded
  let slack := solver.problem.inequalities.slackAt solver.point excluded
  let tight := (excluded.zip slack).filterMap fun (row, left) =>
    if left ≤ solver.config.slackTolerance then some row else none
  { solver with working := tight.foldl WorkingSet.insert solver.working }

/-- Includes the tight rows, as far as there is room for active rows; the point counts as feasible. -/
def activate (solver : Solver R Systems Programs) : Solver R Systems Programs :=
  let filled := solver.includeTight
  let trimmed := trim environment filled.working.includedCount filled
  { trimmed.forgetSystem environment with verdict := .feasible }

def programOptions (solver : Solver R Systems Programs) : ProgramOptions R :=
  ⟨solver.config.programPresolve, solver.config.programTolerance, solver.config.programTimeLimit⟩

/-- The start with the verdict that the search for a feasible point led to. -/
def begin (solver : Solver R Systems Programs) (feasible : Bool) :
    Bool × Solver R Systems Programs :=
  let settled := if feasible then solver.activate environment
    else { solver with verdict := .infeasible }.setPoint (Linear.zeros solver.problem.size)
  let traced := settled.traceSlacks .initial
  (traced.verdict.isFeasible, traced)

/-- Multipliers for the inequality rows from the linear programme. -/
def seedMultipliers (solver : Solver R Systems Programs) (seeds : List R) :
    Except Error (Solver R Systems Programs) :=
  let rows := solver.inequalityMultipliers
  if rows.isEmpty then .ok solver
  else if seeds.length = rows.length then
    .ok (solver.setMultipliers (solver.equalityMultipliers ++ seeds))
  else match seeds with
    | [seed] => .ok (solver.setMultipliers
        (solver.equalityMultipliers ++ List.replicate rows.length seed))
    | _ => .error .shapesDiffer

/-- Looks for a start by the linear programme, with the cost of a given point if there is one. -/
def searchStart (solver : Solver R Systems Programs) (given : Option (List R)) :
    Except Error Bool × Solver R Systems Programs :=
  let found := PhaseOne.search environment.solveProgram solver.problem solver.programOptions
    solver.config.tracing solver.programs given
  let told := { solver with programs := found.programs }.noteAll found.notes
  match found.outcome with
  | .error cause => (.error cause, told)
  | .ok start =>
    if start.found then
      if told.iterate.vector.length < start.point.length then
        (.error (.sourceTooLong start.point.length told.iterate.vector.length), told)
      else
        let placed := told.setPoint start.point
        match placed.seedMultipliers start.multipliers with
        | .error cause => (.error cause, placed)
        | .ok seeded =>
          let (feasible, begun) := seeded.begin environment true
          (.ok feasible, begun)
    else if found.info.status = .infeasible then
      let (feasible, begun) := told.begin environment false
      (.ok feasible, begun)
    else
      let warned := told.note (.noStart found.info.status)
      (.ok false, { warned with verdict := .failed }.setPoint start.point)

/-- Finds a feasible point to start from. The working set is emptied first. -/
def findStart (solver : Solver R Systems Programs) (kick : Option (KickStart R)) :
    Except Error Bool × Solver R Systems Programs :=
  let emptied := { solver with working := solver.working.clear }
  match kick with
  | none => emptied.searchStart environment none
  | some kick =>
    let entries := kick.entries
    if entries.length ≠ solver.problem.size then
      (.error (.kickStartSize entries.length solver.problem.size), emptied)
    else if kick.usable && Linear.allFinite entries then
      let placed := emptied.setPoint entries
      if placed.isFeasible false then
        let (feasible, begun) := placed.begin environment true
        (.ok feasible, begun)
      else placed.searchStart environment (some entries)
    else emptied.searchStart environment none

end Solver
end ConvexQP
