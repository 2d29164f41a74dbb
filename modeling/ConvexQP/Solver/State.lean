import ConvexQP.Kkt
import ConvexQP.Note
import ConvexQP.PhaseOne
import ConvexQP.Result
import ConvexQP.Settings

/-!
The state of an active-set solver, and the small steps that only move data: reading and writing the
buffers, moving rows in and out of the working set, and noting what happens. The environment holds
what the solver is told from outside: solutions of linear systems, answers to linear programmes and
the time that has passed.
-/
namespace ConvexQP

/-- What a solver relies on. `Systems` and `Programs` are the states of the two methods. -/
structure Environment (R Systems Programs : Type) where
  /-- Solves the system of a working set, whose rows are the key, if the system can be solved. -/
  solveSystem : Systems → List (List R) → List R → List Nat →
    Option (List R) × List (FactorNote R) × Systems
  /-- Forgets what was kept for the last working set. -/
  forgetSystem : Systems → Systems
  solveProgram : PhaseOne.ProgramSolver R Programs
  /-- The time since the start of the run at each reading of the clock. -/
  elapsed : Nat → R

structure Solver (R Systems Programs : Type) where
  problem : Problem R
  config : Config R
  iterate : Stored R
  /-- Multipliers of the equality rows, followed by those of the inequality rows. -/
  multipliers : Stored R
  working : WorkingSet
  direction : List R
  /-- The row that stopped the last step. -/
  blocking : Option Nat
  verdict : Verdict
  iterations : Nat
  history : Array (Entry R)
  stepLength : Option R
  toInclude : Option Nat
  toExclude : Option Nat
  clockReadings : Nat
  systems : Systems
  programs : Programs
  notes : Array (Note R)
  printed : Array (TableLine R)

namespace Solver
variable {R Systems Programs : Type} [Scalar R]

def realBytes : Nat := 8

/-- A buffer of zeros with an allocator of its own. -/
def buffer (config : Config R) (size : Nat) : Stored R :=
  ((Stored.new (Allocator.new config.allocator) config.capacities 0 realBytes).extend
    (Linear.zeros size)).stored

def new (problem : Problem R) (config : Config R) (systems : Systems) (programs : Programs) :
    Solver R Systems Programs where
  problem
  config
  iterate := buffer config problem.size
  multipliers := buffer config (problem.equalities.count + problem.inequalities.count)
  working := WorkingSet.empty problem.inequalities.count
  direction := Linear.zeros problem.size
  blocking := none
  verdict := .failed
  iterations := 0
  history := #[]
  stepLength := none
  toInclude := none
  toExclude := none
  clockReadings := 0
  systems
  programs
  notes := #[]
  printed := #[]

variable (solver : Solver R Systems Programs)

def equalityCount : Nat := solver.problem.equalities.count
def inequalityCount : Nat := solver.problem.inequalities.count

def point : List R := solver.iterate.vector.toList

def multiplierList : List R := solver.multipliers.vector.toList

def equalityMultipliers : List R := solver.multiplierList.take solver.equalityCount
def inequalityMultipliers : List R := solver.multiplierList.drop solver.equalityCount

def multipliersAt (rows : List Nat) : List R :=
  rows.map fun row => solver.inequalityMultipliers.getD row 0

/-- Equality multipliers followed by those of the included rows. -/
def activeMultipliers : List R :=
  solver.equalityMultipliers ++ solver.multipliersAt solver.working.included

def note (entry : Note R) : Solver R Systems Programs :=
  { solver with notes := solver.notes.push entry }

/-- A note that is left only when steps are traced. -/
def trace (entry : Note R) : Solver R Systems Programs :=
  if solver.config.tracing then solver.note entry else solver

def noteAll (entries : List (Note R)) : Solver R Systems Programs :=
  entries.foldl note solver

def printLine (line : TableLine R) : Solver R Systems Programs :=
  if solver.config.table then { solver with printed := solver.printed.push line } else solver

end Solver

namespace Stored
variable {Item : Type}

/-- Overwrites the leading elements; more items than elements change nothing. -/
def overwrite (stored : Stored Item) (items : List Item) : Stored Item :=
  match stored.vector.overwriteLeading items with
  | .ok vector => { stored with vector }
  | .error _ => stored

end Stored

namespace Solver
variable {R Systems Programs : Type} [Scalar R] (solver : Solver R Systems Programs)

def setPoint (entries : List R) : Solver R Systems Programs :=
  { solver with iterate := solver.iterate.overwrite entries }

def setMultipliers (entries : List R) : Solver R Systems Programs :=
  { solver with multipliers := solver.multipliers.overwrite entries }

/-- Puts values at the places of rows. -/
def scatter (values : List R) (rows : List Nat) (entries : List R) : List R :=
  (rows.zip entries).foldl (fun updated (row, entry) => updated.set row entry) values

def storeMultipliers (included : List Nat) (found : List R) : Solver R Systems Programs :=
  let equalities := found.take solver.equalityCount
  let rest := found.drop solver.equalityCount
  solver.setMultipliers (equalities ++ scatter solver.inequalityMultipliers included rest)

variable (environment : Environment R Systems Programs)

def forgetSystem : Solver R Systems Programs :=
  { solver with systems := environment.forgetSystem solver.systems }

def includeRow (row : Nat) : Solver R Systems Programs :=
  { solver with working := solver.working.insert row }.forgetSystem environment

/-- Moves a row out of the working set and forgets its multiplier. -/
def excludeRow (row : Nat) : Solver R Systems Programs :=
  ({ solver with working := solver.working.erase row }.setMultipliers
    (solver.equalityMultipliers ++ solver.inequalityMultipliers.set row 0)).forgetSystem environment

/-- Notes what the rows leave of their bounds at the current point. -/
def traceSlacks (moment : Moment) : Solver R Systems Programs :=
  let x := solver.point
  let problem := solver.problem
  let included := solver.working.included
  let excluded := solver.working.excluded
  let withEqualities := if problem.equalities.rows.isEmpty then []
    else [Note.equalitySlack moment (problem.equalities.slack x)]
  let withIncluded := if included.isEmpty then []
    else [Note.includedSlack moment (problem.inequalities.slackAt x included)]
  let withExcluded := if excluded.isEmpty then []
    else [Note.excludedSlack moment (problem.inequalities.slackAt x excluded)]
  if solver.config.tracing then
    solver.noteAll (Note.solution moment x :: withEqualities ++ withIncluded ++ withExcluded)
  else solver

end Solver
end ConvexQP
