import ConvexQP.LinearProgram.Script
import ConvexQP.Solver.State

/-!
Dense linear systems for the solver, and an environment that consists of them and of a source of
answers to linear programmes. The solutions of chosen systems can be disturbed, which shows how the
solver goes on without them.
-/
namespace ConvexQP

/-- What becomes of a disturbed solution: it is withheld, or every entry is replaced by one value. -/
inductive Disturbance (R : Type) where
  | withhold
  | overwrite (entry : R)

structure Fault (R : Type) where
  disturbance : Disturbance R
  /-- The systems whose solutions are disturbed, by their numbers from zero; all of them if
  absent. -/
  systems : Option (List Nat)

def Fault.strikes {R : Type} (fault : Fault R) (number : Nat) : Bool :=
  fault.systems.all fun numbers => numbers.contains number

def Disturbance.apply {R : Type} : Disturbance R → List R → Option (List R)
  | withhold, _ => none
  | overwrite entry, solution => some (solution.map fun _ => entry)

structure DenseSystems (R : Type) where
  pivotTolerance : R
  cache : FactorCache R (List Nat)
  /-- Notes on the factors are left. -/
  tracing : Bool
  fault : Option (Fault R)
  /-- How many systems were to be solved so far. -/
  count : Nat

namespace DenseSystems
variable {R : Type} [Scalar R]

def new (config : Config R) (fault : Option (Fault R)) : DenseSystems R where
  pivotTolerance := config.pivotTolerance
  cache := FactorCache.empty
  tracing := config.tracing && fault.isNone
  fault
  count := 0

/-- The solution of the system with a number, as it leaves the fault. -/
def disturb (systems : DenseSystems R) (solution : List R) : Option (List R) :=
  match systems.fault with
  | none => some solution
  | some fault =>
    if fault.strikes systems.count then fault.disturbance.apply solution else some solution

def solve (systems : DenseSystems R) (matrix : List (List R)) (rhs : List R) (key : List Nat) :
    Option (List R) × List (FactorNote R) × DenseSystems R :=
  let (answer, cache) := systems.cache.solve systems.pivotTolerance matrix [rhs] (some key)
  let solution := match answer.solution with
    | .ok (some [solution]) => systems.disturb solution
    | _ => none
  (solution, if systems.tracing then answer.notes else [],
    { systems with cache, count := systems.count + 1 })

def forget (systems : DenseSystems R) : DenseSystems R :=
  { systems with cache := systems.cache.forget }

end DenseSystems

abbrev DenseSolver (R : Type) := Solver R (DenseSystems R) (ProgramSource R)

def denseEnvironment {R : Type} [Scalar R] (elapsed : Nat → R) :
    Environment R (DenseSystems R) (ProgramSource R) where
  solveSystem := DenseSystems.solve
  forgetSystem := DenseSystems.forget
  solveProgram := ProgramSource.solve
  elapsed

def DenseSolver.new {R : Type} [Scalar R] (problem : Problem R) (config : Config R)
    (fault : Option (Fault R)) (method : ProgramMethod R) : DenseSolver R :=
  Solver.new problem config (DenseSystems.new config fault) ⟨method, #[]⟩

end ConvexQP
