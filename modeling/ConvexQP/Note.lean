import ConvexQP.FactorCache
import ConvexQP.LinearProgram.Basic
import ConvexQP.Verdict
import ConvexQP.WorkingSet

/-!
What a solver says while it works: warnings, which are always given, and notes that trace its steps.
-/
namespace ConvexQP

/-- When the slacks of a point are noted. -/
inductive Moment where
  | initial
  | afterIteration
  deriving Repr, DecidableEq

inductive Note (R : Type) where
  | factor (note : FactorNote R)
  | programEnded (status : ProgramStatus) (message : String)
  /-- The cost was only a hint; feasibility is asked for on its own. -/
  | programRepeated (status : ProgramStatus)
  | noStart (status : ProgramStatus)
  | iterationLimit (limit : Nat)
  | timeLimit (limit : R)
  | notFinite
  | systemNotSolved (included : List Nat)
  | current (point : List R)
  | step (direction : List R)
  | stepTooSmall
  | stepLengths (ratios : List R)
  | relax (row : Nat) (largest : R)
  | workingSet (set : WorkingSet)
  | suggestion (toInclude toExclude : Option Nat)
  | solution (moment : Moment) (point : List R)
  | equalitySlack (moment : Moment) (slack : List R)
  | includedSlack (moment : Moment) (slack : List R)
  | excludedSlack (moment : Moment) (slack : List R)

def Note.isWarning {R : Type} : Note R → Bool
  | .programRepeated _ | .noStart _ | .iterationLimit _ | .timeLimit _ | .notFinite => true
  | _ => false

/-- One pass of the solver as it is kept in the history. -/
structure Entry (R : Type) where
  iteration : Nat
  objective : R
  /-- The step length, unless the pass made no ratio test. -/
  stepLength : Option R
  stepNorm : R
  moved : Bool
  included : List Nat
  toInclude : Option Nat
  toExclude : Option Nat
  verdict : Verdict
  deriving Repr

/-- Lines of the iteration table. -/
inductive TableLine (R : Type) where
  | heading
  | pass (number : Nat) (entry : Entry R)
  | closing (verdict : Verdict) (iterations : Nat)

end ConvexQP
