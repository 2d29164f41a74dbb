import ConvexQP.LinearProgram.Basic
import ConvexQP.LinearProgram.Simplex

/-!
Sources of answers to linear programmes: a list of prepared answers, handed out in order, or the
simplex method. Either way the programmes that were asked are kept.
-/
namespace ConvexQP

inductive ProgramMethod (R : Type) where
  /-- The answers still to be given. -/
  | prepared (answers : List (ProgramAnswer R))
  | simplex

structure ProgramSource (R : Type) where
  method : ProgramMethod R
  asked : Array (LinearProgram R)

namespace ProgramSource
variable {R : Type} [Scalar R]

/-- What is answered when no prepared answer is left. -/
def exhausted : ProgramAnswer R := ⟨4, none, none, "script exhausted"⟩

def answer : ProgramMethod R → LinearProgram R → ProgramAnswer R × ProgramMethod R
  | .prepared [], _ => (exhausted, .prepared [])
  | .prepared (first :: rest), _ => (first, .prepared rest)
  | .simplex, program => (Simplex.solve program, .simplex)

def solve (source : ProgramSource R) (program : LinearProgram R) :
    ProgramAnswer R × ProgramSource R :=
  let (given, method) := answer source.method program
  (given, ⟨method, source.asked.push program⟩)

/-- The source without the memory of what it was asked. -/
def forget (source : ProgramSource R) : ProgramSource R := { source with asked := #[] }

end ProgramSource
end ConvexQP
