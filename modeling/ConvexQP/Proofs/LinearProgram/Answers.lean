import ConvexQP.LinearProgram.Basic
import ConvexQP.Proofs.Exact.Vector

/-!
What the answers to a linear programme mean in exact arithmetic: which points a programme allows,
and which answers about them are right.
-/
namespace ConvexQP
open scoped Exact
variable {K : Type} [Field K] [LinearOrder K] [IsStrictOrderedRing K] [Rooted K]

namespace LinearProgram

/-- The point has no negative entries and meets the equality rows. -/
structure Meets (program : LinearProgram K) (point : List K) : Prop where
  size : point.length = program.cost.length
  nonneg : ∀ entry ∈ point, 0 ≤ entry
  equalities : ∀ block, program.equalities = some block → Linear.apply block.1 point = block.2

/-- The point is allowed, and none that is allowed costs less. -/
def Least (program : LinearProgram K) (point : List K) : Prop :=
  program.Meets point ∧ ∀ other, program.Meets other →
    Linear.dot program.cost point ≤ Linear.dot program.cost other

/-- An answer that reports an optimum brings one, and only a programme without points is reported
as infeasible. Other codes say nothing. -/
structure Sound (program : LinearProgram K) (answer : ProgramAnswer K) : Prop where
  optimal : answer.code = 0 → ∃ point, answer.point = some point ∧ program.Least point
  infeasible : answer.code = 2 → ∀ point, ¬ program.Meets point

/-- A sound answer that does not call a cost unbounded unless it is, and whose reduced costs, if
there are any, belong to the variables. -/
structure Truthful (program : LinearProgram K) (answer : ProgramAnswer K) : Prop
    extends Sound program answer where
  unbounded : answer.code = 3 → (∃ point, program.Meets point) ∧
    ∀ floor, ∃ point, program.Meets point ∧ Linear.dot program.cost point < floor
  marginals : answer.code = 0 → ∀ reduced, answer.marginals = some reduced →
    reduced.length = program.cost.length

/-- A cost of zeros is bounded by zero. -/
theorem Truthful.bounded_of_zeros (program : LinearProgram K) (answer : ProgramAnswer K)
    (truthful : program.Truthful answer) (size : Nat) (free : program.cost = Linear.zeros size) :
    answer.code ≠ 3 := by
  intro unbounded
  obtain ⟨point, _, below⟩ := (truthful.unbounded unbounded).2 0
  rw [free, Linear.dot_zeros] at below
  exact lt_irrefl 0 below

end LinearProgram
end ConvexQP
