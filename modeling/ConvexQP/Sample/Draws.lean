import ConvexQP.Linear

/-!
Draws in a row: values are handed out in order and cut into matrices.
-/
namespace ConvexQP.Sample
variable {R : Type} [Scalar R]

/-- The rows of a matrix, taken from a list in row-major order. -/
def takeRows (width : Nat) : Nat → List R → List (List R)
  | 0, _ => []
  | height + 1, draws => draws.take width :: takeRows width height (draws.drop width)

/-- A draw between zero and one, moved between two bounds. -/
def between (low high draw : R) : R := low + (high - low) * draw

end ConvexQP.Sample
