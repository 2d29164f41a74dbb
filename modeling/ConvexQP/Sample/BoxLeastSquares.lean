import ConvexQP.Problem.Build
import ConvexQP.Sample.Draws

/-!
Least squares in a box: half of the squared residual of a drawn system is minimised over points
whose entries lie between plus and minus one half. The matrix is drawn first, then the right-hand
side.
-/
namespace ConvexQP.Sample.BoxLeastSquares
variable {R : Type} [Scalar R]

def arrays (height width : Nat) (normals : List R) : ProblemArrays R :=
  let matrix := takeRows width height normals
  let target := ((normals.drop (height * width)).take height).map (· * 3.0)
  let columns := Linear.transpose width matrix
  let unit := Linear.identity width
  { quadratic := Tensor.ofRows width (columns.map (Linear.apply columns))
    linear := Tensor.ofList (Linear.apply columns target)
    inequalityRows := some (Tensor.ofRows width (unit ++ unit.map Linear.negate))
    inequalityBounds := some (Tensor.ofList (List.replicate (2 * width) 0.5)) }

def problem (height width : Nat) (normals : List R) : Except Error (Problem R) :=
  (arrays height width normals).build

end ConvexQP.Sample.BoxLeastSquares
