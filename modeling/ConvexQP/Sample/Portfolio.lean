import ConvexQP.Problem.Build
import ConvexQP.Sample.Draws

/-!
A portfolio that only holds: weights sum to one and are not negative, and the expected return is
weighed against the variance of a model with three common factors. The factors are drawn first,
then the variances of the assets, then the returns.
-/
namespace ConvexQP.Sample.Portfolio
variable {R : Type} [Scalar R]

def factorCount : Nat := 3

/-- The covariance of two assets through their factors. -/
def shared (left right : List R) : R := Linear.dot left right / 3.0

/-- The covariances, each asset with a variance of its own on the diagonal. -/
def covariance (factors : List (List R)) (variances : List R) : List (List R) :=
  (factors.zip (Linear.identity factors.length)).map fun (left, unit) =>
    ((factors.map (shared left)).zip (unit.zip variances)).map fun (common, mark, own) =>
      common + mark * own

def arrays (assets : Nat) (aversion : R) (normals uniforms : List R) : ProblemArrays R :=
  let factors := takeRows factorCount assets normals
  let variances := (uniforms.take assets).map (between 0.01 0.05)
  let returns := ((uniforms.drop assets).take assets).map (between 0.02 0.12)
  let quadratic := (covariance factors variances).map (Linear.scale aversion)
  { quadratic := Tensor.ofRows assets quadratic
    linear := Tensor.ofList returns
    equalityRows := some (Tensor.ofRows assets [List.replicate assets 1])
    equalityBounds := some (Tensor.ofList [1])
    inequalityRows := some (Tensor.ofRows assets ((Linear.identity assets).map Linear.negate))
    inequalityBounds := some (Tensor.ofList (Linear.zeros assets)) }

def problem (assets : Nat) (aversion : R) (normals uniforms : List R) :
    Except Error (Problem R) := (arrays assets aversion normals uniforms).build

end ConvexQP.Sample.Portfolio
