import ConvexQP.Scalar

/-!
Comparison of computed values. A value counts as zero up to an absolute bound; everything else is
measured relative to a reference value, unless the reference itself counts as zero.
-/
namespace ConvexQP

/-- A comparison context: two values are told apart only beyond `bound`. -/
structure Tolerance (R : Type) where
  bound : R
  deriving Repr

namespace Tolerance
variable {R : Type} [Scalar R]

def isZero (tolerance : Tolerance R) (value : R) : Bool :=
  decide (magnitude value ≤ tolerance.bound)

/-- Small beside `reference`; small in itself when the reference counts as zero. -/
def isSmall (tolerance : Tolerance R) (reference value : R) : Bool :=
  if tolerance.isZero reference then tolerance.isZero value
  else tolerance.isZero (value / reference)

/-- The values differ by more than the bound, relative to the one of larger magnitude. -/
def isDifferent (tolerance : Tolerance R) (left right : R) : Bool :=
  if same left right then false
  else !tolerance.isSmall (larger (magnitude left) (magnitude right)) (left - right)

end Tolerance
end ConvexQP
