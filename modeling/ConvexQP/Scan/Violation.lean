import ConvexQP.Tolerance

/-!
Scans for the first violated row. `bounds` are right-hand sides and `bodies` the values of the
rows at a point.
-/
namespace ConvexQP.Violation
variable {R : Type} [Scalar R]

/-- The body misses its bound on either side. -/
def ofEquality (tolerance : Tolerance R) (bound body : R) : Bool :=
  tolerance.isDifferent bound body

/-- The body lies above its bound by more than the tolerance. -/
def ofInequality (tolerance : Tolerance R) (bound body : R) : Bool :=
  decide (bound < body) && tolerance.isDifferent bound body

def firstEquality (tolerance : Tolerance R) (bounds bodies : List R) : Option Nat :=
  (bounds.zip bodies).findIdx? fun row => ofEquality tolerance row.1 row.2

def firstInequality (tolerance : Tolerance R) (bounds bodies : List R) : Option Nat :=
  (bounds.zip bodies).findIdx? fun row => ofInequality tolerance row.1 row.2

end ConvexQP.Violation
