import ConvexQP.Tolerance

/-!
Choices among the rows of a working set by their multipliers: the row to drop at a stationary
point, and the row to give up when the system cannot be solved.
-/
namespace ConvexQP.MultiplierChoice
variable {R Row : Type} [Scalar R]

/-- Negative beyond the tolerance: dropping the row would lower the objective. -/
def droppable (tolerance : Tolerance R) (multiplier : R) : Bool :=
  decide (multiplier < 0) && !tolerance.isZero multiplier

/-- Keeps the smaller droppable multiplier; an equal one leaves the earlier row in place. -/
def keepLeast (tolerance : Tolerance R) (best : Option (Row × R)) (entry : Row × R) :
    Option (Row × R) :=
  let improves := match best with
    | none => true
    | some leader => decide (entry.2 < leader.2)
  if droppable tolerance entry.2 && improves then some entry else best

/-- The first row of least multiplier among the droppable ones. -/
def mostNegative (tolerance : Tolerance R) (entries : List (Row × R)) : Option Row :=
  (entries.foldl (keepLeast tolerance) none).map (·.1)

/-- The row to drop. The row that entered last is a candidate only when no other qualifies. -/
def rowToDrop [DecidableEq Row] (tolerance : Tolerance R) (latestIn : Option Row)
    (entries : List (Row × R)) : Option Row :=
  match mostNegative tolerance (entries.filter fun entry => some entry.1 ≠ latestIn) with
  | some row => some row
  | none =>
    match (entries.filter fun entry => some entry.1 = latestIn).getLast? with
    | some entry => if droppable tolerance entry.2 then some entry.1 else none
    | none => none

/-- Keeps the larger magnitude; an equal one moves on to the later row. -/
def keepLargest (best : Row × R) (entry : Row × R) : Row × R :=
  if best.2 ≤ magnitude entry.2 then (entry.1, magnitude entry.2) else best

/-- The last row of largest magnitude. An undefined multiplier is passed over. -/
def largestMagnitude : List (Row × R) → Option Row
  | [] => none
  | entry :: rest => some ((entry :: rest).foldl keepLargest (entry.1, 0)).1

end ConvexQP.MultiplierChoice
