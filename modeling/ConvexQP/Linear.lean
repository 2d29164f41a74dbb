import ConvexQP.Scalar

/-!
Vectors as lists and matrices as lists of rows. Sums run from the left. Lengths are not checked
here; the callers keep them equal.
-/
namespace ConvexQP.Linear
variable {R : Type} [Scalar R]

def zeros (size : Nat) : List R := List.replicate size 0

def sum (values : List R) : R := values.foldl (· + ·) 0

def dot (left right : List R) : R := sum (left.zipWith (· * ·) right)

def norm (vector : List R) : R := squareRoot (dot vector vector)

def subtract (left right : List R) : List R := left.zipWith (· - ·) right

def negate (vector : List R) : List R := vector.map (-·)

def scale (factor : R) (vector : List R) : List R := vector.map (factor * ·)

/-- `base + factor * direction`. -/
def addScaled (factor : R) (direction base : List R) : List R :=
  base.zipWith (fun start along => start + factor * along) direction

def divide (left right : List R) : List R := left.zipWith (· / ·) right

def apply (rows : List (List R)) (vector : List R) : List R := rows.map (dot · vector)

def column (rows : List (List R)) (place : Nat) : List R := rows.map fun row => row.getD place 0

def transpose (width : Nat) (rows : List (List R)) : List (List R) :=
  (List.range width).map (column rows)

/-- The rows with the given numbers, in that order. -/
def pick {Item : Type} (items : List Item) (numbers : List Nat) : List Item :=
  numbers.filterMap (items[·]?)

def unitRow (size place : Nat) : List R :=
  (List.range size).map fun here => if here = place then 1 else 0

def identity (size : Nat) : List (List R) := (List.range size).map (unitRow size)

def allFinite (values : List R) : Bool := values.all finite

end ConvexQP.Linear
