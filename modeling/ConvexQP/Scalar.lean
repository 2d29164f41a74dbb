/-!
Number systems the solver computes in. Every numerical definition of the library is written over
`Scalar`, so one text is read in binary floating point when it runs and in exact arithmetic when
it is reasoned about. Comparisons are decidable but need not be total: a value that compares with
nothing, itself included, is allowed, and `larger` and `smaller` say what becomes of it.
-/
namespace ConvexQP

/-- The operations of the solver's arithmetic. No law is assumed. -/
class Scalar (R : Type) extends Zero R, One R, Add R, Sub R, Mul R, Div R, Neg R, LE R, LT R,
    OfScientific R where
  decideLE : DecidableLE R
  decideLT : DecidableLT R
  /-- Distance from zero. -/
  magnitude : R → R
  squareRoot : R → R
  /-- Neither infinite nor undefined. -/
  finite : R → Bool

attribute [reducible] Scalar.decideLE Scalar.decideLT
attribute [instance] Scalar.decideLE Scalar.decideLT

export Scalar (magnitude squareRoot finite)

instance : Scalar Float where
  zero := 0.0
  one := 1.0
  add := Float.add
  sub := Float.sub
  mul := Float.mul
  div := Float.div
  neg := Float.neg
  le := (· ≤ ·)
  lt := (· < ·)
  ofScientific := OfScientific.ofScientific
  decideLE := fun left right => inferInstanceAs (Decidable (left ≤ right))
  decideLT := fun left right => inferInstanceAs (Decidable (left < right))
  magnitude := Float.abs
  squareRoot := Float.sqrt
  finite := Float.isFinite

variable {R : Type} [Scalar R]

/-- The first argument unless the second exceeds it, so an undefined first argument is kept. -/
def larger (first second : R) : R := if first < second then second else first

/-- The first argument unless the second falls below it. -/
def smaller (first second : R) : R := if second < first then second else first

/-- Equality of values: a signed zero equals the other one, an undefined value equals nothing. -/
def same (left right : R) : Bool := decide (left ≤ right) && decide (right ≤ left)

end ConvexQP
