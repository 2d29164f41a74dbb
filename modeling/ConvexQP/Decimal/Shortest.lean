import ConvexQP.Decimal.Significant

/-!
The shortest decimal that reads back as a given double. The doubles next to a value leave an
interval of reals that round to it; for one digit, two digits and so on, the two neighbours of the
value on the decimal grid are tried, and the first grid with a point in the interval decides.
-/
namespace ConvexQP.Decimal

/-- The point `digits * 10 ^ power` of a decimal grid. -/
def gridPoint (digits : Nat) (power : Int) : Nat × Nat := quotient 10 digits power

def quotientLE (left right : Nat × Nat) : Bool := decide (left.1 * right.2 ≤ right.1 * left.2)
def quotientLT (left right : Nat × Nat) : Bool := decide (left.1 * right.2 < right.1 * left.2)

/-- The reals that round to `mantissa * 2 ^ exponent`, in quarters of its last bit. The ends belong
to the interval exactly when the mantissa is even; below a power of two the gap is half as wide. -/
structure RoundingInterval where
  low : Nat × Nat
  high : Nat × Nat
  closed : Bool

def RoundingInterval.ofDouble (mantissa : Nat) (exponent : Int) : RoundingInterval :=
  let below := if mantissa = hiddenBit && decide (leastExponent < exponent) then 1 else 2
  ⟨quotient 2 (4 * mantissa - below) (exponent - 2), quotient 2 (4 * mantissa + 2) (exponent - 2),
    mantissa % 2 = 0⟩

def RoundingInterval.holds (interval : RoundingInterval) (point : Nat × Nat) : Bool :=
  if interval.closed then quotientLE interval.low point && quotientLE point interval.high
  else quotientLT interval.low point && quotientLT point interval.high

/-- The point of a grid of `count` digits that reads back, the nearer one first. -/
def shortestOn (interval : RoundingInterval) (num den : Nat) (power : Int) (count : Nat) :
    Option Nat :=
  let last : Int := power - ((count : Int) - 1)
  let parts := scaled num den (-last)
  let floor := parts.1 / parts.2
  let near := roundQuotient parts.1 parts.2
  let far := if near = floor then floor + 1 else floor
  [near, far].find? fun digits => interval.holds (gridPoint digits last)

/-- Seventeen digits always tell two doubles apart. -/
def mostDigits : Nat := 17

/-- The fewest digits that read back as the double. -/
def shortest (negative : Bool) (mantissa : Nat) (exponent : Int) : Significant :=
  let parts := quotient 2 mantissa exponent
  let power := leadingPower parts.1 parts.2
  let interval := RoundingInterval.ofDouble mantissa exponent
  let found := (List.range mostDigits).findSome? fun fewer =>
    (shortestOn interval parts.1 parts.2 power (fewer + 1)).map (·, fewer + 1)
  match found with
  | some (digits, count) =>
    if mantissa = 0 then Significant.zero negative 1
    else if digits = Nat.pow 10 count then ⟨negative, 1, 1, power + 1⟩
    else ⟨negative, digits, count, power⟩
  | none => Significant.nearest negative parts.1 parts.2 mostDigits

end ConvexQP.Decimal
