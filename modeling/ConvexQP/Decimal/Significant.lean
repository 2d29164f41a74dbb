import ConvexQP.Decimal.Exact

/-!
Decimal numbers with a fixed count of significant digits: the nearest one to an exact value, and
the double nearest to it.
-/
namespace ConvexQP.Decimal

/-- `digits`, read with the point after its first digit, times `10 ^ exponent`. `count` says how
many digits there are, so zero has digits too. -/
structure Significant where
  negative : Bool
  digits : Nat
  count : Nat
  exponent : Int
  deriving Repr, DecidableEq

def digitCount (value : Nat) : Nat := (Nat.toDigits 10 value).length

/-- `10 ^ power` does not exceed the quotient. -/
def reaches (num den : Nat) (power : Int) : Bool :=
  if 0 ≤ power then decide (den * Nat.pow 10 power.toNat ≤ num)
  else decide (den ≤ num * Nat.pow 10 (-power).toNat)

/-- The power of ten of the leading digit of a positive quotient. -/
def leadingPower (num den : Nat) : Int :=
  let guess : Int := (digitCount num : Int) - digitCount den
  if reaches num den guess then guess else guess - 1

/-- The quotient times `10 ^ power`, again as a quotient. -/
def scaled (num den : Nat) (power : Int) : Nat × Nat :=
  if 0 ≤ power then (num * Nat.pow 10 power.toNat, den)
  else (num, den * Nat.pow 10 (-power).toNat)

namespace Significant

def zero (negative : Bool) (count : Nat) : Significant := ⟨negative, 0, count, 0⟩

/-- The decimal of `count` digits nearest to a quotient, the even one on a tie. -/
def nearest (negative : Bool) (num den count : Nat) : Significant :=
  if num = 0 then zero negative count
  else
    let power := leadingPower num den
    let parts := scaled num den ((count : Int) - 1 - power)
    let digits := roundQuotient parts.1 parts.2
    if digits = Nat.pow 10 count then ⟨negative, Nat.pow 10 (count - 1), count, power + 1⟩
    else ⟨negative, digits, count, power⟩

def toFloat (value : Significant) : Float :=
  let last : Int := value.exponent - ((value.count : Int) - 1)
  let size := if 0 ≤ last then Float.ofScientific value.digits false last.toNat
    else Float.ofScientific value.digits true (-last).toNat
  if value.negative then -size else size

end Significant

/-- Below this size a value is reported as zero. -/
def reportFloor : Float := 1e-9

/-- The value kept to nine significant digits, and to zero when it is tiny: two computations that
differ only in their last bits agree on it. -/
def nineDigits (value : Float) : Float :=
  if value.abs < reportFloor then 0.0
  else
    match Exact.ofFloat value with
    | .finite negative mantissa exponent =>
      let parts := quotient 2 mantissa exponent
      (Significant.nearest negative parts.1 parts.2 9).toFloat
    | _ => value

end ConvexQP.Decimal
