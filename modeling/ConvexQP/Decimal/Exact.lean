/-!
The exact value of a binary floating-point number, and rounding of exact quotients. Everything that
writes a number as decimal text goes through these integers, so no step of it rounds by accident.
-/
namespace ConvexQP.Decimal

/-- What a double stands for: a finite one is `mantissa * 2 ^ exponent`. -/
inductive Exact where
  | undefined
  | infinite (negative : Bool)
  | finite (negative : Bool) (mantissa : Nat) (exponent : Int)
  deriving Repr, DecidableEq

/-- The exponent of the last bit of the smallest double. -/
def leastExponent : Int := -1074

/-- The mantissa of a normal double has this bit set. -/
def hiddenBit : Nat := Nat.pow 2 52

def Exact.ofFloat (value : Float) : Exact :=
  let bits := value.toBits.toNat
  let negative := bits / Nat.pow 2 63 % 2 == 1
  let field := bits / hiddenBit % Nat.pow 2 11
  let fraction := bits % hiddenBit
  if field = 2047 then if fraction = 0 then .infinite negative else .undefined
  else if field = 0 then .finite negative fraction leastExponent
  else .finite negative (hiddenBit + fraction) (leastExponent + (field - 1 : Nat))

/-- `mantissa * base ^ exponent` as a quotient of two integers. -/
def quotient (base mantissa : Nat) (exponent : Int) : Nat × Nat :=
  if 0 ≤ exponent then (mantissa * Nat.pow base exponent.toNat, 1)
  else (mantissa, Nat.pow base (-exponent).toNat)

/-- The integer nearest to a quotient; a half goes to the even neighbour. -/
def roundQuotient (num den : Nat) : Nat :=
  let whole := num / den
  let twice := 2 * (num % den)
  if twice < den then whole
  else if den < twice then whole + 1
  else if whole % 2 = 0 then whole else whole + 1

/-- The value cut off at the point, toward zero. -/
def truncate (negative : Bool) (mantissa : Nat) (exponent : Int) : Int :=
  let parts := quotient 2 mantissa exponent
  let whole : Int := (parts.1 / parts.2 : Nat)
  if negative then -whole else whole

end ConvexQP.Decimal
