import ConvexQP.Decimal.Shortest

/-!
Decimal text of doubles. A `Style` says how many digits are written and where positional text ends
and exponents begin; the three styles the library uses are its values.
-/
namespace ConvexQP.Decimal

structure Style where
  /-- Count of significant digits; without one, the fewest that read back. -/
  digits : Option Nat
  /-- Trailing zeros of the fraction are dropped. -/
  trimmed : Bool
  /-- Numbers with a leading power from -4 up to, and without, this one carry no exponent. -/
  positionalBelow : Int
  /-- A whole number in positional text ends in a point and a zero. -/
  marksWhole : Bool

namespace Style

/-- The fewest digits that read back; a point is always written, unless an exponent is. -/
def shortest : Style := ⟨none, true, 16, true⟩

/-- At most `digits` digits, without trailing zeros. -/
def general (digits : Nat) : Style := ⟨some digits, true, digits, false⟩

/-- One digit before the point, `places` behind it, and an exponent. -/
def scientific (places : Nat) : Style := ⟨some (places + 1), false, -4, false⟩

end Style

def dropTrailingZeros (digits : List Char) : List Char :=
  match (digits.reverse.dropWhile (· == '0')).reverse with
  | [] => ['0']
  | kept => kept

/-- At least two digits and always a sign. -/
def exponentText (exponent : Int) : String :=
  let size := toString exponent.natAbs
  (if exponent < 0 then "e-" else "e+") ++ (if size.length < 2 then "0" ++ size else size)

def scientificText (digits : List Char) (exponent : Int) : String :=
  match digits with
  | [] => ""
  | [only] => String.singleton only ++ exponentText exponent
  | first :: rest => String.singleton first ++ "." ++ String.ofList rest ++ exponentText exponent

def positionalText (marksWhole : Bool) (digits : List Char) (exponent : Int) : String :=
  if exponent < 0 then
    "0." ++ String.ofList (List.replicate (-exponent - 1).toNat '0' ++ digits)
  else
    let width := exponent.toNat + 1
    let whole := digits.take width ++ List.replicate (width - digits.length) '0'
    match digits.drop width with
    | [] => String.ofList whole ++ (if marksWhole then ".0" else "")
    | fraction => String.ofList whole ++ "." ++ String.ofList fraction

def Style.significant (style : Style) (negative : Bool) (mantissa : Nat) (exponent : Int) :
    Significant :=
  match style.digits with
  | none => Decimal.shortest negative mantissa exponent
  | some count =>
    let parts := quotient 2 mantissa exponent
    Significant.nearest negative parts.1 parts.2 count

/-- The digits of the decimal, padded in front to their count. -/
def Significant.characters (value : Significant) : List Char :=
  let digits := Nat.toDigits 10 value.digits
  List.replicate (value.count - digits.length) '0' ++ digits

def Style.write (style : Style) (value : Significant) : String :=
  let digits := if style.trimmed then dropTrailingZeros value.characters else value.characters
  let text :=
    if decide (-4 ≤ value.exponent) && decide (value.exponent < style.positionalBelow) then
      positionalText style.marksWhole digits value.exponent
    else scientificText digits value.exponent
  if value.negative then "-" ++ text else text

/-- The text of a double; the values that are no numbers have names. -/
def Style.text (style : Style) (value : Float) : String :=
  match Exact.ofFloat value with
  | .undefined => "nan"
  | .infinite negative => if negative then "-inf" else "inf"
  | .finite negative mantissa exponent =>
    style.write (style.significant negative mantissa exponent)

def shortestText (value : Float) : String := Style.shortest.text value

end ConvexQP.Decimal
