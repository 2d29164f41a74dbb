import ConvexQP.Datum
import ConvexQP.Scalar

/-!
Types of stored elements, and how values become elements. A loose value is either fit for the type
or refused; an element of another type is always cast: fractions and imaginary parts are dropped,
and a real outside the range of whole numbers becomes the least of them.
-/
namespace ConvexQP

inductive ElementType where
  | float64
  | float32
  | int64
  | complex128
  deriving Repr, DecidableEq

/-- A stored number. Single-precision elements are kept as the double of equal value. -/
inductive Element where
  | real (value : Float)
  | whole (value : Int64)
  | complex (re im : Float)
  deriving Repr, Inhabited

namespace Element

/-- Fraction bits of a single, the least exponent of its last bit, and its range. -/
def singleBits : Int := 24
def singleLeastExponent : Int := -149
def singleRange : Nat := Nat.pow 2 128

/-- The exponent field of a double that is one. -/
def doubleBias : Int := 1023

/-- A power of two with the exponent of a normal double. -/
def powerOfTwo (exponent : Int) : Float :=
  Float.ofBits (UInt64.ofNat ((exponent + doubleBias).toNat * Decimal.hiddenBit))

/-- The double of the single-precision number nearest to `mantissa * 2 ^ exponent`, ties to even. -/
def singleOf (negative : Bool) (mantissa : Nat) (exponent : Int) : Float :=
  let last := max ((Nat.log2 mantissa : Int) + 1 + exponent - singleBits) singleLeastExponent
  let parts := Decimal.quotient 2 mantissa (exponent - last)
  let rounded := Decimal.roundQuotient parts.1 parts.2
  let whole := Decimal.quotient 2 rounded last
  let size := if singleRange * whole.2 ≤ whole.1 then 1.0 / 0.0
    else Float.ofNat rounded * powerOfTwo last
  if negative then -size else size

def toSingle (value : Float) : Float :=
  match Decimal.Exact.ofFloat value with
  | .finite negative mantissa exponent => singleOf negative mantissa exponent
  | _ => value

def leastWhole : Int64 := Int64.minValue

/-- The least positive whole number that is out of range. -/
def wholeRange : Nat := Nat.pow 2 63

def wholeInRange (value : Int) : Bool :=
  decide (-(wholeRange : Int) ≤ value) && decide (value < wholeRange)

/-- A real without its fraction, or the least whole number when that is out of range. -/
def wholeOfReal (value : Float) : Int64 :=
  match Datum.truncated value with
  | .ok number => if wholeInRange number then Int64.ofInt number else leastWhole
  | .error _ => leastWhole

def realOfWhole (value : Int64) : Float :=
  let number := value.toInt
  let size := Decimal.floatOfDigits number.natAbs 0
  if number < 0 then -size else size

/-- A whole number as a single: it is rounded once, and not to a double first. -/
def singleOfWhole (value : Int64) : Float :=
  let number := value.toInt
  singleOf (number < 0) number.natAbs 0

def toReal : Element → Float
  | real value => value
  | whole value => realOfWhole value
  | complex re _ => re

def cast (type : ElementType) (element : Element) : Element :=
  match type, element with
  | .float64, element => real element.toReal
  | .float32, whole value => real (singleOfWhole value)
  | .float32, element => real (toSingle element.toReal)
  | .int64, whole value => whole value
  | .int64, element => whole (wholeOfReal element.toReal)
  | .complex128, complex re im => complex re im
  | .complex128, element => complex element.toReal 0.0

def blank (type : ElementType) : Element := cast type (real 0.0)

/-- A loose value as an element. An absent value is an undefined real. -/
def ofDatum (type : ElementType) (datum : Datum) : Except Error Element :=
  match type, datum with
  | _, .list _ => .error .sequenceForNumber
  | .int64, datum => do
    let number ← datum.toInteger
    if wholeInRange number then .ok (whole (Int64.ofInt number)) else .error .integerTooLarge
  | .complex128, .complex re im => .ok (complex re im)
  | .complex128, .absent => .ok (complex (0.0 / 0.0) (0.0 / 0.0))
  | type, .absent => .ok (cast type (real (0.0 / 0.0)))
  | type, datum => do
    let value ← datum.toReal
    .ok (cast type (real value))

def toDatum : Element → Datum
  | real value => .real value
  | whole value => .integer value.toInt
  | complex re im => .complex re im

/-- The sum of an element and a loose value, stored back as an element. Whole numbers wrap; a real
addend makes the sum real before its fraction is dropped. -/
def plus (type : ElementType) (element : Element) (addend : Datum) : Except Error Element :=
  match addend with
  | .absent | .text _ => .error .wrongKind
  | .list _ => .error .sequenceForNumber
  | .complex re im =>
    match element with
    | complex re' im' => .ok (complex (re' + re) (im' + im))
    | other => .ok (cast type (complex (other.toReal + re) im))
  | .flag _ | .integer _ | .real _ =>
    match element, addend.wholeValue with
    | whole value, some number =>
      if wholeInRange number then .ok (whole (value + Int64.ofInt number))
      else .error .integerTooLarge
    | whole value, none => do
      let number ← addend.toReal
      .ok (cast type (real (realOfWhole value + number)))
    | real value, _ => do
      let number ← addend.toReal
      let fitted := match type with
        | .float32 => toSingle number
        | _ => number
      .ok (cast type (real (value + fitted)))
    | complex re im, _ => do
      let number ← addend.toReal
      .ok (complex (re + number) im)

end Element

namespace ElementType

def itemBytes : ElementType → Nat
  | float64 => 8
  | float32 => 4
  | int64 => 8
  | complex128 => 16

def name : ElementType → String
  | float64 => "float64"
  | float32 => "float32"
  | int64 => "int64"
  | complex128 => "complex128"

def ofName? : String → Option ElementType
  | "float64" => some float64
  | "float32" => some float32
  | "int64" => some int64
  | "complex128" => some complex128
  | _ => none

end ElementType

/-- How stored numbers enter the arithmetic they are added up in: reals, whole numbers, and rounding
to singles. -/
structure Reading (R : Type) where
  real : Float → R
  whole : Int64 → R
  single : R → R

/-- Floating point, as the elements are stored. -/
def Reading.floating : Reading Float := ⟨id, Element.realOfWhole, Element.toSingle⟩

variable {R : Type} [Scalar R]

/-- The sum of the squares of a part of a vector, added up from the left. -/
def squareSum (values : List R) : R := values.foldl (fun total value => total + value * value) 0

/-- The product of a whole number with itself is added, with wrapping. -/
def addWholeSquare (total : Int64) : Element → Int64
  | .whole value => total + value * value
  | _ => total

/-- What a part of a vector adds under the root of the norm: complex numbers count with both their
parts, whole numbers are multiplied and added with wrapping, singles with rounding to singles. -/
def ElementType.partSquares (reading : Reading R) (type : ElementType) (part : List Element) : R :=
  match type with
  | .float64 => squareSum (part.map fun element => reading.real element.toReal)
  | .complex128 => squareSum (part.flatMap fun
      | .complex re im => [reading.real re, reading.real im]
      | other => [reading.real other.toReal, 0])
  | .int64 => reading.whole (part.foldl addWholeSquare 0)
  | .float32 => part.foldl (fun total element =>
      let value := reading.real element.toReal
      reading.single (total + reading.single (value * value))) 0

end ConvexQP
