import ConvexQP.Decimal.Reader
import ConvexQP.Decimal.Style
import ConvexQP.Error

/-!
Loose values, as settings, indices and stored elements are given, and what each place makes of
them: a real number, a whole number by truncation, an index, a truth value or a text.
-/
namespace ConvexQP

inductive Datum where
  | absent
  | flag (value : Bool)
  | integer (value : Int)
  | real (value : Float)
  | complex (re im : Float)
  | text (value : String)
  | list (items : List Datum)
  deriving Repr, Inhabited

namespace Datum

/-- A finite real without its fraction. -/
def truncated (value : Float) : Except Error Int :=
  match Decimal.Exact.ofFloat value with
  | .undefined => .error .undefinedInteger
  | .infinite _ => .error .infiniteInteger
  | .finite negative mantissa exponent => .ok (Decimal.truncate negative mantissa exponent)

/-- The double nearest to an integer, if one is finite. -/
def realOfInteger (value : Int) : Except Error Float :=
  let size := Decimal.floatOfDigits value.natAbs 0
  if size.isFinite then .ok (if value < 0 then -size else size) else .error .integerTooLarge

def toReal : Datum → Except Error Float
  | flag value => .ok (if value then 1.0 else 0.0)
  | integer value => realOfInteger value
  | real value => .ok value
  | text value => match Decimal.readReal? value with
    | some number => .ok number
    | none => .error .unreadableText
  | absent | complex .. | list _ => .error .wrongKind

def toInteger : Datum → Except Error Int
  | flag value => .ok (if value then 1 else 0)
  | integer value => .ok value
  | real value => truncated value
  | text value => match Decimal.readInteger? value with
    | some number => .ok number
    | none => .error .unreadableText
  | absent | complex .. | list _ => .error .wrongKind

/-- A position in a sequence: nothing is cut off, so reals are refused. -/
def toIndex : Datum → Except Error Int
  | flag value => .ok (if value then 1 else 0)
  | integer value => .ok value
  | absent | real _ | complex .. | text _ | list _ => .error .wrongKind

def truthy : Datum → Bool
  | absent => false
  | flag value => value
  | integer value => value != 0
  | real value => !(value == 0.0)
  | complex re im => !(re == 0.0 && im == 0.0)
  | text value => !value.isEmpty
  | list items => !items.isEmpty

/-- A real and an integer are equal when the real has no fraction and the same whole part. -/
def realIsInteger (value : Float) (whole : Int) : Bool :=
  match Decimal.Exact.ofFloat value with
  | .finite negative mantissa exponent =>
    let parts := Decimal.quotient 2 mantissa exponent
    parts.1 % parts.2 == 0 && Decimal.truncate negative mantissa exponent == whole
  | _ => false

def toComplexParts : Datum → Option (Float × Float)
  | real value => some (value, 0.0)
  | complex re im => some (re, im)
  | _ => none

def wholeValue : Datum → Option Int
  | flag value => some (if value then 1 else 0)
  | integer value => some value
  | _ => none

mutual

/-- Equality as numbers: integers, truth values and reals are compared by their values. -/
def equals (left right : Datum) : Bool :=
  match left.wholeValue, right.wholeValue with
  | some a, some b => a == b
  | some a, none => match right.toComplexParts with
    | some (re, im) => im == 0.0 && realIsInteger re a
    | none => false
  | none, some b => match left.toComplexParts with
    | some (re, im) => im == 0.0 && realIsInteger re b
    | none => false
  | none, none =>
    match left, right with
    | absent, absent => true
    | text a, text b => a == b
    | list a, list b => equalLists a b
    | a, b => match a.toComplexParts, b.toComplexParts with
      | some x, some y => x.1 == y.1 && x.2 == y.2
      | _, _ => false

def equalLists : List Datum → List Datum → Bool
  | [], [] => true
  | a :: left, b :: right => equals a b && equalLists left right
  | _, _ => false

end

instance : BEq Datum := ⟨equals⟩

def singleQuote : Char := Char.ofNat 39
def doubleQuote : Char := Char.ofNat 34
def backslash : Char := Char.ofNat 92

/-- A text between single quotes, or between double quotes when it holds single quotes only. -/
def quoted (value : String) : String :=
  let plain := value.toList
  let quote := if plain.contains singleQuote && !plain.contains doubleQuote then doubleQuote
    else singleQuote
  let escaped := plain.flatMap fun char =>
    if char = backslash || char = quote then [backslash, char]
    else if char = '\n' then [backslash, 'n']
    else if char = '\r' then [backslash, 'r']
    else if char = '\t' then [backslash, 't']
    else [char]
  String.ofList (quote :: escaped ++ [quote])

mutual

def inner : Datum → String
  | absent => "None"
  | flag value => if value then "True" else "False"
  | integer value => toString value
  | real value => Decimal.shortestText value
  | complex re im =>
    "(" ++ Decimal.shortestText re ++ (if im < 0.0 then "" else "+") ++
      Decimal.shortestText im ++ "j)"
  | text value => quoted value
  | list items => "[" ++ String.intercalate ", " (innerList items) ++ "]"

def innerList : List Datum → List String
  | [] => []
  | first :: rest => inner first :: innerList rest

end

/-- The text of a value; a text stands for itself. -/
def display : Datum → String
  | text value => value
  | other => other.inner

end Datum
end ConvexQP
