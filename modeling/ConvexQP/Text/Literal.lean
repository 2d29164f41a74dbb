import ConvexQP.Decimal.Reader
import ConvexQP.Decimal.Style

/-!
Decimal literals inside a line of text. Rewriting them to nine significant digits, or tiny ones to
zero, makes lines comparable whose numbers differ in the last bits only.
-/
namespace ConvexQP.Text

/-- A minus, if there is one, and the text behind it. -/
def minus : List Char → List Char × List Char
  | '-' :: rest => (['-'], rest)
  | text => ([], text)

def digits (text : List Char) : List Char × List Char := text.span Char.isDigit

/-- An exponent mark with an optional sign and at least one digit. -/
def exponent? : List Char → Option (List Char × List Char)
  | 'e' :: rest =>
    let (sign, more) := match rest with
      | '+' :: more => (['+'], more)
      | '-' :: more => (['-'], more)
      | more => ([], more)
    match digits more with
    | ([], _) => none
    | (run, behind) => some ('e' :: sign ++ run, behind)
  | _ => none

/-- A literal at the front of a text: digits with a point between them and perhaps an exponent, or
digits with an exponent. -/
def literal? (text : List Char) : Option (List Char × List Char) :=
  let (sign, unsigned) := minus text
  match digits unsigned with
  | ([], _) => none
  | (whole, rest) =>
    let fraction := match rest with
      | '.' :: more => match digits more with
        | ([], _) => none
        | (run, behind) => some ('.' :: run, behind)
      | _ => none
    match fraction with
    | some (run, behind) =>
      let number := sign ++ whole ++ run
      match exponent? behind with
      | some (mark, last) => some (number ++ mark, last)
      | none => some (number, behind)
    | none => (exponent? rest).map fun (mark, last) => (sign ++ whole ++ mark, last)

/-- Changes every literal of a text, from left to right. -/
def changeLiterals (change : List Char → List Char) : Nat → List Char → List Char
  | 0, text => text
  | _, [] => []
  | steps + 1, first :: rest =>
    match literal? (first :: rest) with
    | some (found, behind) => change found ++ changeLiterals change steps behind
    | none => first :: changeLiterals change steps rest

def changeLine (change : List Char → List Char) (line : String) : String :=
  String.ofList (changeLiterals change line.toList.length line.toList)

def valueOf (literal : List Char) : Float :=
  (Decimal.readReal? (String.ofList literal)).getD (0.0 / 0.0)

/-- A literal as the shortest text of its nine significant digits. -/
def toNineDigits (literal : List Char) : List Char :=
  (Decimal.shortestText (Decimal.nineDigits (valueOf literal))).toList

/-- One digit before the point and a negative exponent. -/
def isScientificFraction (literal : List Char) : Bool :=
  let (_, unsigned) := minus literal
  match unsigned with
  | _ :: '.' :: _ => (unsigned.zip unsigned.tail).contains ('e', '-')
  | _ => false

/-- A tiny literal as a zero with as many decimals and of the same width. -/
def toZeroIfTiny (literal : List Char) : List Char :=
  if isScientificFraction literal && (valueOf literal).abs < Decimal.reportFloor then
    let (_, unsigned) := minus literal
    let places := ((unsigned.drop 2).takeWhile Char.isDigit).length
    let zero := "0.".toList ++ List.replicate places '0' ++ "e+00".toList
    List.replicate (literal.length - zero.length) ' ' ++ zero
  else literal

def nineDigitLine (line : String) : String := changeLine toNineDigits line

def zeroedLine (line : String) : String := changeLine toZeroIfTiny line

end ConvexQP.Text
