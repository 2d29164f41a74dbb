import ConvexQP.Decimal.Significant

/-!
Reading numbers from text: digits may be parted by single underscores, blanks may stand around the
number, and the values that are no numbers have names.
-/
namespace ConvexQP.Decimal

/-- Digits with single underscores between them: the digits, and the text behind them. -/
def digitRun : List Char → List Char × List Char
  | [] => ([], [])
  | first :: '_' :: next :: more =>
    if !first.isDigit then ([], first :: '_' :: next :: more)
    else if next.isDigit then
      let run := digitRun (next :: more)
      (first :: run.1, run.2)
    else ([first], '_' :: next :: more)
  | first :: rest =>
    if first.isDigit then
      let run := digitRun rest
      (first :: run.1, run.2)
    else ([], first :: rest)

def digitsValue (digits : List Char) : Nat :=
  digits.foldl (fun value digit => 10 * value + (digit.toNat - '0'.toNat)) 0

/-- A sign, if there is one: whether it is a minus, and the text behind it. -/
def signed : List Char → Bool × List Char
  | '-' :: rest => (true, rest)
  | '+' :: rest => (false, rest)
  | text => (false, text)

def isBlank (char : Char) : Bool :=
  char.isWhitespace || ('\x0b' ≤ char && char ≤ '\x0c') || ('\x1c' ≤ char && char ≤ '\x1f') ||
    [0x85, 0xA0, 0x1680, 0x2028, 0x2029, 0x202F, 0x205F, 0x3000].contains char.toNat ||
    (0x2000 ≤ char.toNat && char.toNat ≤ 0x200A)

def trimmed (text : String) : List Char :=
  ((text.toList.dropWhile isBlank).reverse.dropWhile isBlank).reverse

def readInteger? (text : String) : Option Int :=
  let (negative, rest) := signed (trimmed text)
  match digitRun rest with
  | ([], _) => none
  | (digits, []) =>
    some (if negative then -(digitsValue digits : Int) else (digitsValue digits : Int))
  | _ => none

/-- `digits * 10 ^ power`, rounded to the nearest double. -/
def floatOfDigits (digits : Nat) (power : Int) : Float :=
  if digits = 0 then 0.0
  else
    let leading := power + digitCount digits
    if 400 < leading then 1.0 / 0.0
    else if leading < -400 then 0.0
    else if 0 ≤ power then Float.ofScientific digits false power.toNat
    else Float.ofScientific digits true (-power).toNat

/-- An exponent mark with its integer, or nothing at all. -/
def readExponent? : List Char → Option Int
  | [] => some 0
  | mark :: rest =>
    if mark = 'e' || mark = 'E' then
      let (negative, digits) := signed rest
      match digitRun digits with
      | ([], _) => none
      | (run, []) => some (if negative then -(digitsValue run : Int) else (digitsValue run : Int))
      | _ => none
    else none

def readUnsigned? (text : List Char) : Option Float :=
  let (whole, rest) := digitRun text
  let (fraction, rest) := match rest with
    | '.' :: more => digitRun more
    | _ => ([], rest)
  if whole.isEmpty && fraction.isEmpty then none
  else (readExponent? rest).map fun exponent =>
    floatOfDigits (digitsValue (whole ++ fraction)) (exponent - fraction.length)

def readReal? (text : String) : Option Float :=
  let (negative, rest) := signed (trimmed text)
  let name := String.ofList (rest.map Char.toLower)
  let size := if name = "inf" || name = "infinity" then some (1.0 / 0.0)
    else if name = "nan" then some (0.0 / 0.0)
    else readUnsigned? rest
  size.map fun value => if negative then -value else value

end ConvexQP.Decimal
