import ConvexQP.Note
import ConvexQP.Result
import ConvexQP.Text.Literal

/-!
The wording of notes and of the iteration table. Numbers in notes are kept to nine significant
digits, and tiny numbers in the table are printed as zero.
-/
namespace ConvexQP.Report

/-- Numbers in square brackets, each as the shortest text that reads back. -/
def numbersText (values : List Float) : String :=
  "[" ++ String.intercalate ", " (values.map Decimal.shortestText) ++ "]"

def rowText : Option Nat → String
  | some row => toString row
  | none => "-1"

def momentText : Moment → String
  | .initial => "Initial"
  | .afterIteration => "Post iteration"

def pivotText (value : Float) : String := (Decimal.Style.scientific 3).text value

def factorText : FactorNote Float → String
  | .matrixNotFinite => "[KKT] factorisation failed: array must not contain infs or NaNs"
  | .rankDeficient least greatest =>
    "[KKT] rank deficient: min pivot=" ++ pivotText least ++ ", max pivot=" ++ pivotText greatest
  | .solutionNotFinite => "[KKT] non-finite solution rejected"

def noteText : Note Float → String
  | .factor note => factorText note
  | .programEnded status message => "[PhaseI] LP status=" ++ status.name ++ ": " ++ message
  | .programRepeated status =>
    "[PhaseI] LP reported " ++ status.name ++ "; re-solving as a pure feasibility LP"
  | .noStart status =>
    "[ActiveSet] Phase I LP ended " ++ status.name ++ "; no starting point"
  | .iterationLimit limit => s!"[ActiveSet] iteration limit {limit} reached"
  | .timeLimit limit =>
    "[ActiveSet] time limit " ++ (Decimal.Style.general 3).text limit ++ "s reached"
  | .notFinite => "[ActiveSet] non-finite iterate; restoring the previous point"
  | .systemNotSolved included =>
    "[ActiveSet] KKT not solved for working set " ++ WorkingSet.rowsText included
  | .current point => "[ActiveSet] current: " ++ numbersText point
  | .step direction => "[ActiveSet] step: " ++ numbersText direction
  | .stepTooSmall => "[ActiveSet] step too small"
  | .stepLengths ratios => "[ActiveSet] candidate step lengths: " ++ numbersText ratios
  | .relax row largest =>
    s!"[ActiveSet] shrink: excluding {row} (|λ|=" ++ pivotText largest ++ ")"
  | .workingSet set => "[ActiveSet] " ++ set.describe
  | .suggestion toInclude toExclude =>
    "[ActiveSet] suggested include=" ++ rowText toInclude ++ " exclude=" ++ rowText toExclude
  | .solution moment point =>
    "[ActiveSet] " ++ momentText moment ++ " solution: " ++ numbersText point
  | .equalitySlack moment slack =>
    "[ActiveSet] " ++ momentText moment ++ " E-slack: " ++ numbersText slack
  | .includedSlack moment slack =>
    "[ActiveSet] " ++ momentText moment ++ " I-included-slack: " ++ numbersText slack
  | .excludedSlack moment slack =>
    "[ActiveSet] " ++ momentText moment ++ " I-excluded-slack: " ++ numbersText slack

def noteLine (note : Note Float) : String :=
  (if note.isWarning then "WARNING: " else "DEBUG: ") ++ Text.nineDigitLine (noteText note)

def factorLine (note : FactorNote Float) : String := noteLine (.factor note)

def resultLine (result : Result Float) : String := Text.nineDigitLine result.describe

def alignRight (width : Nat) (text : String) : String :=
  String.ofList (List.replicate (width - text.length) ' ') ++ text

def columns (fields : List (Nat × String)) : String :=
  String.intercalate " " (fields.map fun (width, text) => alignRight width text)

def headingText : String :=
  alignRight 3 "k" ++ "  " ++ columns [(3, "it"), (13, "f"), (8, "α"), (10, "step"), (4, "|W|"),
    (4, "+"), (4, "-")] ++ "  state"

def stepLengthText (length : Option Float) : String :=
  match length with
  | some value => if value.isFinite then (Decimal.Style.scientific 2).text value else "nan"
  | none => "nan"

def passText (number : Nat) (entry : Entry Float) : String :=
  alignRight 3 (toString number) ++ "  " ++ columns [
    (3, toString entry.iteration),
    (13, (Decimal.Style.scientific 6).text entry.objective),
    (8, stepLengthText entry.stepLength),
    (10, (Decimal.Style.scientific 2).text entry.stepNorm),
    (4, toString entry.included.length),
    (4, rowText entry.toInclude),
    (4, rowText entry.toExclude)] ++ "  " ++ entry.verdict.name

def tableText : TableLine Float → String
  | .heading => headingText
  | .pass number entry => passText number entry
  | .closing verdict iterations => "✓ " ++ verdict.name ++ s!" after {iterations} iterations"

def tableLine (line : TableLine Float) : String := Text.zeroedLine (tableText line)

end ConvexQP.Report
