import ConvexQP.Tolerance

/-!
The longest step in `[0, 1]` along a direction that keeps every row satisfied. Each row contributes
the ratio of its slack to its slope along the direction; the first least ratio below one wins.
-/
namespace ConvexQP

/-- A row the step may run into: `slack` is what is left of it, `slope` how fast the step uses
it up. -/
structure Candidate (R Row : Type) where
  slack : R
  slope : R
  row : Row

/-- How far a step may go, and the row that stops it. -/
structure StepLimit (R Row : Type) where
  length : R
  blocking : Option Row

/-- What the ratio test measures against. -/
structure RatioTest (R : Type) where
  slackTolerance : Tolerance R
  solutionTolerance : Tolerance R
  /-- Length of the direction. -/
  stepNorm : R

namespace RatioTest
variable {R Row : Type} [Scalar R]

/-- The step at which the row becomes tight. A slack that is small beside the slope counts as
used up already. -/
def ratio (test : RatioTest R) (candidate : Candidate R Row) : R :=
  if test.slackTolerance.isSmall candidate.slope candidate.slack then 0
  else candidate.slack / candidate.slope

/-- The row lies ahead of the step: its slope is positive and not small beside the direction. -/
def ahead (test : RatioTest R) (candidate : Candidate R Row) : Bool :=
  decide (0 < candidate.slope) &&
    !test.solutionTolerance.isSmall test.stepNorm candidate.slope

/-- One row may shorten the step; an equal ratio leaves the earlier row in place. -/
def tighten (test : RatioTest R) (limit : StepLimit R Row) (candidate : Candidate R Row) :
    StepLimit R Row :=
  let reach := test.ratio candidate
  if test.ahead candidate && decide (0 ≤ reach) && decide (reach < limit.length) then
    ⟨reach, some candidate.row⟩
  else limit

def run (test : RatioTest R) (candidates : List (Candidate R Row)) : StepLimit R Row :=
  candidates.foldl test.tighten ⟨1, none⟩

end RatioTest
end ConvexQP
