import ConvexQP.LinearProgram.Basic

/-!
The simplex method on a full tableau, in two stages. An artificial variable for every row gives the
first basis; the first stage drives their sum to zero, the second minimises the cost. The variable
of highest number that lowers the objective enters, and of the rows that tie in the ratio test the
one whose basic variable has the highest number leaves, so no basis comes back.
-/
namespace ConvexQP.Simplex
variable {R : Type} [Scalar R]

/-- A basis with its tableau. Rows hold one entry for every variable. -/
structure Tableau (R : Type) where
  rows : List (List R)
  values : List R
  basis : List Nat

/-- Entries below this size count as zero. -/
def entryTolerance : R := 1e-9

/-- The first stage has succeeded when its objective is below this size. -/
def stageTolerance : R := 1e-8

/-- More pivots than this are taken as a failure. -/
def pivotBudget : Nat := 20000

/-- Rows with right-hand sides that are not negative, each with an artificial variable. -/
def start (rows : List (List R)) (bounds : List R) (width : Nat) : Tableau R :=
  let count := rows.length
  let flipped := rows.zipWith (fun row bound => if bound < 0 then Linear.negate row else row) bounds
  { rows := flipped.zipWith (· ++ ·) (Linear.identity count)
    values := bounds.map fun bound => if bound < 0 then -bound else bound
    basis := (List.range count).map (width + ·) }

/-- What the cost of a variable is less the cost of the basic variables it would replace. -/
def reducedCosts (cost : List R) (tableau : Tableau R) : List R :=
  let prices := tableau.basis.map fun basic => cost.getD basic 0
  (prices.zip tableau.rows).foldl (fun reduced (price, row) =>
    reduced.zipWith (fun entry along => entry - price * along) row) cost

def objective (cost : List R) (tableau : Tableau R) : R :=
  Linear.dot (tableau.basis.map fun basic => cost.getD basic 0) tableau.values

/-- The last variable, among the leading ones, whose reduced cost is negative. -/
def entering? (width : Nat) (reduced : List R) : Option Nat :=
  ((reduced.take width).zipIdx.findRev? fun (entry, _) => decide (entry < -entryTolerance)).map
    (·.2)

structure Leaving (R : Type) where
  row : Nat
  ratio : R
  basic : Nat

/-- Keeps the smaller ratio; of equal ones the higher variable. -/
def keepLeaving (best : Option (Leaving R)) (next : Leaving R) : Option (Leaving R) :=
  match best with
  | none => some next
  | some leader =>
    if next.ratio < leader.ratio ||
        (!decide (leader.ratio < next.ratio) && decide (leader.basic < next.basic)) then
      some next
    else best

def leaving? (tableau : Tableau R) (place : Nat) : Option Nat :=
  let candidates := (tableau.rows.zip (tableau.values.zip tableau.basis)).zipIdx.filterMap
    fun ((row, value, basic), number) =>
      let entry := row.getD place 0
      if entryTolerance < entry then some ⟨number, value / entry, basic⟩ else none
  (candidates.foldl keepLeaving none).map (·.row)

def pivot (tableau : Tableau R) (row place : Nat) : Tableau R :=
  let pivotRow := tableau.rows.getD row []
  let entry := pivotRow.getD place 1
  let scaled := pivotRow.map (· / entry)
  let value := tableau.values.getD row 0 / entry
  let factors := (Linear.column tableau.rows place).zipIdx
  { rows := (tableau.rows.zip factors).map fun (other, factor, number) =>
      if number = row then scaled
      else other.zipWith (fun old along => old - factor * along) scaled
    values := (tableau.values.zip factors).map fun (old, factor, number) =>
      if number = row then value else old - factor * value
    basis := tableau.basis.set row place }

inductive Stage (R : Type) where
  | optimal (tableau : Tableau R)
  | unbounded
  | unfinished

/-- Pivots until no variable among the leading ones lowers the objective. -/
def improve (cost : List R) (width : Nat) : Nat → Tableau R → Stage R
  | 0, _ => .unfinished
  | pivots + 1, tableau =>
    match entering? width (reducedCosts cost tableau) with
    | none => .optimal tableau
    | some place =>
      match leaving? tableau place with
      | none => .unbounded
      | some row => improve cost width pivots (pivot tableau row place)

/-- Replaces an artificial variable that is still basic, if its row allows it. -/
def dismiss (width : Nat) (tableau : Tableau R) (row : Nat) : Tableau R :=
  if tableau.basis.getD row 0 < width then tableau
  else
    let entries := (tableau.rows.getD row []).take width
    match entries.findIdx? fun entry => decide (entryTolerance < magnitude entry) with
    | some place => pivot tableau row place
    | none => tableau

def pointOf (width : Nat) (tableau : Tableau R) : List R :=
  (tableau.basis.zip tableau.values).foldl (fun point (place, value) => point.set place value)
    (Linear.zeros width)

def failure (code : Int) (message : String) : ProgramAnswer R := ⟨code, none, none, message⟩

def solve (program : LinearProgram R) : ProgramAnswer R :=
  let width := program.cost.length
  let (rows, bounds) := program.equalities.getD ([], [])
  let count := rows.length
  let stageCost : List R := Linear.zeros width ++ List.replicate count 1
  match improve stageCost (width + count) pivotBudget (start rows bounds width) with
  | .unbounded | .unfinished => failure 4 "no feasible basis was found"
  | .optimal settled =>
    if stageTolerance < objective stageCost settled then failure 2 "the rows cannot be met"
    else
      let ready := (List.range count).foldl (dismiss width) settled
      let cost := program.cost ++ Linear.zeros count
      match improve cost width pivotBudget ready with
      | .unbounded => failure 3 "the cost has no lower bound"
      | .unfinished => failure 4 "no optimal basis was found"
      | .optimal final =>
        ⟨0, some (pointOf width final), some ((reducedCosts cost final).take width),
          "an optimal basis was found"⟩

end ConvexQP.Simplex
