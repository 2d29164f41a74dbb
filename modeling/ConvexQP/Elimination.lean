import ConvexQP.Linear

/-!
Elimination with exchanges of rows. The columns of a square matrix are cleared from left to right;
each time the first remaining row of largest leading magnitude becomes the pivot row and changes
places with the row on top. The record of the cleared columns solves systems with the matrix.
-/
namespace ConvexQP

structure ClearedColumn (R : Type) where
  /-- Where the pivot row stood among the remaining rows. -/
  position : Nat
  /-- The pivot row from this column on. -/
  pivotRow : List R
  /-- What multiple of the pivot row each remaining row lost, after the exchange. -/
  factors : List R
  deriving Repr

namespace Elimination

/-- Takes out the item at a position; the first item moves into its place. -/
def exchange {Item : Type} (position : Nat) : List Item → Option (Item × List Item)
  | [] => none
  | first :: rest =>
    match position with
    | 0 => some (first, rest)
    | place + 1 => (rest[place]?).map fun chosen => (chosen, rest.set place first)

variable {R : Type} [Scalar R]

/-- Keeps the larger magnitude; an equal one leaves the earlier row in place. -/
def keepLargest (best : Nat × R) (entry : Nat × R) : Nat × R :=
  if best.2 < entry.2 then entry else best

/-- The first row of largest leading magnitude. -/
def pivotPosition (rows : List (List R)) : Nat :=
  match (rows.map fun row => magnitude (row.headD 0)).zipIdx.map Prod.swap with
  | [] => 0
  | first :: rest => (rest.foldl keepLargest first).1

/-- What multiple of a pivot clears a leading entry. A column of zeros is clear already. -/
def factor (pivot entry : R) : R := if same pivot 0 then entry else entry / pivot

/-- A remaining row without its leading entry, less a multiple of the pivot row. -/
def reduce (pivotRow row : List R) (multiple : R) : List R :=
  row.tail.zipWith (fun entry above => entry - multiple * above) pivotRow.tail

/-- Clears as many columns as asked. -/
def clear : Nat → List (List R) → List (ClearedColumn R)
  | 0, _ => []
  | columns + 1, rows =>
    let position := pivotPosition rows
    match exchange position rows with
    | none => []
    | some (pivotRow, rest) =>
      let factors := rest.map fun row => factor (pivotRow.headD 0) (row.headD 0)
      ⟨position, pivotRow, factors⟩ ::
        clear columns (rest.zipWith (reduce pivotRow) factors)

def solve : List (ClearedColumn R) → List R → List R
  | [], _ => []
  | column :: columns, rhs =>
    match exchange column.position rhs with
    | none => []
    | some (first, rest) =>
      let below := solve columns
        (rest.zipWith (fun entry multiple => entry - multiple * first) column.factors)
      ((first - Linear.dot column.pivotRow.tail below) / column.pivotRow.headD 0) :: below

def pivots (columns : List (ClearedColumn R)) : List R :=
  columns.map fun column => column.pivotRow.headD 0

end Elimination
end ConvexQP
