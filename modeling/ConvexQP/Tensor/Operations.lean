import ConvexQP.Linear
import ConvexQP.Tensor.Basic

/-!
The linear algebra on arrays of any shape: products, stacking, transposition and the choice of
rows.
-/
namespace ConvexQP.Tensor
variable {R : Type} [Scalar R]

def extent (size : Int) : Except Error Nat :=
  if size < 0 then .error .negativeExtent else .ok size.toNat

def zeros (shape : List Nat) : Tensor R := ofFn shape fun _ => 0

def identity (size : Nat) : Tensor R := ofRows size (Linear.identity size)

/-- Splits a shape of at least two extents into its leading ones and its last two. -/
def matrixPart (shape : List Nat) : List Nat × Nat × Nat :=
  let leading := shape.length - 2
  (shape.take leading, shape.getD leading 0, shape.getD (leading + 1) 0)

/-- The matrix product; leading extents are fitted, and a list counts as a row on the left and as a
column on the right. -/
def multiply (left right : Tensor R) : Except Error (Tensor R) :=
  if left.rank = 0 || right.rank = 0 then .error .shapesDiffer
  else
    let wide := left.atLeastMatrix
    let tall : Tensor R := match right.shape with
      | [extent] => ⟨[extent, 1], right.data⟩
      | _ => right
    let (leftLeading, height, inner) := matrixPart wide.shape
    let (rightLeading, innerRight, width) := matrixPart tall.shape
    match fit leftLeading rightLeading with
    | none => .error .shapesDiffer
    | some leading =>
      if inner ≠ innerRight then .error .shapesDiffer
      else
        let product := ofFn (leading ++ [height, width]) fun index =>
          let batch := index.take leading.length
          let row := index.getD leading.length 0
          let place := index.getD (leading.length + 1) 0
          let read := fun (tensor : Tensor R) (own : List Nat) (row place : Nat) =>
            let kept := batch.drop (batch.length - own.length)
            let inside := (own.zip kept).map fun (extent, here) => if extent = 1 then 0 else here
            tensor.entry (inside ++ [row, place])
          Linear.sum ((List.range inner).map fun step =>
            read wide leftLeading row step * read tall rightLeading step place)
        let rowShape := if left.rank = 1 then [] else [height]
        let columnShape := if right.rank = 1 then [] else [width]
        .ok ⟨leading ++ rowShape ++ columnShape, product.data⟩

/-- `target + factor * values`, which has to keep the shape of the target. -/
def addScaled (factor : R) (values target : Tensor R) : Except Error (Tensor R) := do
  let sum ← entrywise (fun start along => start + along) target (values.map (factor * ·))
  if sum.shape = target.shape then .ok sum else .error .shapesDiffer

def norm (tensor : Tensor R) : R := Linear.norm tensor.toList

/-- The integer array that names rows. -/
structure RowNumbers where
  shape : List Nat
  numbers : List Int

def RowNumbers.ofDatum (datum : Datum) : Except Error RowNumbers :=
  match datum.shape? with
  | none => .error .unevenLists
  | some shape => do
    let numbers ← datum.leaves.mapM Datum.toInteger
    return ⟨shape, numbers⟩

/-- The row an integer names; negative ones count from the end. -/
def rowNumber (count : Nat) (number : Int) : Except Error Nat :=
  let shifted := if number < 0 then number + count else number
  if shifted < 0 ∨ (count : Int) ≤ shifted then .error .noSuchRow else .ok shifted.toNat

def pickRows (tensor : Tensor R) (picked : RowNumbers) : Except Error (Tensor R) :=
  match tensor.shape with
  | [] => .error .noSuchRow
  | count :: rest => do
    let rows ← picked.numbers.mapM (rowNumber count)
    let width := volume rest
    let data := rows.flatMap fun row =>
      (tensor.data.extract (row * width) ((row + 1) * width)).toList
    return ⟨picked.shape ++ rest, data.toArray⟩

/-- Joins two arrays along one extent; the others have to agree. -/
def join (axis : Nat) (left right : Tensor R) : Except Error (Tensor R) :=
  if left.rank ≠ right.rank || left.rank ≤ axis || left.shape.eraseIdx axis ≠
      right.shape.eraseIdx axis then .error .shapesDiffer
  else
    let split := left.shape.getD axis 0
    let shape := left.shape.set axis (split + right.shape.getD axis 0)
    .ok (ofFn shape fun index =>
      let here := index.getD axis 0
      if here < split then left.entry index else right.entry (index.set axis (here - split)))

/-- One array below another. An empty one vanishes, whatever its shape. -/
def appendRows (top bottom : Tensor R) : Except Error (Tensor R) :=
  if top.size = 0 then .ok bottom
  else if bottom.size = 0 then .ok top
  else if top.rank = 1 then join 0 top bottom
  else join 0 top.atLeastMatrix bottom.atLeastMatrix

/-- One array to the right of another; lists are joined end to end. -/
def appendColumns (left right : Tensor R) : Except Error (Tensor R) :=
  let first := left.atLeastList
  let second := right.atLeastList
  join (if first.rank = 1 then 0 else 1) first second

def transpose (tensor : Tensor R) : Tensor R :=
  ofFn tensor.shape.reverse fun index => tensor.entry index.reverse

end ConvexQP.Tensor
