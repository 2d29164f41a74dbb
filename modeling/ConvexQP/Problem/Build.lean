import ConvexQP.Problem.Basic
import ConvexQP.Tensor.Operations

/-!
Problems from arrays: which shapes are taken, how they are brought to rows, and which array is
refused first. A block of constraints may be missing, but not half of it.
-/
namespace ConvexQP

structure ProblemArrays (R : Type) where
  quadratic : Tensor R
  linear : Tensor R
  equalityRows : Option (Tensor R) := none
  equalityBounds : Option (Tensor R) := none
  inequalityRows : Option (Tensor R) := none
  inequalityBounds : Option (Tensor R) := none

namespace ProblemArrays
variable {R : Type} [Scalar R]

/-- Two entries agree within an absolute and a relative part, the second one being the measure.
Equal infinities agree. -/
def close (left right : R) : Bool :=
  same left right ||
    (finite left && finite right &&
      decide (magnitude (left - right) ≤ 1e-8 + 1e-5 * magnitude right))

/-- Every entry agrees with its mirror image, in both orders. -/
def symmetric (rows : List (List R)) : Bool :=
  (rows.zip (Linear.transpose rows.length rows)).all fun (row, column) =>
    (row.zip column).all fun (entry, mirrored) => close entry mirrored

/-- A block without rows, whatever its shape, has the right width. -/
def blockShape (width : Nat) (rows : Tensor R) : Tensor R :=
  let matrix := rows.atLeastMatrix
  if matrix.size = 0 then ⟨[0, width], #[]⟩ else matrix

def constraints (kind : ConstraintKind) (size : Nat) (rows bounds : Option (Tensor R)) :
    Except Error (Constraints R size) :=
  match rows, bounds with
  | none, none => .ok Constraints.none
  | some rows, some bounds =>
    let block := blockShape size rows
    let entries := block.rows
    let limits := bounds.toList
    let height := block.shape.headD 0
    if block.rank ≠ 2 || block.shape.getD 1 0 ≠ size then
      .error (.constraintShape kind block.shape size)
    else if limits.length ≠ height then .error (.boundsSize kind limits.length height)
    else if fits : (∀ row ∈ entries, row.length = size) ∧ limits.length = entries.length then
      .ok ⟨entries, limits, fits.1, fits.2⟩
    else .error .shapesDiffer
  | _, _ => .error (.incompleteConstraints kind)

def build (arrays : ProblemArrays R) : Except Error (Problem R) :=
  let matrix := arrays.quadratic.atLeastMatrix
  match matrix.shape with
  | [height, width] =>
    if height ≠ width || height = 0 then .error (.quadraticNotSquare matrix.shape)
    else
      let rows := matrix.rows
      let linear := arrays.linear.toList
      if !symmetric rows then .error .quadraticNotSymmetric
      else if linear.length ≠ height then .error (.linearSize linear.length height)
      else do
        let equalities ←
          constraints .equality height arrays.equalityRows arrays.equalityBounds
        let inequalities ←
          constraints .inequality height arrays.inequalityRows arrays.inequalityBounds
        if fits : 0 < height ∧ rows.length = height ∧ (∀ row ∈ rows, row.length = height) ∧
            linear.length = height then
          .ok ⟨height, rows, linear, equalities, inequalities, fits.1, fits.2.1, fits.2.2.1,
            fits.2.2.2⟩
        else .error .shapesDiffer
  | _ => .error (.quadraticNotSquare matrix.shape)

end ProblemArrays

namespace Problem
variable {R : Type} [Scalar R]

def rowsTensor {size : Nat} (block : Constraints R size) : Tensor R :=
  Tensor.ofRows size block.rows

def quadraticTensor (problem : Problem R) : Tensor R :=
  Tensor.ofRows problem.size problem.quadratic

def toArrays (problem : Problem R) : ProblemArrays R where
  quadratic := problem.quadraticTensor
  linear := Tensor.ofList problem.linear
  equalityRows := some (rowsTensor problem.equalities)
  equalityBounds := some (Tensor.ofList problem.equalities.bounds)
  inequalityRows := some (rowsTensor problem.inequalities)
  inequalityBounds := some (Tensor.ofList problem.inequalities.bounds)

def withEqualities (problem : Problem R) (rows bounds : Option (Tensor R)) :
    Except Error (Problem R) :=
  { problem.toArrays with equalityRows := rows, equalityBounds := bounds }.build

def withInequalities (problem : Problem R) (rows bounds : Option (Tensor R)) :
    Except Error (Problem R) :=
  { problem.toArrays with inequalityRows := rows, inequalityBounds := bounds }.build

/-- The objective at an array. Only an array that leads to a single number is taken. -/
def objectiveAt (problem : Problem R) (point : Tensor R) : Except Error R :=
  if point.shape = [problem.size] then .ok (problem.objective point.toList)
  else do
    let image ← Tensor.multiply problem.quadraticTensor point
    let curvature ← Tensor.multiply (point.map (0.5 * ·)) image
    let slope ← Tensor.multiply (Tensor.ofList problem.linear) point
    let value ← Tensor.entrywise (· - ·) curvature slope
    if value.size = 1 then .ok (value.data.getD 0 0) else .error .wrongKind

end Problem
end ConvexQP
