import ConvexQP.FactorCache
import ConvexQP.Tensor.Operations

/-!
The operations on arrays as requests to one instance that keeps a factor cache. The abstract
instance has no definitions and refuses every request.
-/
namespace ConvexQP

namespace FactorCache
variable {R Key : Type} [Scalar R]

/-- Right-hand sides of a system: a list is one, a matrix has one in each column. -/
def sidesOf (rhs : Tensor R) : Except Error (List (List R)) :=
  match rhs.shape with
  | [_] => .ok [rhs.toList]
  | [_, width] => .ok (Linear.transpose width rhs.rows)
  | _ => .error .shapesDiffer

/-- Solutions in the shape of the right-hand sides. -/
def shapeLike (rhs : Tensor R) (solutions : List (List R)) : Tensor R :=
  match rhs.shape with
  | [count, width] => Tensor.ofRows width (Linear.transpose count solutions)
  | _ => Tensor.ofList solutions.flatten

/-- Solves a system given as arrays. A matrix that is not square, or of another height than its
right-hand side, is refused before the cache is looked at; right-hand sides of more than two extents
are refused only once there are factors to use. -/
def solveArrays [BEq Key] (cache : FactorCache R Key) (pivotTolerance : R)
    (matrix rhs : Tensor R) (key : Option Key) :
    Except Error (Option (Tensor R)) × List (FactorNote R) × FactorCache R Key :=
  let refused := (.error (.systemShape matrix.shape rhs.shape), [], cache)
  match matrix.shape with
  | [height, width] =>
    if height ≠ width then refused
    else match rhs.shape with
      | [] => (.error .noSuchRow, [], cache)
      | count :: _ =>
        if height ≠ count then refused
        else match sidesOf rhs with
          | .error cause =>
            let (notes, next) := cache.factorsFor pivotTolerance matrix.rows key
            (if next.factors.isSome then .error cause else .ok none, notes, next)
          | .ok sides =>
            let (answer, next) := cache.solve pivotTolerance matrix.rows sides key
            (answer.solution.map fun found => found.map (shapeLike rhs), answer.notes, next)
  | _ => refused

end FactorCache

inductive LinearRequest (R Key : Type) where
  | zeroVector (size : Datum)
  | zeroMatrix (rows columns : Datum)
  | identity (size : Datum)
  | multiply (left right : Tensor R)
  | subtract (left right : Tensor R)
  | negate (array : Tensor R)
  | norm (array : Tensor R)
  | addScaled (factor : R) (values target : Tensor R)
  | divide (left right : Tensor R)
  | pickRows (matrix : Tensor R) (rows : Datum)
  | appendRows (top bottom : Tensor R)
  | appendColumns (left right : Tensor R)
  | transpose (matrix : Tensor R)
  | solve (matrix rhs : Tensor R) (key : Option Key)
  | forget

inductive LinearReply (R : Type) where
  | done
  | number (value : R)
  | array (value : Tensor R)
  /-- The target of the request, with its new entries. -/
  | updated (value : Tensor R)
  | solution (found : Option (Tensor R))

namespace LinearReply

/-- An array without extents is a number. -/
def ofTensor {R : Type} [Scalar R] (tensor : Tensor R) : LinearReply R :=
  match tensor.shape with
  | [] => .number (tensor.entry [])
  | _ => .array tensor

end LinearReply

/-- A dense instance: the tolerance below which pivots vanish, and the cache. -/
structure DenseAlgebra (R Key : Type) where
  pivotTolerance : R
  cache : FactorCache R Key

namespace DenseAlgebra
variable {R Key : Type} [Scalar R]

def new (pivotTolerance : R) : DenseAlgebra R Key := ⟨pivotTolerance, FactorCache.empty⟩

def sizeOf (size : Datum) : Except Error Nat := size.toInteger.bind Tensor.extent

def compute : LinearRequest R Key → Except Error (LinearReply R)
  | .zeroVector size => do return .array (Tensor.zeros [← sizeOf size])
  | .zeroMatrix rows columns => do
    let height ← rows.toInteger
    let width ← columns.toInteger
    return .array (Tensor.zeros [← Tensor.extent height, ← Tensor.extent width])
  | .identity size => do return .array (Tensor.identity (← sizeOf size))
  | .multiply left right => (Tensor.multiply left right).map .ofTensor
  | .subtract left right => (Tensor.entrywise (· - ·) left right).map .ofTensor
  | .negate array => .ok (.ofTensor (array.map (-·)))
  | .norm array => .ok (.number array.norm)
  | .addScaled factor values target => (Tensor.addScaled factor values target).map .updated
  | .divide left right => (Tensor.entrywise (· / ·) left right).map .ofTensor
  | .pickRows matrix rows => do
    return .ofTensor (← matrix.pickRows (← Tensor.RowNumbers.ofDatum rows))
  | .appendRows top bottom => (Tensor.appendRows top bottom).map .array
  | .appendColumns left right => (Tensor.appendColumns left right).map .array
  | .transpose matrix => .ok (.array matrix.transpose)
  | .solve .. | .forget => .ok .done

def run [BEq Key] (algebra : DenseAlgebra R Key) (request : LinearRequest R Key) :
    Except Error (LinearReply R) × List (FactorNote R) × DenseAlgebra R Key :=
  match request with
  | .solve matrix rhs key =>
    let (outcome, notes, cache) :=
      algebra.cache.solveArrays algebra.pivotTolerance matrix rhs key
    (outcome.map .solution, notes, { algebra with cache })
  | .forget => (.ok .done, [], { algebra with cache := algebra.cache.forget })
  | other => (compute other, [], algebra)

end DenseAlgebra

def abstractAlgebra {R Key : Type} (_request : LinearRequest R Key) :
    Except Error (LinearReply R) := .error .notImplemented

end ConvexQP
