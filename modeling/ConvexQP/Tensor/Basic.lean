import ConvexQP.Datum.Nested
import ConvexQP.Scalar

/-!
Arrays of any shape, in row-major order, with entrywise operations between shapes that fit: missing
leading extents are supplied, and an extent of one is repeated.
-/
namespace ConvexQP

structure Tensor (R : Type) where
  shape : List Nat
  data : Array R
  deriving Repr

namespace Tensor

def volume (shape : List Nat) : Nat := shape.foldl (· * ·) 1

/-- Every index of a shape, in row-major order. -/
def indices : List Nat → List (List Nat)
  | [] => [[]]
  | extent :: rest =>
    let inner := indices rest
    (List.range extent).flatMap fun here => inner.map (here :: ·)

/-- The place of an index in row-major order. -/
def offset (shape index : List Nat) : Nat :=
  (shape.zip index).foldl (fun place (extent, here) => place * extent + here) 0

def ofFn {R : Type} (shape : List Nat) (entry : List Nat → R) : Tensor R :=
  ⟨shape, ((indices shape).map entry).toArray⟩

def ofList {R : Type} (values : List R) : Tensor R := ⟨[values.length], values.toArray⟩

def ofRows {R : Type} (width : Nat) (rows : List (List R)) : Tensor R :=
  ⟨[rows.length, width], rows.flatten.toArray⟩

/-- Flat data under a shape that holds as many entries. -/
def ofShape? {R : Type} (shape : List Nat) (data : List R) : Except Error (Tensor R) :=
  if volume shape = data.length then .ok ⟨shape, data.toArray⟩ else .error .shapesDiffer

/-- A number of an array; an absent one is undefined. -/
def entryOf : Datum → Except Error Float
  | .absent => .ok (0.0 / 0.0)
  | datum => datum.toReal

/-- A number or a nested list of numbers. -/
def ofDatum (datum : Datum) : Except Error (Tensor Float) :=
  match datum.shape? with
  | none => .error .unevenLists
  | some shape => do
    let entries ← datum.leaves.mapM entryOf
    return ⟨shape, entries.toArray⟩

variable {R : Type} [Scalar R]

def rank (tensor : Tensor R) : Nat := tensor.shape.length
def size (tensor : Tensor R) : Nat := tensor.data.size
def toList (tensor : Tensor R) : List R := tensor.data.toList

def entry (tensor : Tensor R) (index : List Nat) : R :=
  tensor.data.getD (offset tensor.shape index) 0

def map (change : R → R) (tensor : Tensor R) : Tensor R :=
  ⟨tensor.shape, tensor.data.map change⟩

def rows (tensor : Tensor R) : List (List R) :=
  match tensor.shape with
  | [count, width] => (List.range count).map fun row =>
      (List.range width).map fun place => tensor.entry [row, place]
  | _ => []

/-- At least two extents: a single number or list becomes one row. -/
def atLeastMatrix (tensor : Tensor R) : Tensor R :=
  match tensor.shape with
  | [] => ⟨[1, 1], tensor.data⟩
  | [extent] => ⟨[1, extent], tensor.data⟩
  | _ => tensor

def atLeastList (tensor : Tensor R) : Tensor R :=
  match tensor.shape with
  | [] => ⟨[1], tensor.data⟩
  | _ => tensor

/-- The common shape of two shapes given from the last extent on. -/
def fitReversed : List Nat → List Nat → Option (List Nat)
  | [], right => some right
  | left, [] => some left
  | a :: left, b :: right =>
    if a = b || b = 1 then (fitReversed left right).map (a :: ·)
    else if a = 1 then (fitReversed left right).map (b :: ·)
    else none

def fit (left right : List Nat) : Option (List Nat) :=
  (fitReversed left.reverse right.reverse).map List.reverse

/-- The entry that a fitted index reads: leading extents are dropped, repeated ones read at zero. -/
def fittedEntry (tensor : Tensor R) (index : List Nat) : R :=
  let own := index.drop (index.length - tensor.rank)
  tensor.entry ((tensor.shape.zip own).map fun (extent, here) => if extent = 1 then 0 else here)

def entrywise (operation : R → R → R) (left right : Tensor R) : Except Error (Tensor R) :=
  match fit left.shape right.shape with
  | none => .error .shapesDiffer
  | some shape => .ok (ofFn shape fun index =>
      operation (left.fittedEntry index) (right.fittedEntry index))

end Tensor
end ConvexQP
