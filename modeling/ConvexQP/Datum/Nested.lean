import ConvexQP.Datum

/-!
Nested lists read as arrays: their shape, if all lists of one depth have one length, and their
leaves in row-major order.
-/
namespace ConvexQP.Datum

mutual

/-- The extents of a nested list; a value that is no list has none. -/
def shape? : Datum → Option (List Nat)
  | list items => (innerShape? items).map fun inner => items.length :: inner
  | _ => some []

/-- The shape that all items share. An empty list stops the shape. -/
def innerShape? : List Datum → Option (List Nat)
  | [] => some []
  | [only] => only.shape?
  | first :: rest => do
    let here ← first.shape?
    let there ← innerShape? rest
    if here = there then some here else none

end

mutual

def leaves : Datum → List Datum
  | list items => innerLeaves items
  | leaf => [leaf]

def innerLeaves : List Datum → List Datum
  | [] => []
  | first :: rest => first.leaves ++ innerLeaves rest

end

/-- The leaves of a nested list, if its lists are even. -/
def evenLeaves (datum : Datum) : Except Error (List Datum) :=
  match datum.shape? with
  | some _ => .ok datum.leaves
  | none => .error .unevenLists

end ConvexQP.Datum
