import ConvexQP.Datum

/-!
The working set: which rows of `0, ..., size - 1` are included, and the row that last moved to
either side. A request that moves nothing leaves the tracking alone; only emptying the set forgets
both rows.
-/
namespace ConvexQP

structure WorkingSet where
  members : List Bool
  latestIn : Option Nat
  latestOut : Option Nat
  deriving Repr, DecidableEq

namespace WorkingSet

def empty (size : Nat) : WorkingSet := ⟨List.replicate size false, none, none⟩

def size (set : WorkingSet) : Nat := set.members.length

/-- The rows whose membership is `side`, in ascending order. -/
def rowsOf (side : Bool) (members : List Bool) : List Nat :=
  (List.range members.length).filter fun row => members[row]? == some side

def included (set : WorkingSet) : List Nat := rowsOf true set.members
def excluded (set : WorkingSet) : List Nat := rowsOf false set.members

def includedCount (set : WorkingSet) : Nat := set.members.count true
def excludedCount (set : WorkingSet) : Nat := set.size - set.includedCount

def contains (set : WorkingSet) (row : Nat) : Bool := set.members[row]? == some true

/-- Moves a row in. A row that is in already, or is no row, changes nothing. -/
def insert (set : WorkingSet) (row : Nat) : WorkingSet :=
  if set.members[row]? = some false then
    { set with members := set.members.set row true, latestIn := some row }
  else set

/-- Moves a row out. A row that is out already, or is no row, changes nothing. -/
def erase (set : WorkingSet) (row : Nat) : WorkingSet :=
  if set.members[row]? = some true then
    { set with members := set.members.set row false, latestOut := some row }
  else set

def fill (set : WorkingSet) : WorkingSet :=
  { set with
    members := List.replicate set.size true
    latestIn := if set.size = 0 then none else some (set.size - 1) }

def clear (set : WorkingSet) : WorkingSet := empty set.size

/-- The row an integer names. -/
def row (set : WorkingSet) (index : Int) : Except Error Nat :=
  if 0 ≤ index ∧ index < set.size then .ok index.toNat else .error (.outOfBounds index set.size)

inductive Move where
  | insert (index : Datum)
  | erase (index : Datum)
  | insertMany (indices : Datum)
  | fill
  | clear

/-- Includes row after row; a bad index stops, and rows before it stay included. -/
def insertMany (set : WorkingSet) : List Datum → Except Error Unit × WorkingSet
  | [] => (.ok (), set)
  | index :: rest =>
    match index.toInteger.bind set.row with
    | .ok found => (set.insert found).insertMany rest
    | .error cause => (.error cause, set)

def move (set : WorkingSet) : Move → Except Error Unit × WorkingSet
  | .insert index => set.insertMany [index]
  | .erase index =>
    match index.toInteger.bind set.row with
    | .ok found => (.ok (), set.erase found)
    | .error cause => (.error cause, set)
  | .insertMany (.list indices) => set.insertMany indices
  | .insertMany _ => (.error .wrongKind, set)
  | .fill => (.ok (), set.fill)
  | .clear => (.ok (), set.clear)

def member (set : WorkingSet) (index : Datum) : Except Error Bool :=
  (index.toInteger.bind set.row).map set.contains

/-- A set over as many rows as a loose value says. -/
def ofSize (size : Datum) : Except Error WorkingSet := do
  let count ← size.toInteger
  if count < 0 then .error (.negativeSelector count) else .ok (empty count.toNat)

def rowsText (rows : List Nat) : String :=
  "[" ++ String.intercalate ", " (rows.map toString) ++ "]"

def describe (set : WorkingSet) : String :=
  s!"IndexSelector(m={set.size}, included=" ++ rowsText set.included ++ ")"

end WorkingSet
end ConvexQP
