import ConvexQP.Storage.SegmentedVector

/-!
Slices of a segmented vector: which positions a start, a stop and a step select, and the fresh
vector that holds copies of the elements there.
-/
namespace ConvexQP

/-- A start, a stop and a step, each of which may be left out. Negative positions count from the
end. -/
structure Slice where
  start : Option Int
  stop : Option Int
  step : Option Int

namespace Slice

/-- Moves a bound into the range that a walk over `length` elements may start from or end at. -/
def clamp (length : Nat) (low high : Int) (bound : Int) : Int :=
  if bound < 0 then max (bound + length) low else min bound high

/-- A walk over positions from a start towards a stop, by steps up or down. -/
structure Walk where
  start : Int
  stop : Int
  step : Int

def Walk.positions (walk : Walk) : List Nat :=
  let count := if 0 < walk.step then (walk.stop - walk.start + walk.step - 1) / walk.step
    else (walk.start - walk.stop - walk.step - 1) / (-walk.step)
  (List.range count.toNat).map fun (index : Nat) =>
    (walk.start + (index : Int) * walk.step).toNat

/-- The walk over the positions selected among `length` elements. -/
def walk (slice : Slice) (length : Nat) : Except Error Walk :=
  let step := slice.step.getD 1
  if step = 0 then .error .zeroStep
  else
    let low : Int := if step < 0 then -1 else 0
    let high : Int := if step < 0 then (length : Int) - 1 else length
    let start := match slice.start with
      | some bound => clamp length low high bound
      | none => if step < 0 then high else low
    let stop := match slice.stop with
      | some bound => clamp length low high bound
      | none => if step < 0 then low else high
    .ok ⟨start, stop, step⟩

end Slice

namespace Stored
variable {Item : Type}

/-- A fresh vector with copies of the elements from `start` up to, and without, `stop`. It draws on
the same allocator. -/
def copyRange (stored : Stored Item) (start stop : Int) : Except Error (Progress Item) :=
  let length := stored.vector.length
  if 0 ≤ start ∧ start ≤ stop ∧ stop ≤ length then
    .ok (stored.like.extend (stored.vector.gather start.toNat stop.toNat))
  else .error (.outOfBounds (if (length : Int) < stop then stop else start) length)

/-- A fresh vector with copies of the selected elements. Elements next to each other are a range;
any others are picked from the list of all. -/
def slice (stored : Stored Item) (slice : Slice) : Except Error (Progress Item) := do
  let walk ← slice.walk stored.vector.length
  if walk.step = 1 then stored.copyRange walk.start (max walk.start walk.stop)
  else
    let elements := stored.vector.toList.toArray
    return stored.like.extend (walk.positions.filterMap (elements[·]?))

end Stored
end ConvexQP
