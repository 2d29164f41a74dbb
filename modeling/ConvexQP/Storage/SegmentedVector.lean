import ConvexQP.Storage.Allocator

/-!
A growable vector over blocks. Up to the segment capacity the elements live in one block that
doubles when it is full; from then on one more block of the segment capacity is added per overflow,
and blocks already written stay where they are. `toList` is what the vector holds; cells beyond its
length keep whatever was in them.

Operations that allocate work on a `Stored` vector, which is a vector with the allocator it draws
on. Those that can be refused after some of their work is done return what they did as well.
-/
namespace ConvexQP

/-- Sizes of the first block and of a segment; doubling the first leads exactly to the second. -/
structure Capacities where
  initial : Nat
  segment : Nat
  initial_pos : 0 < initial
  initial_lt : initial < segment
  doubles : ∃ count, segment = initial * Nat.pow 2 count

def Capacities.check (segment initial : Int) : Except Error Capacities :=
  if order : 0 < initial ∧ initial < segment then
    let first := initial.toNat
    let full := segment.toNat
    if power : full = first * Nat.pow 2 (Nat.log2 (full / first)) then
      .ok ⟨first, full, by omega, by omega, ⟨_, power⟩⟩
    else .error .capacityRatio
  else .error (.capacityOrder initial segment)

structure SegmentedVector (Item : Type) where
  capacities : Capacities
  /-- What a fresh cell holds. -/
  blank : Item
  itemBytes : Nat
  blocks : Array (Array Item)
  segmented : Bool
  length : Nat
  closed : Bool

structure Stored (Item : Type) where
  allocator : Allocator
  vector : SegmentedVector Item

namespace SegmentedVector
variable {Item : Type}

def capacity (vector : SegmentedVector Item) : Nat :=
  if vector.segmented then vector.blocks.size * vector.capacities.segment
  else match vector.blocks[0]? with
    | some block => block.size
    | none => 0

/-- Block and place within the block of a position. -/
def locate (vector : SegmentedVector Item) (position : Nat) : Nat × Nat :=
  if vector.segmented then
    (position / vector.capacities.segment, position % vector.capacities.segment)
  else (0, position)

/-- What `count` cells hold, one part for each block that is touched: from an offset on in the first
block, from the start in the others. -/
def parts : Nat → Nat → List (Array Item) → List (List Item)
  | _, _, [] => []
  | _, 0, _ => []
  | offset, count + 1, block :: rest =>
    let cells := (block.toList.drop offset).take (count + 1)
    cells :: parts 0 (count + 1 - cells.length) rest

/-- The parts of the blocks that hold the elements from `start` up to, and without, `stop`. -/
def viewsOf (vector : SegmentedVector Item) (start stop : Nat) : List (List Item) :=
  let place := vector.locate start
  parts place.2 (stop - start) (vector.blocks.toList.drop place.1)

def views (vector : SegmentedVector Item) : List (List Item) := vector.viewsOf 0 vector.length

/-- The elements from `start` up to, and without, `stop`, part after part. -/
def gather (vector : SegmentedVector Item) (start stop : Nat) : List Item :=
  (vector.viewsOf start stop).flatten

def toList (vector : SegmentedVector Item) : List Item := vector.gather 0 vector.length

def read (vector : SegmentedVector Item) (position : Nat) : Item :=
  let place := vector.locate position
  match vector.blocks[place.1]? with
  | some block => block.getD place.2 vector.blank
  | none => vector.blank

def write (vector : SegmentedVector Item) (position : Nat) (item : Item) :
    SegmentedVector Item :=
  let place := vector.locate position
  { vector with blocks := vector.blocks.modify place.1 fun block =>
      block.setIfInBounds place.2 item }

def writeAll (vector : SegmentedVector Item) (position : Nat) : List Item → SegmentedVector Item
  | [] => vector
  | item :: rest => (vector.write position item).writeAll (position + 1) rest

/-- A position counted from the end when negative. -/
def position (vector : SegmentedVector Item) (index : Int) : Except Error Nat :=
  let shifted := if index < 0 then index + vector.length else index
  if shifted < 0 ∨ (vector.length : Int) ≤ shifted then
    .error (.outOfBounds index vector.length)
  else .ok shifted.toNat

def get (vector : SegmentedVector Item) (index : Int) : Except Error Item :=
  (vector.position index).map vector.read

def set (vector : SegmentedVector Item) (index : Int) (item : Item) :
    Except Error (SegmentedVector Item) :=
  (vector.position index).map fun place => vector.write place item

/-- Writes items over the leading cells of blocks, into each block as many as it has cells. -/
def fill : List Item → List (Array Item) → List (Array Item)
  | _, [] => []
  | [], blocks => blocks
  | item :: more, block :: rest =>
    let items := item :: more
    let filled := items.take block.size ++ block.toList.drop items.length
    filled.toArray :: fill (items.drop block.size) rest

/-- The vector with items in place of its leading elements. -/
def overwritten (vector : SegmentedVector Item) (items : List Item) : SegmentedVector Item :=
  { vector with blocks := (fill items vector.blocks.toList).toArray }

def overwriteLeading (vector : SegmentedVector Item) (items : List Item) :
    Except Error (SegmentedVector Item) :=
  if vector.length < items.length then
    .error (.sourceTooLong items.length vector.length)
  else .ok (vector.overwritten items)

/-- Forgets the elements and keeps the blocks. -/
def clear (vector : SegmentedVector Item) : SegmentedVector Item := { vector with length := 0 }

/-- Swaps the elements at mirrored positions, as far as the middle. -/
def reverse (vector : SegmentedVector Item) : SegmentedVector Item :=
  (List.range (vector.length / 2)).foldl (fun swapped place =>
    let mirrored := vector.length - place - 1
    (swapped.write place (swapped.read mirrored)).write mirrored (swapped.read place)) vector

end SegmentedVector

namespace Stored
variable {Item : Type}

def bytes (vector : SegmentedVector Item) (cells : Nat) : Nat := cells * vector.itemBytes

/-- An empty vector with its first block. -/
def new (allocator : Allocator) (capacities : Capacities) (blank : Item) (itemBytes : Nat) :
    Stored Item :=
  ⟨allocator.allocate (capacities.initial * itemBytes),
    { capacities, blank, itemBytes, blocks := #[Array.replicate capacities.initial blank],
      segmented := false, length := 0, closed := false }⟩

/-- An empty vector of the same make, drawing on the same allocator. -/
def like (stored : Stored Item) : Stored Item :=
  new stored.allocator stored.vector.capacities stored.vector.blank stored.vector.itemBytes

/-- Makes room for one more element: by a further segment once the first block has the segment
capacity, by a block of twice the size before. -/
def reserve (stored : Stored Item) : Except Error (Stored Item) :=
  let vector := stored.vector
  let held := vector.capacity
  let segment := vector.capacities.segment
  if vector.closed then .error .closedVector
  else if vector.length < held then .ok stored
  else if held % segment = 0 then
    .ok ⟨stored.allocator.allocate (bytes vector segment),
      { vector with
        segmented := true
        blocks := vector.blocks.push (Array.replicate segment vector.blank) }⟩
  else
    let doubled := vector.blocks.map fun block =>
      block ++ Array.replicate (2 * held - block.size) vector.blank
    .ok ⟨((stored.allocator.allocate (bytes vector (2 * held))).release
        (bytes vector held)).collect, { vector with blocks := doubled }⟩

def append (stored : Stored Item) (item : Item) : Except Error (Stored Item) :=
  stored.reserve.map fun roomy =>
    ⟨roomy.allocator,
      { roomy.vector.write roomy.vector.length item with length := roomy.vector.length + 1 }⟩

/-- What became of a request that may stop half-way: the state it left, and why it stopped. -/
structure Progress (Item : Type) where
  stored : Stored Item
  failure : Option Error

/-- Appends one value after the other. -/
def appendAll (stored : Stored Item) : List Item → Progress Item
  | [] => ⟨stored, none⟩
  | item :: rest =>
    match stored.append item with
    | .ok longer => longer.appendAll rest
    | .error cause => ⟨stored, some cause⟩

/-- Puts a chunk behind the elements. It has to fit into the block it starts in. -/
def place (stored : Stored Item) (chunk : List Item) : Except Error (Stored Item) :=
  let vector := stored.vector
  let spot := vector.locate vector.length
  let size := match vector.blocks[spot.1]? with
    | some block => block.size
    | none => 0
  if size < spot.2 + chunk.length then .error .chunkPastBlock
  else .ok ⟨stored.allocator,
    { vector.writeAll vector.length chunk with length := vector.length + chunk.length }⟩

/-- Appends items chunk by chunk, each as long as the room that is left. Every chunk holds at least
one item, so there are no more chunks than items. -/
def extendBy : Nat → Stored Item → List Item → Progress Item
  | _, stored, [] => ⟨stored, none⟩
  | 0, stored, _ => ⟨stored, none⟩
  | chunks + 1, stored, items =>
    match stored.reserve with
    | .error cause => ⟨stored, some cause⟩
    | .ok roomy =>
      let take := roomy.vector.capacity - roomy.vector.length
      match roomy.place (items.take take) with
      | .error cause => ⟨roomy, some cause⟩
      | .ok longer => extendBy chunks longer (items.drop take)

def extend (stored : Stored Item) (items : List Item) : Progress Item :=
  extendBy items.length stored items

/-- Gives every block back. Closing again changes nothing. -/
def close (stored : Stored Item) : Stored Item :=
  if stored.vector.closed then stored
  else
    let emptied := stored.vector.blocks.foldr (fun block allocator =>
      allocator.release (bytes stored.vector block.size)) stored.allocator
    ⟨emptied.collect,
      { stored.vector with blocks := #[], segmented := false, length := 0, closed := true }⟩

end Stored
end ConvexQP
