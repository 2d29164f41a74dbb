import ConvexQP.Proofs.Storage.Layout

/-!
Requests that need no room. Through `toList` a well formed vector reads and writes like a list, in
either layout, and turns around like one; cells behind its length are never seen, and a closed
vector has none.
-/
namespace ConvexQP

namespace SegmentedVector
variable {Item : Type}

/-! ### Reading -/

/-- Blocks of one size: the cells behind a position are those of its block, from its place on, and of
the blocks that follow. -/
theorem flatten_drop (blocks : List (Array Item)) (size position : Nat)
    (equal : ∀ block ∈ blocks, block.size = size) (positive : 0 < size) :
    (((blocks.drop (position / size)).map Array.toList).flatten).drop (position % size) =
      ((blocks.map Array.toList).flatten).drop position := by
  induction blocks generalizing position with
  | nil => simp
  | cons block rest ih =>
      have head : block.toList.length = size := by simpa using equal block (by simp)
      have tail := ih (position - size) fun other member => equal other (by simp [member])
      by_cases here : position < size
      · rw [Nat.div_eq_of_lt here, Nat.mod_eq_of_lt here, List.drop_zero]
      · have later : size ≤ position := Nat.le_of_not_lt here
        have passed : block.toList.drop position = [] := List.drop_of_length_le (by omega)
        rw [Nat.div_eq_sub_div positive later, Nat.mod_eq_sub_mod later, List.drop_succ_cons, tail,
          List.map_cons, List.flatten_cons, List.drop_append, head, passed, List.nil_append]

/-- Blocks of one size: quotient and remainder of a position lead to what is there. -/
theorem flatten_getElem? (blocks : List (Array Item)) (size position : Nat)
    (equal : ∀ block ∈ blocks, block.size = size) (positive : 0 < size) :
    ((blocks.map Array.toList).flatten)[position]? =
      (blocks[position / size]?).bind (·[position % size]?) := by
  have first := congrArg (·[0]?) (flatten_drop blocks size position equal positive)
  simp only [List.getElem?_drop, Nat.add_zero] at first
  rw [← first]
  rcases Nat.lt_or_ge (position / size) blocks.length with inside | outside
  · have room : position % size < (blocks[position / size]).toList.length := by
      rw [Array.length_toList, equal _ (List.getElem_mem inside)]
      exact Nat.mod_lt position positive
    rw [List.drop_eq_getElem_cons inside, List.map_cons, List.flatten_cons,
      List.getElem?_append_left room, List.getElem?_eq_getElem inside, Array.getElem?_toList]
    rfl
  · rw [List.drop_of_length_le outside, List.getElem?_eq_none outside]
    rfl

theorem cells_getElem? (vector : SegmentedVector Item) (position : Nat)
    (valid : WellFormed vector) : vector.cells[position]? =
      (vector.blocks[(vector.locate position).1]?).bind (·[(vector.locate position).2]?) := by
  rw [← Array.getElem?_toList]
  cases layout : vector.segmented with
  | true =>
      have equal := valid.segment_size layout
      simp only [locate, layout, if_true]
      exact flatten_getElem? vector.blocks.toList vector.capacities.segment position equal
        vector.capacities.segment_pos
  | false =>
      cases released : vector.closed with
      | true =>
          have none : vector.blocks.toList = [] := List.map_eq_nil_iff.mp (valid.emptied released).2
          simp [cells, none]
      | false =>
          obtain ⟨doublings, only, _⟩ := valid.single layout released
          obtain ⟨block, listed, _⟩ := List.map_eq_singleton_iff.mp only
          simp [cells, locate, layout, listed]

theorem read_eq (vector : SegmentedVector Item) (position : Nat) (valid : WellFormed vector)
    (inside : position < vector.length) :
    vector.read position = vector.toList.getD position vector.blank := by
  have found := cells_getElem? vector position valid
  rw [toList_eq_take, List.getD_eq_getElem?_getD, List.getElem?_take_of_lt inside, found]
  simp only [read]
  cases vector.blocks[(vector.locate position).1]? with
  | none => rfl
  | some block => simp [Array.getD_eq_getD_getElem?]

theorem cells_drop (vector : SegmentedVector Item) (position : Nat) (valid : WellFormed vector) :
    (((vector.blocks.toList.drop (vector.locate position).1).map Array.toList).flatten).drop
      (vector.locate position).2 = vector.cells.drop position := by
  cases layout : vector.segmented with
  | true =>
      simp only [locate, layout, if_true]
      exact flatten_drop vector.blocks.toList vector.capacities.segment position
        (valid.segment_size layout) vector.capacities.segment_pos
  | false =>
      simp only [locate, layout, Bool.false_eq_true, if_false, List.drop_zero]
      rfl

/-- The block of a position has a place for it. -/
theorem locate_inside (vector : SegmentedVector Item) (position : Nat) (valid : WellFormed vector)
    (inside : position ≤ vector.length) :
    ∀ block ∈ (vector.blocks.toList.drop (vector.locate position).1).head?,
      (vector.locate position).2 ≤ block.size := by
  intro block first
  have member := List.mem_of_mem_drop (List.mem_of_mem_head? first)
  cases layout : vector.segmented with
  | true =>
      rw [valid.segment_size layout block member]
      simp only [locate, layout, if_true]
      exact Nat.le_of_lt (Nat.mod_lt position vector.capacities.segment_pos)
  | false =>
      have bound := Nat.le_trans inside valid.length_le
      simp only [locate, layout, Bool.false_eq_true, if_false]
      cases released : vector.closed with
      | true =>
          rw [(valid.emptied released).2] at bound
          exact Nat.le_trans bound (Nat.zero_le _)
      | false =>
          obtain ⟨doublings, only, _⟩ := valid.single layout released
          have size := mem_sizes vector block member
          rw [only, List.mem_singleton] at size
          rw [only, List.sum_singleton] at bound
          rwa [size]

/-- What is gathered are the elements from the start up to the stop. -/
theorem gather_eq (vector : SegmentedVector Item) (start stop : Nat) (valid : WellFormed vector)
    (order : start ≤ stop) (inside : stop ≤ vector.length) :
    vector.gather start stop = (vector.toList.take stop).drop start := by
  have read := parts_flatten _ (stop - start) _
    (locate_inside vector start valid (Nat.le_trans order inside))
  rw [cells_drop vector start valid] at read
  rw [toList_eq_take, List.take_take, Nat.min_eq_left inside, List.drop_take]
  exact read

/-! ### Writing -/

theorem toList_write (vector : SegmentedVector Item) (position : Nat) (item : Item)
    (valid : WellFormed vector) :
    (vector.write position item).toList = vector.toList.set position item := by
  have same : (vector.write position item).length = vector.length := rfl
  rw [toList_eq_take, toList_eq_take, cells_write vector position item valid, same,
    List.take_set]

/-- Other elements in the same blocks. -/
structure Rewritten (before after : SegmentedVector Item) : Prop where
  valid : WellFormed after
  shape : after.shape = before.shape
  frame : ∃ blocks, after = { before with blocks }

theorem Rewritten.refl (vector : SegmentedVector Item) (valid : WellFormed vector) :
    Rewritten vector vector :=
  ⟨valid, rfl, vector.blocks, rfl⟩

theorem Rewritten.trans {first second third : SegmentedVector Item}
    (earlier : Rewritten first second) (later : Rewritten second third) :
    Rewritten first third := by
  obtain ⟨blocks, frame⟩ := later.frame
  obtain ⟨_, before⟩ := earlier.frame
  exact ⟨later.valid, later.shape.trans earlier.shape, blocks, by rw [frame, before]⟩

theorem Rewritten.length {before after : SegmentedVector Item}
    (rewritten : Rewritten before after) : after.length = before.length := by
  obtain ⟨blocks, frame⟩ := rewritten.frame
  rw [frame]

theorem Rewritten.closed {before after : SegmentedVector Item}
    (rewritten : Rewritten before after) : after.closed = before.closed := by
  obtain ⟨blocks, frame⟩ := rewritten.frame
  rw [frame]

theorem Rewritten.compact {before after : SegmentedVector Item}
    (rewritten : Rewritten before after) (valid : WellFormed before) (compact : Compact before) :
    Compact after := by
  have room : after.capacity = before.capacity := by
    rw [capacity_eq_sum after rewritten.valid, rewritten.shape, ← capacity_eq_sum before valid]
  obtain ⟨blocks, frame⟩ := rewritten.frame
  have layout : after.segmented = before.segmented := by rw [frame]
  have segment : after.capacities = before.capacities := by rw [frame]
  simp only [Compact, room, rewritten.length, layout, segment]
  exact compact

theorem write_rewritten (vector : SegmentedVector Item) (position : Nat) (item : Item)
    (valid : WellFormed vector) : Rewritten vector (vector.write position item) :=
  ⟨write_wellFormed vector position item valid, shape_write vector position item, _, rfl⟩

theorem overwritten_rewritten (vector : SegmentedVector Item) (items : List Item)
    (valid : WellFormed vector) : Rewritten vector (vector.overwritten items) :=
  ⟨overwritten_wellFormed vector items valid, shape_overwritten vector items, _, rfl⟩

theorem clear_wellFormed (vector : SegmentedVector Item) (valid : WellFormed vector) :
    WellFormed vector.clear :=
  ⟨valid.full, valid.single, valid.emptied, Nat.zero_le _⟩

theorem toList_clear (vector : SegmentedVector Item) : vector.clear.toList = [] := by
  rw [toList_eq_take]
  rfl

theorem toList_of_closed (vector : SegmentedVector Item) (valid : WellFormed vector)
    (closed : vector.closed = true) : vector.toList = [] := by
  have none : vector.blocks.toList = [] := List.map_eq_nil_iff.mp (valid.emptied closed).2
  simp [toList_eq_take, cells, none]

/-! ### Turning around -/

/-- Swaps two mirrored items of a list. -/
def mirror (blank : Item) (items : List Item) (place : Nat) : List Item :=
  (items.set place (items.getD (items.length - place - 1) blank)).set (items.length - place - 1)
    (items.getD place blank)

theorem length_mirror (blank : Item) (items : List Item) (place : Nat) :
    (mirror blank items place).length = items.length := by
  simp [mirror]

/-- Items that were swapped are turned around, and those in between stay. -/
theorem mirrorAll_getElem? (blank : Item) (items : List Item) (count : Nat)
    (half : 2 * count ≤ items.length) :
    ((List.range count).foldl (mirror blank) items).length = items.length ∧
      ∀ place < items.length, ((List.range count).foldl (mirror blank) items)[place]? =
        if place < count ∨ items.length - count ≤ place then items[items.length - 1 - place]?
        else items[place]? := by
  induction count with
  | zero =>
      refine ⟨rfl, ?_⟩
      intro place inside
      rw [if_neg (by omega)]
      rfl
  | succ count ih =>
      obtain ⟨length, swapped⟩ := ih (by omega)
      rw [List.range_succ, List.foldl_append, List.foldl_cons, List.foldl_nil]
      refine ⟨(length_mirror _ _ _).trans length, ?_⟩
      intro place inside
      -- Neither of the two items that are swapped now was touched before.
      have low := swapped count (by omega)
      have high := swapped (items.length - count - 1) (by omega)
      rw [if_neg (by omega)] at low high
      have lowItem : items[count]? = some items[count] := List.getElem?_eq_getElem (by omega)
      have highItem : items[items.length - count - 1]? = some items[items.length - count - 1] :=
        List.getElem?_eq_getElem (by omega)
      simp only [mirror, length, List.getD_eq_getElem?_getD, low, high, lowItem, highItem,
        Option.getD_some, List.getElem?_set, List.length_set]
      by_cases last : items.length - count - 1 = place
      · have mirrored : items.length - 1 - place = count := by omega
        rw [if_pos last, if_pos (by omega), if_pos (by omega), mirrored, lowItem]
      · rw [if_neg last]
        by_cases first : count = place
        · have mirrored : items.length - 1 - place = items.length - count - 1 := by omega
          rw [if_pos first, if_pos (by omega), if_pos (by omega), mirrored, highItem]
        · rw [if_neg first, swapped place inside]
          by_cases done : place < count ∨ items.length - count ≤ place
          · rw [if_pos done, if_pos (by omega)]
          · rw [if_neg done, if_neg (by omega)]

theorem mirrorAll_eq_reverse (blank : Item) (items : List Item) :
    (List.range (items.length / 2)).foldl (mirror blank) items = items.reverse := by
  obtain ⟨length, swapped⟩ := mirrorAll_getElem? blank items (items.length / 2) (by omega)
  apply List.ext_getElem?
  intro place
  by_cases inside : place < items.length
  · rw [swapped place inside, List.getElem?_reverse inside]
    split
    · rfl
    · congr 1
      omega
  · rw [List.getElem?_eq_none (by omega), List.getElem?_eq_none (by simp; omega)]

/-- Swaps two mirrored elements of a vector. -/
def swapAt (length : Nat) (vector : SegmentedVector Item) (place : Nat) : SegmentedVector Item :=
  (vector.write place (vector.read (length - place - 1))).write (length - place - 1)
    (vector.read place)

theorem swapAt_spec (vector : SegmentedVector Item) (place : Nat) (valid : WellFormed vector)
    (inside : place < vector.length) :
    Rewritten vector (swapAt vector.length vector place) ∧
      (swapAt vector.length vector place).toList = mirror vector.blank vector.toList place := by
  have first := write_rewritten vector place (vector.read (vector.length - place - 1)) valid
  refine ⟨first.trans (write_rewritten _ _ _ first.valid), ?_⟩
  rw [swapAt, toList_write _ _ _ first.valid, toList_write _ _ _ valid, mirror,
    length_toList vector valid, read_eq vector place valid inside,
    read_eq vector (vector.length - place - 1) valid (by omega)]

theorem swapAll_spec (vector : SegmentedVector Item) (valid : WellFormed vector) (count : Nat)
    (inside : count ≤ vector.length) :
    Rewritten vector ((List.range count).foldl (swapAt vector.length) vector) ∧
      ((List.range count).foldl (swapAt vector.length) vector).toList =
        (List.range count).foldl (mirror vector.blank) vector.toList := by
  induction count with
  | zero => exact ⟨Rewritten.refl vector valid, rfl⟩
  | succ count ih =>
      obtain ⟨earlier, items⟩ := ih (by omega)
      obtain ⟨blocks, frame⟩ := earlier.frame
      rw [List.range_succ, List.foldl_append, List.foldl_append, List.foldl_cons, List.foldl_cons,
        List.foldl_nil, List.foldl_nil, ← items]
      rw [frame] at earlier ⊢
      obtain ⟨swapped, mirrored⟩ :=
        swapAt_spec { vector with blocks } count earlier.valid (Nat.lt_of_succ_le inside)
      exact ⟨earlier.trans swapped, mirrored⟩

/-- A vector turns around like its elements. -/
theorem reverse_spec (vector : SegmentedVector Item) (valid : WellFormed vector) :
    Rewritten vector vector.reverse ∧ vector.reverse.toList = vector.toList.reverse := by
  obtain ⟨rewritten, items⟩ :=
    swapAll_spec vector valid (vector.length / 2) (Nat.div_le_self _ _)
  refine ⟨rewritten, ?_⟩
  rw [← mirrorAll_eq_reverse vector.blank, length_toList vector valid]
  exact items

end SegmentedVector

namespace Stored
open SegmentedVector
variable {Item : Type}

/-- Closing takes the elements with the blocks. -/
theorem close_spec (stored : Stored Item) (valid : WellFormed stored.vector) :
    WellFormed stored.close.vector ∧ stored.close.vector.closed = true ∧
      stored.close.vector.toList = [] ∧ Compact stored.close.vector := by
  unfold close
  by_cases closed : stored.vector.closed = true
  · rw [if_pos closed]
    have contiguous := (valid.emptied closed).1
    exact ⟨valid, closed, toList_of_closed stored.vector valid closed,
      fun layout => absurd (contiguous.symm.trans layout) (by simp)⟩
  · rw [if_neg closed]
    exact ⟨⟨by simp, by simp, by simp [shape], by simp⟩, rfl, rfl, by simp [Compact]⟩

end Stored
end ConvexQP
