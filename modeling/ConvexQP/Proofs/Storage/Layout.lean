import ConvexQP.Storage.SegmentedVector
import Mathlib.Algebra.GroupWithZero.Nat

/-!
How the blocks of a segmented vector hold its elements. `cells` lists the cells of all blocks in
order; the elements are the leading ones. Writing at a position sets that cell and no other, in
either layout, and every operation keeps the layout well formed. A vector that was only extended
since it was new takes every further extension.
-/
namespace ConvexQP

theorem Capacities.segment_pos (capacities : Capacities) : 0 < capacities.segment :=
  Nat.lt_trans capacities.initial_pos capacities.initial_lt

namespace SegmentedVector
variable {Item : Type}

def cells (vector : SegmentedVector Item) : List Item :=
  (vector.blocks.toList.map Array.toList).flatten

def shape (vector : SegmentedVector Item) : List Nat := vector.blocks.toList.map Array.size

/-- One block of doubled initial size, or blocks of the segment size; none once it is closed. -/
structure WellFormed (vector : SegmentedVector Item) : Prop where
  full : vector.segmented = true →
    vector.shape = List.replicate vector.blocks.size vector.capacities.segment
  single : vector.segmented = false → vector.closed = false → ∃ doublings,
    vector.shape = [vector.capacities.initial * Nat.pow 2 doublings] ∧
      vector.capacities.initial * Nat.pow 2 doublings ≤ vector.capacities.segment
  emptied : vector.closed = true → vector.segmented = false ∧ vector.shape = []
  length_le : vector.length ≤ vector.shape.sum

/-- All blocks but the last are in use. -/
def Compact (vector : SegmentedVector Item) : Prop :=
  vector.segmented = true → vector.capacity ≤ vector.length + vector.capacities.segment

/-- The parts are what the cells behind the offset hold, as long as the first block has an offset
like this. -/
theorem parts_flatten (offset count : Nat) (blocks : List (Array Item))
    (inside : ∀ block ∈ blocks.head?, offset ≤ block.size) :
    (parts offset count blocks).flatten =
      (((blocks.map Array.toList).flatten).drop offset).take count := by
  induction blocks generalizing offset count with
  | nil => simp [parts]
  | cons block rest ih =>
      have bound : offset ≤ block.toList.length := inside block rfl
      cases count with
      | zero => simp [parts]
      | succ count =>
          -- Every block behind the first one is read from its start.
          have later := ih 0 (count + 1 - (block.toList.drop offset).length)
            fun _ _ => Nat.zero_le _
          have taken : count + 1 - min (count + 1) (block.toList.drop offset).length =
              count + 1 - (block.toList.drop offset).length := by omega
          rw [parts, List.flatten_cons, List.length_take, taken, later, List.map_cons,
            List.flatten_cons, List.drop_append_of_le_length bound, List.take_append, List.drop_zero]

theorem locate_zero (vector : SegmentedVector Item) : vector.locate 0 = (0, 0) := by
  unfold locate
  split
  · rw [Nat.zero_div, Nat.zero_mod]
  · rfl

theorem toList_eq_take (vector : SegmentedVector Item) :
    vector.toList = vector.cells.take vector.length := by
  have read := parts_flatten 0 vector.length vector.blocks.toList fun _ _ => Nat.zero_le _
  simp only [toList, gather, viewsOf, locate_zero]
  exact read

theorem toList_eq_views (vector : SegmentedVector Item) : vector.toList = vector.views.flatten := rfl

theorem length_cells (vector : SegmentedVector Item) :
    vector.cells.length = vector.shape.sum := by
  simp [cells, shape, List.length_flatten, Function.comp_def]

theorem capacity_eq_sum (vector : SegmentedVector Item) (valid : WellFormed vector) :
    vector.capacity = vector.shape.sum := by
  unfold capacity
  cases layout : vector.segmented with
  | true => simp [valid.full layout]
  | false =>
      have blocksFromShape : vector.shape = vector.blocks.toList.map Array.size := rfl
      cases released : vector.closed with
      | true =>
          have none := (valid.emptied released).2
          simp_all [shape]
      | false =>
          obtain ⟨doublings, only, _⟩ := valid.single layout released
          rw [shape, List.map_eq_singleton_iff] at only
          obtain ⟨block, listed, size⟩ := only
          have first : vector.blocks[0]? = some block := by
            rw [← Array.getElem?_toList, listed]
            rfl
          simp [first, shape, listed]

theorem capacity_eq_length (vector : SegmentedVector Item) (valid : WellFormed vector) :
    vector.capacity = vector.cells.length := by
  rw [capacity_eq_sum vector valid, length_cells]

theorem length_toList (vector : SegmentedVector Item) (valid : WellFormed vector) :
    vector.toList.length = vector.length := by
  have bound := valid.length_le
  rw [← length_cells] at bound
  rw [toList_eq_take, List.length_take]
  omega

/-! ### Writing -/

/-- Blocks of one size: quotient and remainder of a position lead to its cell. -/
theorem flatten_modify (blocks : List (Array Item)) (size position : Nat) (item : Item)
    (equal : ∀ block ∈ blocks, block.size = size) (positive : 0 < size) :
    ((blocks.modify (position / size) fun block =>
        block.setIfInBounds (position % size) item).map Array.toList).flatten =
      ((blocks.map Array.toList).flatten).set position item := by
  induction blocks generalizing position with
  | nil => simp
  | cons block rest ih =>
      have head : block.toList.length = size := by simpa using equal block (by simp)
      have tail := ih (position - size) (fun other member => equal other (by simp [member]))
      -- The position lies in the first block, or in the rest with one block less before it.
      by_cases here : position < size
      · rw [Nat.div_eq_of_lt here, Nat.mod_eq_of_lt here]
        simp [List.set_append_left, head, here]
      · have later : size ≤ position := Nat.le_of_not_lt here
        rw [Nat.div_eq_sub_div positive later, Nat.mod_eq_sub_mod later]
        rw [List.modify_succ_cons, List.map_cons, List.flatten_cons, tail, List.map_cons,
          List.flatten_cons, List.set_append_right _ _ (by omega), head]

theorem shape_write (vector : SegmentedVector Item) (position : Nat) (item : Item) :
    (vector.write position item).shape = vector.shape := by
  apply List.ext_getElem?
  intro index
  simp only [write, shape, Array.toList_modify, List.getElem?_map, List.getElem?_modify]
  split <;> cases vector.blocks.toList[index]? <;> simp

theorem length_shape (vector : SegmentedVector Item) : vector.shape.length = vector.blocks.size := by
  rw [shape, List.length_map, Array.length_toList]

/-- Blocks of the same sizes, with anything in them, are as well formed. -/
theorem WellFormed.of_shape {before after : SegmentedVector Item} (valid : WellFormed before)
    (sizes : after.shape = before.shape) (layout : after.segmented = before.segmented)
    (capacities : after.capacities = before.capacities) (length : after.length = before.length)
    (closed : after.closed = before.closed) : WellFormed after := by
  have count : after.blocks.size = before.blocks.size := by
    rw [← length_shape, sizes, length_shape]
  constructor
  · rw [layout, sizes, count, capacities]
    exact valid.full
  · rw [layout, closed, sizes, capacities]
    exact valid.single
  · rw [closed, layout, sizes]
    exact valid.emptied
  · rw [length, sizes]
    exact valid.length_le

theorem write_wellFormed (vector : SegmentedVector Item) (position : Nat) (item : Item)
    (valid : WellFormed vector) : WellFormed (vector.write position item) :=
  valid.of_shape (shape_write vector position item) rfl rfl rfl rfl

theorem mem_sizes (vector : SegmentedVector Item) (block : Array Item)
    (member : block ∈ vector.blocks.toList) : block.size ∈ vector.shape :=
  List.mem_map_of_mem member

theorem WellFormed.segment_size {vector : SegmentedVector Item} (valid : WellFormed vector)
    (layout : vector.segmented = true) (block : Array Item)
    (member : block ∈ vector.blocks.toList) : block.size = vector.capacities.segment := by
  have listed := mem_sizes vector block member
  rw [valid.full layout] at listed
  exact (List.mem_replicate.mp listed).2

theorem cells_write (vector : SegmentedVector Item) (position : Nat) (item : Item)
    (valid : WellFormed vector) :
    (vector.write position item).cells = vector.cells.set position item := by
  unfold write locate cells
  cases layout : vector.segmented with
  | true =>
      have equal := valid.segment_size layout
      simpa using flatten_modify vector.blocks.toList vector.capacities.segment position item
        equal vector.capacities.segment_pos
  | false =>
      cases released : vector.closed with
      | true =>
          have none : vector.blocks.toList = [] := List.map_eq_nil_iff.mp (valid.emptied released).2
          simp [none]
      | false =>
          obtain ⟨doublings, only, _⟩ := valid.single layout released
          obtain ⟨block, listed, _⟩ := List.map_eq_singleton_iff.mp only
          simp [listed]

theorem writeAll_wellFormed (items : List Item) (vector : SegmentedVector Item) (position : Nat)
    (valid : WellFormed vector) : WellFormed (vector.writeAll position items) := by
  induction items generalizing vector position with
  | nil => exact valid
  | cons item rest ih =>
      exact ih _ _ (write_wellFormed vector position item valid)

theorem shape_writeAll (items : List Item) (vector : SegmentedVector Item) (position : Nat) :
    (vector.writeAll position items).shape = vector.shape := by
  induction items generalizing vector position with
  | nil => rfl
  | cons item rest ih => rw [writeAll, ih, shape_write]

theorem writeAll_frame (items : List Item) (vector : SegmentedVector Item) (position : Nat) :
    ∃ blocks, vector.writeAll position items = { vector with blocks } := by
  induction items generalizing vector position with
  | nil => exact ⟨vector.blocks, rfl⟩
  | cons item rest ih =>
      obtain ⟨blocks, later⟩ := ih (vector.write position item) (position + 1)
      exact ⟨blocks, later⟩

/-- Side by side: the cells in front and behind stay. -/
theorem cells_writeAll (items : List Item) (vector : SegmentedVector Item) (position : Nat)
    (valid : WellFormed vector) (room : position + items.length ≤ vector.cells.length) :
    (vector.writeAll position items).cells =
      vector.cells.take position ++ items ++ vector.cells.drop (position + items.length) := by
  induction items generalizing vector position with
  | nil => simp [writeAll]
  | cons item rest ih =>
      have written := cells_write vector position item valid
      have inside : position < vector.cells.length := by
        simp only [List.length_cons] at room
        omega
      have parted : vector.cells.set position item =
          vector.cells.take position ++ item :: vector.cells.drop (position + 1) := by
        rw [List.set_eq_take_append_cons_drop, if_pos inside]
      have front : (vector.cells.take position).length = position := by
        rw [List.length_take]
        omega
      rw [writeAll, ih _ _ (write_wellFormed vector position item valid), written]
      · have leading : (vector.cells.set position item).take (position + 1) =
            vector.cells.take position ++ [item] := by
          rw [parted, List.take_append, front, List.take_of_length_le (by omega)]
          simp
        have trailing : (vector.cells.set position item).drop (position + 1 + rest.length) =
            vector.cells.drop (position + (item :: rest).length) := by
          rw [List.drop_set_of_lt (by omega), List.length_cons]
          congr 1
          omega
        rw [leading, trailing]
        simp
      · rw [written, List.length_set]
        simp only [List.length_cons] at room
        omega

/-! ### Overwriting -/

theorem fill_nil (blocks : List (Array Item)) : fill [] blocks = blocks := by
  cases blocks with
  | nil => rfl
  | cons block rest => rfl

theorem fill_sizes (items : List Item) (blocks : List (Array Item)) :
    (fill items blocks).map Array.size = blocks.map Array.size := by
  induction blocks generalizing items with
  | nil => cases items <;> rfl
  | cons block rest ih =>
      cases items with
      | nil => rfl
      | cons item more =>
          rw [fill, List.map_cons, List.map_cons, ih]
          congr 1
          simp only [List.size_toArray, List.length_append, List.length_take, List.length_drop,
            Array.length_toList]
          omega

/-- With room for all items, the cells hold them, and behind them what they held. -/
theorem fill_flatten (items : List Item) (blocks : List (Array Item))
    (room : items.length ≤ ((blocks.map Array.toList).flatten).length) :
    ((fill items blocks).map Array.toList).flatten =
      items ++ ((blocks.map Array.toList).flatten).drop items.length := by
  induction blocks generalizing items with
  | nil =>
      obtain rfl := List.length_eq_zero_iff.mp (Nat.le_zero.mp room)
      rfl
  | cons block rest ih =>
      cases items with
      | nil => rfl
      | cons item more =>
          have size := block.length_toList
          rw [List.map_cons, List.flatten_cons, List.length_append] at room
          have later := ih ((item :: more).drop block.size) (by rw [List.length_drop]; omega)
          rw [fill, List.map_cons, List.flatten_cons, later, List.map_cons, List.flatten_cons,
            List.drop_append, List.length_drop, size]
          -- Either the items end in this block, or they leave none of its cells.
          rcases Nat.le_total (item :: more).length block.size with ends | fills
          · rw [List.take_of_length_le ends, List.drop_of_length_le ends, List.nil_append,
              List.append_assoc]
          · rw [List.drop_of_length_le (size ▸ fills), List.append_nil, List.nil_append,
              ← List.append_assoc, List.take_append_drop]

theorem overwriteLeading_eq (vector : SegmentedVector Item) (items : List Item)
    (fits : items.length ≤ vector.length) :
    vector.overwriteLeading items = .ok (vector.overwritten items) :=
  if_neg (Nat.not_lt.mpr fits)

theorem shape_overwritten (vector : SegmentedVector Item) (items : List Item) :
    (vector.overwritten items).shape = vector.shape := fill_sizes items vector.blocks.toList

theorem overwritten_wellFormed (vector : SegmentedVector Item) (items : List Item)
    (valid : WellFormed vector) : WellFormed (vector.overwritten items) :=
  valid.of_shape (shape_overwritten vector items) rfl rfl rfl rfl

theorem cells_overwritten (vector : SegmentedVector Item) (items : List Item)
    (room : items.length ≤ vector.cells.length) :
    (vector.overwritten items).cells = items ++ vector.cells.drop items.length :=
  fill_flatten items vector.blocks.toList room

/-- Overwriting leaves the length and the elements behind the new ones. -/
theorem overwriteLeading_spec (vector : SegmentedVector Item) (items : List Item)
    (valid : WellFormed vector) (fits : items.length ≤ vector.length) :
    ∃ written, vector.overwriteLeading items = .ok written ∧ WellFormed written ∧
      written.length = vector.length ∧ written.closed = vector.closed ∧
      written.toList = items ++ vector.toList.drop items.length := by
  have bound := valid.length_le
  rw [← length_cells] at bound
  have sameLength : (vector.overwritten items).length = vector.length := rfl
  refine ⟨vector.overwritten items, overwriteLeading_eq vector items fits,
    overwritten_wellFormed vector items valid, rfl, rfl, ?_⟩
  rw [toList_eq_take, toList_eq_take, sameLength, cells_overwritten vector items (by omega),
    List.drop_take, List.take_append, List.take_of_length_le fits]

end SegmentedVector
end ConvexQP
