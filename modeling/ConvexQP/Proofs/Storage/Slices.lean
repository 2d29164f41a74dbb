import ConvexQP.Proofs.Storage.HighWater
import Mathlib.Data.List.Basic

/-!
Slices as slices of a list: which items a start, a stop and a step select is said by taking,
dropping, turning around and leaving out, without a word of positions. The walk over positions
picks these items, whatever the bounds are; with step one they are the range that is gathered from
the blocks. The vector that is filled is new.
-/
namespace ConvexQP

namespace Slice
variable {Item : Type}

/-! ### Lists -/

/-- Leaves out some items, takes one, and from there on one of each `stride`. -/
def everyNth (stride : Nat) : Nat → List Item → List Item
  | _, [] => []
  | 0, item :: rest => item :: everyNth stride (stride - 1) rest
  | skipped + 1, _ :: rest => everyNth stride skipped rest

/-- A bound is counted from the front, or from the end if it is negative. -/
def fromFront (length : Nat) (bound : Int) : Int := if bound < 0 then bound + length else bound

/-- The items of a list that a slice selects. With a negative step they are taken from the start
back to the stop; the item at the start is among them, the one at the stop is not. -/
def ofList (slice : Slice) (items : List Item) : List Item :=
  let step := slice.step.getD 1
  let length := items.length
  if 0 < step then
    let start := (slice.start.map (fromFront length)).getD 0
    let stop := (slice.stop.map (fromFront length)).getD length
    everyNth step.toNat 0 ((items.take stop.toNat).drop start.toNat)
  else
    let start := (slice.start.map (fromFront length)).getD (length - 1)
    let stop := (slice.stop.map (fromFront length)).getD (-1)
    everyNth (-step).toNat 0 ((items.take (start + 1).toNat).drop (stop + 1).toNat).reverse

theorem everyNth_getElem? (stride : Nat) (positive : 0 < stride) (skipped : Nat)
    (items : List Item) (place : Nat) :
    (everyNth stride skipped items)[place]? = items[skipped + place * stride]? := by
  induction items generalizing skipped place with
  | nil => simp [everyNth]
  | cons item rest ih =>
      cases skipped with
      | succ skipped =>
          rw [everyNth, ih, Nat.add_right_comm, List.getElem?_cons_succ]
      | zero =>
          cases place with
          | zero => simp [everyNth]
          | succ place =>
              have next : 0 + (place + 1) * stride = stride - 1 + place * stride + 1 := by
                rw [Nat.succ_mul]
                omega
              rw [everyNth, List.getElem?_cons_succ, ih, next, List.getElem?_cons_succ]

/-- One of each one is every one. -/
theorem everyNth_one (items : List Item) : everyNth 1 0 items = items := by
  apply List.ext_getElem?
  intro place
  rw [everyNth_getElem? 1 Nat.one_pos, Nat.zero_add, Nat.mul_one]

theorem take_drop_getElem? (items : List Item) (front back place : Nat) :
    ((items.take back).drop front)[place]? =
      if front + place < back then items[front + place]? else none := by
  rw [List.getElem?_drop]
  split
  · rename_i inside
    exact List.getElem?_take_of_lt inside
  · rename_i outside
    rw [List.getElem?_eq_none]
    exact (List.length_take_le back items).trans (Nat.le_of_not_lt outside)

/-- Back from the last item that is taken, as far as the first. -/
theorem take_drop_reverse_getElem? (items : List Item) (front back place : Nat) :
    ((items.take back).drop front).reverse[place]? =
      if front + place < min back items.length then
        items[min back items.length - 1 - place]? else none := by
  have size : ((items.take back).drop front).length = min back items.length - front := by
    rw [List.length_drop, List.length_take]
  split
  · rename_i inside
    rw [List.getElem?_reverse (by omega), take_drop_getElem?, size, if_pos (by omega)]
    congr 1
    omega
  · rename_i outside
    rw [List.getElem?_eq_none]
    rw [List.length_reverse, size]
    omega

/-! ### Positions -/

/-- A stride goes as often into a distance, rounded up, as it does not lead past the end. -/
theorem lt_steps_iff (distance stride : Int) (positive : 0 < stride) (place : Nat) :
    place < ((distance + stride - 1) / stride).toNat ↔ place * stride < distance := by
  rw [Int.lt_toNat, Int.lt_iff_add_one_le, Int.le_ediv_iff_mul_le positive, Int.add_mul]
  omega

theorem walk_up (start stop stride : Nat) (positive : 0 < stride) (place : Nat) :
    (Walk.positions ⟨start, stop, stride⟩)[place]? =
      if start + place * stride < stop then some (start + place * stride) else none := by
  have forward : (0 : Int) < stride := by omega
  have count := lt_steps_iff ((stop : Int) - start) stride forward place
  simp only [Walk.positions]
  rw [if_pos forward, List.getElem?_map]
  by_cases inside : start + place * stride < stop
  · have counted := count.mpr (by rw [← Int.natCast_mul]; omega)
    have reached : ((start : Int) + place * stride).toNat = start + place * stride := by
      rw [← Int.natCast_mul]
      omega
    rw [if_pos inside, List.getElem?_range counted]
    exact congrArg some reached
  · have beyond := mt count.mp (by rw [← Int.natCast_mul]; omega)
    rw [if_neg inside, List.getElem?_eq_none (by rw [List.length_range]; omega)]
    rfl

/-- Here the bounds are counts of items: the walk goes from the last of some items back to where
others end. -/
theorem walk_down (start stop stride : Nat) (positive : 0 < stride) (place : Nat) :
    (Walk.positions ⟨(start : Int) - 1, (stop : Int) - 1, -stride⟩)[place]? =
      if stop + place * stride < start then some (start - 1 - place * stride) else none := by
  have forward : (0 : Int) < stride := by omega
  have count := lt_steps_iff ((start : Int) - stop) stride forward place
  have distance : (start : Int) - 1 - (stop - 1) - -stride - 1 = start - stop + stride - 1 := by
    omega
  simp only [Walk.positions]
  rw [if_neg (by omega), distance, Int.neg_neg, List.getElem?_map]
  by_cases inside : stop + place * stride < start
  · have counted := count.mpr (by rw [← Int.natCast_mul]; omega)
    have reached : ((start : Int) - 1 + place * -stride).toNat = start - 1 - place * stride := by
      rw [Int.mul_neg, ← Int.natCast_mul]
      omega
    rw [if_pos inside, List.getElem?_range counted]
    exact congrArg some reached
  · have beyond := mt count.mp (by rw [← Int.natCast_mul]; omega)
    rw [if_neg inside, List.getElem?_eq_none (by rw [List.length_range]; omega)]
    rfl

theorem walk_up_items (items : List Item) (front back stride : Nat) (positive : 0 < stride) :
    (Walk.positions ⟨(min front items.length : Nat), (min back items.length : Nat), stride⟩).map
      (items[·]?) = (everyNth stride 0 ((items.take back).drop front)).map some := by
  apply List.ext_getElem?
  intro place
  rw [List.getElem?_map, List.getElem?_map, walk_up _ _ _ positive, everyNth_getElem? _ positive,
    Nat.zero_add, take_drop_getElem?]
  by_cases inside : min front items.length + place * stride < min back items.length
  · have start : min front items.length = front := by omega
    rw [start] at inside ⊢
    have held : items[front + place * stride]? = some _ := List.getElem?_eq_getElem (by omega)
    rw [if_pos inside, if_pos (by omega), held]
    exact congrArg some held
  · rw [if_neg inside]
    split
    · rw [List.getElem?_eq_none (by omega)]
      rfl
    · rfl

theorem walk_down_items (items : List Item) (front back stride : Nat) (positive : 0 < stride) :
    (Walk.positions ⟨((min back items.length : Nat) : Int) - 1,
      ((min front items.length : Nat) : Int) - 1, -stride⟩).map (items[·]?) =
        (everyNth stride 0 ((items.take back).drop front).reverse).map some := by
  apply List.ext_getElem?
  intro place
  rw [List.getElem?_map, List.getElem?_map, walk_down _ _ _ positive, everyNth_getElem? _ positive,
    Nat.zero_add, take_drop_reverse_getElem?]
  by_cases inside : min front items.length + place * stride < min back items.length
  · have held : items[min back items.length - 1 - place * stride]? = some _ :=
      List.getElem?_eq_getElem (by omega)
    rw [if_pos inside, if_pos (by omega), held]
    exact congrArg some held
  · rw [if_neg inside, if_neg (by omega)]
    rfl

theorem clamp_up (length : Nat) (bound : Int) :
    clamp length 0 length bound = (min (fromFront length bound).toNat length : Nat) := by
  unfold clamp fromFront
  split <;> omega

theorem clamp_down (length : Nat) (bound : Int) : clamp length (-1) ((length : Int) - 1) bound =
    ((min (fromFront length bound + 1).toNat length : Nat) : Int) - 1 := by
  unfold clamp fromFront
  split <;> omega

/-- With a positive step, the walk goes from one count of items to another. -/
theorem walk_forth (slice : Slice) (length stride : Nat) (positive : 0 < stride)
    (step : slice.step.getD 1 = stride) :
    slice.walk length = .ok
      ⟨(min ((slice.start.map (fromFront length)).getD 0).toNat length : Nat),
        (min ((slice.stop.map (fromFront length)).getD length).toNat length : Nat), stride⟩ := by
  have moves : (stride : Int) ≠ 0 := by omega
  have straight : ¬(stride : Int) < 0 := by omega
  simp only [walk, step, if_neg moves, if_neg straight]
  congr 2
  · cases slice.start with
    | none => simp
    | some bound => exact clamp_up length bound
  · cases slice.stop with
    | none => simp
    | some bound => exact clamp_up length bound

/-- With a negative step, it goes from the last of some items back to where others end. -/
theorem walk_back (slice : Slice) (length stride : Nat) (positive : 0 < stride)
    (step : slice.step.getD 1 = -stride) :
    slice.walk length = .ok
      ⟨((min ((slice.start.map (fromFront length)).getD ((length : Int) - 1) + 1).toNat length :
          Nat) : Int) - 1,
        ((min ((slice.stop.map (fromFront length)).getD (-1) + 1).toNat length : Nat) : Int) - 1,
        -stride⟩ := by
  have moves : -(stride : Int) ≠ 0 := by omega
  have turned : -(stride : Int) < 0 := by omega
  simp only [walk, step, if_neg moves, if_pos turned]
  congr 2
  · cases slice.start with
    | none => simp
    | some bound => exact clamp_down length bound
  · cases slice.stop with
    | none => simp
    | some bound => exact clamp_down length bound

/-- The walk is over the positions of the items that are selected. -/
theorem walk_items (slice : Slice) (nonzero : slice.step ≠ some 0) (items : List Item) :
    ∃ walk, slice.walk items.length = .ok walk ∧ walk.step = slice.step.getD 1 ∧
      walk.positions.map (items[·]?) = (slice.ofList items).map some := by
  have moves : slice.step.getD 1 ≠ 0 := by
    cases given : slice.step with
    | none => decide
    | some step => exact fun none => nonzero (given.trans (congrArg some none))
  rcases lt_or_gt_of_ne moves with back | forth
  · obtain ⟨stride, positive, step⟩ : ∃ stride : Nat, 0 < stride ∧ slice.step.getD 1 = -stride :=
      ⟨(-slice.step.getD 1).toNat, by omega, by omega⟩
    have single : ¬(0 : Int) < -stride := by omega
    refine ⟨_, slice.walk_back items.length stride positive step, step.symm, ?_⟩
    rw [walk_down_items _ _ _ _ positive]
    simp only [ofList, step, if_neg single, Int.neg_neg, Int.toNat_natCast]
  · obtain ⟨stride, positive, step⟩ : ∃ stride : Nat, 0 < stride ∧ slice.step.getD 1 = stride :=
      ⟨(slice.step.getD 1).toNat, by omega, by omega⟩
    have forward : (0 : Int) < stride := by omega
    refine ⟨_, slice.walk_forth items.length stride positive step, step.symm, ?_⟩
    rw [walk_up_items _ _ _ _ positive]
    simp only [ofList, step, if_pos forward, Int.toNat_natCast]

example : ofList ⟨some 9, some (-4), some (-2)⟩ [0, 1, 2, 3, 4] = [4, 2] := by decide

/-- Without leaving out, the items between the bounds are selected. -/
theorem ofList_unit (slice : Slice) (unit : slice.step.getD 1 = 1) (items : List Item) :
    slice.ofList items =
      (items.take ((slice.stop.map (fromFront items.length)).getD items.length).toNat).drop
        ((slice.start.map (fromFront items.length)).getD 0).toNat := by
  have selected := everyNth_one
    ((items.take ((slice.stop.map (fromFront items.length)).getD items.length).toNat).drop
      ((slice.start.map (fromFront items.length)).getD 0).toNat)
  simp only [ofList, unit, Int.zero_lt_one, if_true]
  exact selected

theorem ofList_range (start stop : Nat) (items : List Item) :
    ofList ⟨some start, some stop, none⟩ items = (items.take stop).drop start := by
  have counted (bound : Nat) : fromFront items.length bound = bound := if_neg (by omega)
  rw [ofList_unit _ rfl]
  simp only [Option.map_some, Option.getD_some, counted, Int.toNat_natCast]

/-- Bounds may be moved into the list. -/
theorem take_drop_min (items : List Item) (front back : Nat) :
    (items.take (max (min front items.length) (min back items.length))).drop
      (min front items.length) = (items.take back).drop front := by
  apply List.ext_getElem?
  intro place
  rw [take_drop_getElem?, take_drop_getElem?]
  by_cases inside : front + place < min back items.length
  · have start : min front items.length = front := by omega
    rw [start, if_pos (by omega), if_pos (by omega)]
  · rw [if_neg (by omega)]
    split
    · rw [List.getElem?_eq_none (by omega)]
    · rfl

/-- With step one, the walk goes through a range of the list. -/
theorem walk_unit (slice : Slice) (unit : slice.step.getD 1 = 1) (items : List Item) :
    ∃ first last : Nat, slice.walk items.length = .ok ⟨first, last, 1⟩ ∧
      first ≤ items.length ∧ last ≤ items.length ∧
      slice.ofList items = ofList ⟨some first, some (max first last : Nat), none⟩ items := by
  refine ⟨_, _, slice.walk_forth items.length 1 Nat.one_pos unit, Nat.min_le_right _ _,
    Nat.min_le_right _ _, ?_⟩
  rw [ofList_unit slice unit, ofList_range, take_drop_min]

/-- Items are picked by their positions. -/
theorem filterMap_positions (items selected : List Item) (positions : List Nat)
    (named : positions.map (items[·]?) = selected.map some) :
    positions.filterMap (items.toArray[·]?) = selected := by
  have picked := congrArg (List.filterMap id) named
  rw [List.filterMap_map, List.filterMap_map] at picked
  simpa using picked

end Slice

namespace Stored
open SegmentedVector
variable {Item : Type} (stored : Stored Item) (valid : WellFormed stored.vector)

/-! ### Copies -/

theorem copyRange_outside (start stop : Int)
    (outside : ¬(0 ≤ start ∧ start ≤ stop ∧ stop ≤ stored.vector.length)) :
    stored.copyRange start stop = .error (.outOfBounds
      (if (stored.vector.length : Int) < stop then stop else start) stored.vector.length) :=
  if_neg outside

include valid in
theorem copyRange_items (start stop : Int)
    (inside : 0 ≤ start ∧ start ≤ stop ∧ stop ≤ stored.vector.length) :
    stored.copyRange start stop = .ok (stored.like.extend
      (Slice.ofList ⟨some start, some stop, none⟩ stored.vector.toList)) := by
  obtain ⟨low, order, high⟩ := inside
  obtain ⟨first, rfl⟩ := Int.eq_ofNat_of_zero_le low
  obtain ⟨last, rfl⟩ := Int.eq_ofNat_of_zero_le (low.trans order)
  have gathered := gather_eq stored.vector first last valid (by omega) (by omega)
  rw [copyRange, if_pos ⟨low, order, high⟩, Slice.ofList_range]
  simp only [Int.toNat_natCast, gathered]

theorem slice_zero (slice : Slice) (zero : slice.step = some 0) :
    stored.slice slice = .error .zeroStep := by
  simp [Stored.slice, Slice.walk, zero, bind, Except.bind]

include valid in
/-- With step one, a slice is the copy of a range. Its bounds are those of the slice, moved into the
vector, the last not before the first. -/
theorem slice_unit (slice : Slice) (unit : slice.step.getD 1 = 1) :
    ∃ first last : Nat, first ≤ last ∧ last ≤ stored.vector.length ∧
      stored.slice slice = stored.copyRange first last ∧
      slice.ofList stored.vector.toList =
        Slice.ofList ⟨some first, some last, none⟩ stored.vector.toList := by
  obtain ⟨first, last, walked, low, high, items⟩ := slice.walk_unit unit stored.vector.toList
  rw [length_toList _ valid] at walked low high
  refine ⟨first, max first last, Nat.le_max_left _ _, Nat.max_le.mpr ⟨low, high⟩, ?_, items⟩
  have later : max (first : Int) last = (max first last : Nat) := by omega
  rw [Stored.slice, walked]
  simp only [bind, Except.bind, if_true, later]

include valid in
theorem slice_items (slice : Slice) (nonzero : slice.step ≠ some 0) :
    stored.slice slice = .ok (stored.like.extend (slice.ofList stored.vector.toList)) := by
  -- Only with step one is anything gathered from the blocks; other elements are picked one by one.
  by_cases unit : slice.step.getD 1 = 1
  · obtain ⟨first, last, order, high, same, items⟩ := slice_unit stored valid slice unit
    rw [same, copyRange_items stored valid first last ⟨by omega, by omega, by omega⟩, items]
  · obtain ⟨walk, walked, step, named⟩ := slice.walk_items nonzero stored.vector.toList
    rw [length_toList _ valid] at walked
    have picked := Slice.filterMap_positions _ _ _ named
    rw [Stored.slice, walked]
    simp only [bind, Except.bind, step, if_neg unit, picked]
    rfl

/-- What is copied into a new vector is in it, and the vector is as large as its length calls for. -/
theorem like_extend (items : List Item) :
    (stored.like.extend items).failure = none ∧
      Extendable (stored.like.extend items).stored.vector ∧
      (stored.like.extend items).stored.vector.toList = items ∧
      (stored.like.extend items).stored.vector.capacities = stored.vector.capacities ∧
      stored.vector.capacities.Settles items.length
        (stored.like.extend items).stored.vector.capacity := by
  have fresh := new_extendable stored.allocator stored.vector.capacities stored.vector.blank
    stored.vector.itemBytes
  obtain ⟨done, ready, elements⟩ := extend_spec stored.like items fresh
  rw [like, toList_new, List.nil_append] at elements
  have marked := new_marked stored.allocator stored.vector.capacities stored.vector.blank
    stored.vector.itemBytes
  obtain ⟨raised, capacities, _⟩ := appendAll_marked 0 stored.like marked items
  rw [← extend_eq_appendAll stored.like items fresh.valid done] at raised capacities
  have length : (stored.like.extend items).stored.vector.length = items.length := by
    rw [← length_toList _ ready.valid]
    exact congrArg List.length elements
  have settles := raised.settles
  rw [length, Nat.zero_max, capacities] at settles
  exact ⟨done, ready, elements, capacities, settles⟩

end Stored
end ConvexQP
