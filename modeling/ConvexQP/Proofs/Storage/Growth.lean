import ConvexQP.Proofs.Storage.Layout

/-!
Growth of a segmented vector. Making room keeps the elements and leaves at least one free cell; the
chunks of an extension then fit into the blocks they start in, so a vector whose blocks but the last
are in use holds its elements followed by the new ones.
-/
namespace ConvexQP

namespace SegmentedVector
variable {Item : Type}

/-- Open, with all blocks but the last in use. -/
structure Extendable (vector : SegmentedVector Item) : Prop where
  valid : WellFormed vector
  compact : Compact vector
  opened : vector.closed = false

/-- The vector with a further segment. -/
def withSegment (vector : SegmentedVector Item) : SegmentedVector Item :=
  { vector with
    segmented := true
    blocks := vector.blocks.push (Array.replicate vector.capacities.segment vector.blank) }

/-- The vector with every block filled up to twice the capacity. -/
def doubled (vector : SegmentedVector Item) : SegmentedVector Item :=
  { vector with blocks := vector.blocks.map fun block =>
      block ++ Array.replicate (2 * vector.capacity - block.size) vector.blank }

/-- More cells behind the present ones hold the same elements. -/
theorem toList_of_longer (shorter longer : SegmentedVector Item) (fresh : List Item)
    (valid : WellFormed shorter) (sameLength : longer.length = shorter.length)
    (cells : longer.cells = shorter.cells ++ fresh) : longer.toList = shorter.toList := by
  have bound := valid.length_le
  rw [← length_cells] at bound
  rw [toList_eq_take, toList_eq_take, sameLength, cells, List.take_append,
    Nat.sub_eq_zero_of_le bound]
  simp

/-- Below the segment capacity there is room for another doubling. -/
theorem doubled_le (capacities : Capacities) (doublings : Nat)
    (below : capacities.initial * Nat.pow 2 doublings < capacities.segment) :
    capacities.initial * Nat.pow 2 (doublings + 1) ≤ capacities.segment := by
  obtain ⟨count, exactly⟩ := capacities.doubles
  rw [exactly] at below ⊢
  have fewer : doublings < count := by
    have powers := Nat.lt_of_mul_lt_mul_left below
    exact (Nat.pow_lt_pow_iff_right (by decide)).mp powers
  exact Nat.mul_le_mul_left _ (Nat.pow_le_pow_right (by decide) fewer)

/-- A further segment behind blocks that are all in use. -/
theorem withSegment_extendable (vector : SegmentedVector Item) (ready : Extendable vector)
    (used : vector.capacity ≤ vector.length)
    (even : vector.capacity % vector.capacities.segment = 0) :
    Extendable vector.withSegment := by
  have capacity := capacity_eq_sum vector ready.valid
  have bound := ready.valid.length_le
  have uniform : vector.shape = List.replicate vector.blocks.size vector.capacities.segment := by
    cases layout : vector.segmented with
    | true => exact ready.valid.full layout
    | false =>
        obtain ⟨doublings, only, below⟩ := ready.valid.single layout ready.opened
        have nonzero : 0 < vector.capacities.initial * Nat.pow 2 doublings :=
          Nat.mul_pos vector.capacities.initial_pos (Nat.pow_pos (by decide))
        -- A single block is full when it has grown to a segment, and can be taken for one.
        have filled : vector.capacities.initial * Nat.pow 2 doublings =
            vector.capacities.segment := by
          rw [capacity, only, List.sum_singleton] at even
          exact Nat.le_antisymm below (Nat.le_of_dvd nonzero (Nat.dvd_of_mod_eq_zero even))
        have one : vector.blocks.size = 1 := by
          simpa [shape] using congrArg List.length only
        rw [only, one, filled]
        rfl
  have longer : vector.withSegment.shape =
      List.replicate (vector.blocks.size + 1) vector.capacities.segment := by
    rw [List.replicate_succ', ← uniform]
    simp [shape, withSegment]
  have total : vector.shape.sum = vector.blocks.size * vector.capacities.segment := by
    rw [uniform, List.sum_replicate_nat]
  refine ⟨⟨fun _ => ?_, by simp [withSegment], fun closed => ?_, ?_⟩, fun _ => ?_, ready.opened⟩
  · simpa [withSegment] using longer
  · exact absurd (ready.opened.symm.trans closed) (by simp)
  · rw [longer, List.sum_replicate_nat, Nat.succ_mul, ← total]
    exact Nat.le_trans bound (Nat.le_add_right _ _)
  · simp only [SegmentedVector.capacity, withSegment, if_true, Array.size_push, Nat.succ_mul,
      ← total]
    omega

theorem cells_withSegment (vector : SegmentedVector Item) : vector.withSegment.cells =
    vector.cells ++ List.replicate vector.capacities.segment vector.blank := by
  simp [cells, withSegment]

/-- The first block doubled while it is smaller than a segment. -/
theorem doubled_spec (vector : SegmentedVector Item) (ready : Extendable vector)
    (uneven : vector.capacity % vector.capacities.segment ≠ 0) :
    Extendable vector.doubled ∧ vector.capacity < vector.doubled.capacity ∧
      vector.doubled.cells = vector.cells ++ List.replicate vector.capacity vector.blank := by
  have capacity := capacity_eq_sum vector ready.valid
  have layout : vector.segmented = false := by
    cases layout : vector.segmented with
    | false => rfl
    | true =>
        rw [capacity, ready.valid.full layout, List.sum_replicate_nat] at uneven
        simp at uneven
  obtain ⟨doublings, only, below⟩ := ready.valid.single layout ready.opened
  have held : vector.capacity = vector.capacities.initial * Nat.pow 2 doublings := by
    rw [capacity, only, List.sum_singleton]
  have positive : 0 < vector.capacity := by
    rw [held]
    exact Nat.mul_pos vector.capacities.initial_pos (Nat.pow_pos (by decide))
  have strict : vector.capacities.initial * Nat.pow 2 doublings < vector.capacities.segment := by
    apply Nat.lt_of_le_of_ne below
    intro same
    rw [held, same] at uneven
    simp at uneven
  have twice : 2 * vector.capacity = vector.capacities.initial * Nat.pow 2 (doublings + 1) := by
    rw [held, Nat.pow_eq, Nat.pow_eq, Nat.pow_succ]
    ac_rfl
  obtain ⟨block, listed, size⟩ := List.map_eq_singleton_iff.mp only
  have blockSize : block.size = vector.capacity := size.trans held.symm
  have longer : vector.doubled.blocks.toList =
      [block ++ Array.replicate vector.capacity vector.blank] := by
    simp only [doubled, Array.toList_map, listed, List.map_cons, List.map_nil, blockSize]
    rw [Nat.two_mul, Nat.add_sub_cancel]
  have sizes : vector.doubled.shape = [2 * vector.capacity] := by
    simp [shape, longer, blockSize, Nat.two_mul]
  have valid : WellFormed vector.doubled := by
    refine ⟨fun segmented => ?_, fun _ _ => ?_, fun closed => ?_, ?_⟩
    · exact absurd (layout.symm.trans segmented) (by simp)
    · exact ⟨doublings + 1, by rw [sizes, twice]; rfl,
        doubled_le vector.capacities doublings strict⟩
    · exact absurd (ready.opened.symm.trans closed) (by simp)
    · have bound := ready.valid.length_le
      rw [← capacity] at bound
      rw [sizes, List.sum_singleton]
      exact Nat.le_trans bound (by omega)
  refine ⟨⟨valid, fun segmented => ?_, ready.opened⟩, ?_, ?_⟩
  · exact absurd (layout.symm.trans segmented) (by simp)
  · rw [capacity_eq_sum _ valid, sizes, List.sum_singleton]
    omega
  · simp [cells, longer, listed]

theorem capacity_withSegment (vector : SegmentedVector Item) (ready : Extendable vector)
    (used : vector.capacity ≤ vector.length)
    (even : vector.capacity % vector.capacities.segment = 0) :
    vector.withSegment.capacity = vector.capacity + vector.capacities.segment := by
  have grown := withSegment_extendable vector ready used even
  rw [capacity_eq_length _ grown.valid, cells_withSegment, List.length_append,
    List.length_replicate, ← capacity_eq_length _ ready.valid]

theorem capacity_doubled (vector : SegmentedVector Item) (ready : Extendable vector)
    (uneven : vector.capacity % vector.capacities.segment ≠ 0) :
    vector.doubled.capacity = 2 * vector.capacity := by
  obtain ⟨grown, _, longer⟩ := doubled_spec vector ready uneven
  rw [capacity_eq_length _ grown.valid, longer, List.length_append, List.length_replicate,
    ← capacity_eq_length _ ready.valid, Nat.two_mul]

/-! ### The block in use -/

/-- The cells behind the elements in the block that they end in. -/
def blockRoom (vector : SegmentedVector Item) : Nat :=
  if vector.segmented then
    vector.capacities.segment - vector.length % vector.capacities.segment
  else vector.capacity - vector.length

theorem end_block (vector : SegmentedVector Item) (valid : WellFormed vector)
    (opened : vector.closed = false) (room : vector.length < vector.capacity) :
    ∃ block, vector.blocks[(vector.locate vector.length).1]? = some block ∧
      block.size = (vector.locate vector.length).2 + blockRoom vector := by
  have capacity := capacity_eq_sum vector valid
  cases layout : vector.segmented with
  | true =>
      have sizes := valid.full layout
      have total : vector.capacity = vector.blocks.size * vector.capacities.segment := by
        rw [capacity, sizes, List.sum_replicate_nat]
      have inside : vector.length / vector.capacities.segment < vector.blocks.size := by
        rw [Nat.div_lt_iff_lt_mul vector.capacities.segment_pos, ← total]
        exact room
      have listed := mem_sizes vector _ (Array.getElem_mem_toList inside)
      rw [sizes] at listed
      have remainder := Nat.mod_lt vector.length vector.capacities.segment_pos
      refine ⟨vector.blocks[vector.length / vector.capacities.segment], ?_, ?_⟩
      · simp [locate, layout, inside]
      · simp only [locate, blockRoom, layout, if_true, (List.mem_replicate.mp listed).2]
        omega
  | false =>
      obtain ⟨doublings, only, _⟩ := valid.single layout opened
      obtain ⟨block, listed, size⟩ := List.map_eq_singleton_iff.mp only
      refine ⟨block, ?_, ?_⟩
      · rw [← Array.getElem?_toList, listed]
        simp [locate, layout]
      · have whole : vector.capacity = block.size := by
          rw [capacity, only, List.sum_singleton, size]
        simp only [locate, blockRoom, layout, Bool.false_eq_true, if_false]
        omega

/-- Compactness: the elements end in the last block, or just before it is begun, so that block has
all the room there is. -/
theorem room_le_blockRoom (vector : SegmentedVector Item) (ready : Extendable vector) :
    vector.capacity - vector.length ≤ blockRoom vector := by
  cases layout : vector.segmented with
  | true =>
      have compact := ready.compact layout
      have total : vector.capacity = vector.blocks.size * vector.capacities.segment := by
        rw [capacity_eq_sum vector ready.valid, ready.valid.full layout, List.sum_replicate_nat]
      have split := Nat.div_add_mod vector.length vector.capacities.segment
      have remainder := Nat.mod_lt vector.length vector.capacities.segment_pos
      have few : vector.blocks.size ≤ vector.length / vector.capacities.segment + 1 := by
        apply Nat.le_of_lt_succ
        apply Nat.lt_of_mul_lt_mul_right (a := vector.capacities.segment)
        rw [← total, Nat.succ_mul, Nat.succ_mul, Nat.mul_comm]
        omega
      have wide := Nat.mul_le_mul_right vector.capacities.segment few
      rw [← total, Nat.succ_mul, Nat.mul_comm] at wide
      simp only [blockRoom, layout, if_true]
      omega
  | false =>
      simp only [blockRoom, layout, Bool.false_eq_true, if_false]
      exact Nat.le_refl _

/-- Items were put behind the elements of a vector that is still open. -/
structure Grown (before after : SegmentedVector Item) (items : List Item) : Prop where
  valid : WellFormed after
  opened : after.closed = false
  toList_eq : after.toList = before.toList ++ items
  compact : Compact before → Compact after

theorem Grown.refl (vector : SegmentedVector Item) (valid : WellFormed vector)
    (opened : vector.closed = false) : Grown vector vector [] :=
  ⟨valid, opened, (List.append_nil _).symm, id⟩

theorem Grown.trans {first second third : SegmentedVector Item} {front back : List Item}
    (earlier : Grown first second front) (later : Grown second third back) :
    Grown first third (front ++ back) :=
  ⟨later.valid, later.opened,
    by rw [later.toList_eq, earlier.toList_eq, List.append_assoc],
    fun before => later.compact (earlier.compact before)⟩

end SegmentedVector

namespace Stored
open SegmentedVector
variable {Item : Type}

theorem new_extendable (allocator : Allocator) (capacities : Capacities) (blank : Item)
    (itemBytes : Nat) : Extendable (new allocator capacities blank itemBytes).vector := by
  refine ⟨⟨by simp [new], ?_, by simp [new], by simp [new]⟩, by simp [new, Compact], rfl⟩
  intro _ _
  exact ⟨0, by simp [new, shape], by simpa [new] using Nat.le_of_lt capacities.initial_lt⟩

theorem toList_new (allocator : Allocator) (capacities : Capacities) (blank : Item)
    (itemBytes : Nat) : (new allocator capacities blank itemBytes).vector.toList = [] := by
  simp [toList_eq_take, new]

theorem reserve_eq (stored : Stored Item) (opened : stored.vector.closed = false) :
    ∃ allocator, stored.reserve =
      if stored.vector.length < stored.vector.capacity then .ok stored
      else .ok ⟨allocator, if stored.vector.capacity % stored.vector.capacities.segment = 0 then
        stored.vector.withSegment else stored.vector.doubled⟩ := by
  unfold reserve
  rw [if_neg (by simp [opened])]
  by_cases room : stored.vector.length < stored.vector.capacity
  · exact ⟨stored.allocator, by rw [if_pos room, if_pos room]⟩
  · rw [if_neg room]
    by_cases even : stored.vector.capacity % stored.vector.capacities.segment = 0
    · rw [if_pos even, if_pos even]
      exact ⟨_, (if_neg room).symm⟩
    · rw [if_neg even, if_neg even]
      exact ⟨_, (if_neg room).symm⟩

/-- The three ways in which room is made, with what the allocator sees of them. -/
theorem reserve_cases (stored roomy : Stored Item) (reserved : stored.reserve = .ok roomy) :
    (stored.vector.length < stored.vector.capacity ∧ roomy = stored) ∨
      (stored.vector.capacity ≤ stored.vector.length ∧
        stored.vector.capacity % stored.vector.capacities.segment = 0 ∧
        roomy = ⟨stored.allocator.allocate (bytes stored.vector stored.vector.capacities.segment),
          stored.vector.withSegment⟩) ∨
      (stored.vector.capacity ≤ stored.vector.length ∧
        stored.vector.capacity % stored.vector.capacities.segment ≠ 0 ∧
        roomy = ⟨((stored.allocator.allocate
          (bytes stored.vector (2 * stored.vector.capacity))).release
          (bytes stored.vector stored.vector.capacity)).collect, stored.vector.doubled⟩) := by
  unfold reserve at reserved
  extract_lets vector held segment doubled at reserved
  split at reserved
  · cases reserved
  · split at reserved
    · rename_i room
      exact .inl ⟨room, (Except.ok.inj reserved).symm⟩
    · rename_i room
      split at reserved
      · rename_i even
        exact .inr (.inl ⟨Nat.le_of_not_lt room, even, (Except.ok.inj reserved).symm⟩)
      · rename_i uneven
        exact .inr (.inr ⟨Nat.le_of_not_lt room, uneven, (Except.ok.inj reserved).symm⟩)

/-- Making room leaves the elements alone and at least one cell free. -/
theorem reserve_spec (stored : Stored Item) (ready : Extendable stored.vector) :
    ∃ roomy, stored.reserve = .ok roomy ∧ Extendable roomy.vector ∧
      roomy.vector.length < roomy.vector.capacity ∧
      roomy.vector.toList = stored.vector.toList := by
  obtain ⟨allocator, reserved⟩ := reserve_eq stored ready.opened
  have bound := ready.valid.length_le
  rw [← capacity_eq_sum _ ready.valid] at bound
  by_cases room : stored.vector.length < stored.vector.capacity
  · exact ⟨stored, by rw [reserved, if_pos room], ready, room, rfl⟩
  · rw [if_neg room] at reserved
    refine ⟨_, reserved, ?_⟩
    by_cases even : stored.vector.capacity % stored.vector.capacities.segment = 0
    · rw [if_pos even]
      have grown := withSegment_extendable stored.vector ready (Nat.le_of_not_lt room) even
      have longer := cells_withSegment stored.vector
      refine ⟨grown, ?_, toList_of_longer _ _ _ ready.valid rfl longer⟩
      have positive := stored.vector.capacities.segment_pos
      rw [capacity_eq_length _ grown.valid, longer, List.length_append, List.length_replicate,
        ← capacity_eq_length _ ready.valid]
      exact Nat.lt_of_le_of_lt bound (by omega)
    · rw [if_neg even]
      obtain ⟨grown, more, longer⟩ := doubled_spec stored.vector ready even
      exact ⟨grown, Nat.lt_of_le_of_lt bound more,
        toList_of_longer _ _ _ ready.valid rfl longer⟩

/-! ### Placing a chunk -/

/-- A chunk that fits into the block is put behind the elements. -/
theorem place_fits (stored : Stored Item) (chunk : List Item) (valid : WellFormed stored.vector)
    (opened : stored.vector.closed = false) (spare : stored.vector.length < stored.vector.capacity)
    (room : chunk.length ≤ stored.vector.capacity - stored.vector.length)
    (fits : chunk.length ≤ blockRoom stored.vector) :
    ∃ longer, stored.place chunk = .ok longer ∧ Grown stored.vector longer.vector chunk ∧
      longer.vector.length = stored.vector.length + chunk.length ∧
      longer.vector.capacity = stored.vector.capacity := by
  obtain ⟨allocator, vector⟩ := stored
  simp only at valid opened spare room fits ⊢
  obtain ⟨block, found, size⟩ := end_block vector valid opened spare
  have capacity := capacity_eq_length vector valid
  have written := cells_writeAll chunk vector vector.length valid (by omega)
  have sameShape := shape_writeAll chunk vector vector.length
  have good := writeAll_wellFormed chunk vector vector.length valid
  obtain ⟨blocks, frame⟩ := writeAll_frame chunk vector vector.length
  have sameCapacity : (vector.writeAll vector.length chunk).capacity = vector.capacity := by
    rw [capacity_eq_sum _ good, sameShape, ← capacity_eq_sum vector valid]
  refine ⟨⟨allocator, { vector.writeAll vector.length chunk with
    length := vector.length + chunk.length }⟩, ?_,
    ⟨⟨good.full, good.single, good.emptied, ?_⟩, ?_, ?_, ?_⟩, rfl, sameCapacity⟩
  · simp only [place, found]
    rw [if_neg (by omega)]
  · change vector.length + chunk.length ≤ (vector.writeAll vector.length chunk).shape.sum
    rw [sameShape, ← length_cells]
    omega
  · change (vector.writeAll vector.length chunk).closed = false
    rw [frame]
    exact opened
  · rw [toList_eq_take, toList_eq_take]
    change (vector.writeAll vector.length chunk).cells.take (vector.length + chunk.length) =
      vector.cells.take vector.length ++ chunk
    rw [written, List.take_append, List.take_of_length_le]
    · simp only [List.length_append, List.length_take]
      rw [Nat.min_eq_left (by omega), Nat.sub_self, List.take_zero, List.append_nil]
    · simp only [List.length_append, List.length_take]
      omega
  · intro compact layout
    have before : vector.segmented = true := by
      rw [frame] at layout
      exact layout
    have bound := compact before
    have sameCapacities : (vector.writeAll vector.length chunk).capacities = vector.capacities := by
      rw [frame]
    change (vector.writeAll vector.length chunk).capacity ≤
      vector.length + chunk.length + (vector.writeAll vector.length chunk).capacities.segment
    rw [sameCapacity, sameCapacities]
    omega

/-- A chunk that goes past the block is refused. -/
theorem place_past (stored : Stored Item) (chunk : List Item) (valid : WellFormed stored.vector)
    (opened : stored.vector.closed = false) (spare : stored.vector.length < stored.vector.capacity)
    (past : blockRoom stored.vector < chunk.length) :
    stored.place chunk = .error .chunkPastBlock := by
  obtain ⟨block, found, size⟩ := end_block stored.vector valid opened spare
  simp only [place, found]
  rw [if_pos (by omega)]

/-- A chunk no longer than the room is put behind the elements. -/
theorem place_spec (stored : Stored Item) (chunk : List Item) (ready : Extendable stored.vector)
    (room : stored.vector.length < stored.vector.capacity)
    (fits : chunk.length ≤ stored.vector.capacity - stored.vector.length) :
    ∃ longer, stored.place chunk = .ok longer ∧ Extendable longer.vector ∧
      longer.vector.toList = stored.vector.toList ++ chunk := by
  obtain ⟨longer, placed, grown, _⟩ := place_fits stored chunk
    ready.valid ready.opened room fits (Nat.le_trans fits (room_le_blockRoom stored.vector ready))
  exact ⟨longer, placed, ⟨grown.valid, grown.compact ready.compact, grown.opened⟩,
    grown.toList_eq⟩

/-! ### Extensions -/

theorem extendBy_spec (chunks : Nat) (stored : Stored Item) (items : List Item)
    (ready : Extendable stored.vector) (enough : items.length ≤ chunks) :
    (extendBy chunks stored items).failure = none ∧
      Extendable (extendBy chunks stored items).stored.vector ∧
      (extendBy chunks stored items).stored.vector.toList = stored.vector.toList ++ items := by
  induction chunks generalizing stored items with
  | zero =>
      have none : items = [] := List.length_eq_zero_iff.mp (Nat.le_zero.mp enough)
      subst none
      exact ⟨rfl, ready, by simp [extendBy]⟩
  | succ chunks ih =>
      cases items with
      | nil => exact ⟨rfl, ready, by simp [extendBy]⟩
      | cons item rest =>
          obtain ⟨roomy, reserved, roomyReady, room, sameItems⟩ := reserve_spec stored ready
          let count := roomy.vector.capacity - roomy.vector.length
          obtain ⟨longer, placed, longerReady, longerItems⟩ := place_spec roomy
            ((item :: rest).take count) roomyReady room (List.length_take_le _ _)
          have fewer : ((item :: rest).drop count).length ≤ chunks := by
            simp only [List.length_drop, List.length_cons] at enough ⊢
            omega
          have tail := ih longer ((item :: rest).drop count) longerReady fewer
          have unfolded : extendBy (chunks + 1) stored (item :: rest) =
              extendBy chunks longer ((item :: rest).drop count) := by
            rw [extendBy]
            · simp only [reserved]
              rw [placed]
            · simp
          rw [unfolded]
          refine ⟨tail.1, tail.2.1, ?_⟩
          rw [tail.2.2, longerItems, sameItems, List.append_assoc, List.take_append_drop]

theorem extend_spec (stored : Stored Item) (items : List Item) (ready : Extendable stored.vector) :
    (stored.extend items).failure = none ∧ Extendable (stored.extend items).stored.vector ∧
      (stored.extend items).stored.vector.toList = stored.vector.toList ++ items :=
  extendBy_spec items.length stored items ready (Nat.le_refl _)

end Stored
end ConvexQP
