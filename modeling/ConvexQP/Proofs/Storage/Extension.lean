import ConvexQP.Proofs.Storage.Growth

/-!
Which requests for room are refused. A closed vector does not grow. An open one does, with one
exception: after its elements were forgotten a vector has blocks behind the one it ends in, and an
extension takes all the cells there are for one chunk, which has to fit into that block. A refused
extension leaves everything as it was, and a vector that never forgot its elements refuses none.
-/
namespace ConvexQP

namespace SegmentedVector
variable {Item : Type}

/-- The items and the cells that are there both go past the end of the block in use. -/
def Spills (vector : SegmentedVector Item) (count : Nat) : Prop :=
  vector.blockRoom < min count (vector.capacity - vector.length)

instance (vector : SegmentedVector Item) (count : Nat) : Decidable (vector.Spills count) :=
  inferInstanceAs (Decidable (_ < _))

theorem not_spills_of_extendable (vector : SegmentedVector Item) (ready : Extendable vector)
    (count : Nat) : ¬ vector.Spills count := by
  have room := room_le_blockRoom vector ready
  simp only [Spills]
  omega

/-- With the end of the block in sight nothing is refused, so only a segmented vector spills. -/
theorem Spills.segmented (vector : SegmentedVector Item) (count : Nat)
    (spills : vector.Spills count) : vector.segmented = true := by
  cases layout : vector.segmented with
  | true => rfl
  | false =>
      simp only [Spills, blockRoom, layout, Bool.false_eq_true, if_false] at spills
      omega

theorem Spills.opened (vector : SegmentedVector Item) (valid : WellFormed vector) (count : Nat)
    (spills : vector.Spills count) : vector.closed = false := by
  cases closed : vector.closed with
  | false => rfl
  | true =>
      have contiguous := (valid.emptied closed).1
      exact absurd (contiguous.symm.trans (spills.segmented _ _)) (by simp)

theorem blockRoom_pos (vector : SegmentedVector Item) (spare : vector.length < vector.capacity) :
    0 < vector.blockRoom := by
  have remainder := Nat.mod_lt vector.length vector.capacities.segment_pos
  simp only [blockRoom]
  split
  · omega
  · omega

end SegmentedVector

namespace Stored
open SegmentedVector
variable {Item : Type} (stored : Stored Item)

theorem reserve_closed (closed : stored.vector.closed = true) :
    stored.reserve = .error .closedVector := by
  simp only [reserve, closed, if_true]

variable (valid : WellFormed stored.vector) (opened : stored.vector.closed = false)

include opened in
/-- With a free cell no room is made. -/
theorem reserve_spare (spare : stored.vector.length < stored.vector.capacity) :
    stored.reserve = .ok stored := by
  obtain ⟨allocator, reserved⟩ := reserve_eq stored opened
  rw [reserved, if_pos spare]

include valid opened in
/-- Without a free cell all blocks are in use. -/
theorem extendable_of_full (full : ¬ stored.vector.length < stored.vector.capacity) :
    Extendable stored.vector :=
  ⟨valid, fun _ => Nat.le_trans (Nat.le_of_not_lt full) (Nat.le_add_right _ _), opened⟩

include valid opened in
/-- Room is made for any open vector, and there is a free cell in the block in use. -/
theorem reserve_open : ∃ roomy, stored.reserve = .ok roomy ∧
    Grown stored.vector roomy.vector [] ∧ roomy.vector.length < roomy.vector.capacity := by
  by_cases spare : stored.vector.length < stored.vector.capacity
  · exact ⟨stored, reserve_spare stored opened spare, Grown.refl _ valid opened, spare⟩
  · obtain ⟨roomy, reserved, ready, room, items⟩ :=
      reserve_spec stored (extendable_of_full stored valid opened spare)
    exact ⟨roomy, reserved,
      ⟨ready.valid, ready.opened, by rw [items, List.append_nil], fun _ => ready.compact⟩, room⟩

/-! ### One element after the other -/

/-- With a free cell, appending is placing a chunk of one. -/
theorem append_eq_place (roomy : Stored Item) (item : Item) (reserved : stored.reserve = .ok roomy)
    (longer : Stored Item) (placed : roomy.place [item] = .ok longer) :
    stored.append item = .ok longer := by
  unfold place at placed
  extract_lets vector spot size at placed
  split at placed
  · simp at placed
  · rw [append, reserved, ← Except.ok.inj placed]
    rfl

include valid opened in
theorem append_open (item : Item) :
    ∃ longer, stored.append item = .ok longer ∧ Grown stored.vector longer.vector [item] := by
  obtain ⟨roomy, reserved, room, spare⟩ := reserve_open stored valid opened
  obtain ⟨longer, placed, grown, _⟩ := place_fits roomy [item] room.valid room.opened spare
    (Nat.sub_pos_of_lt spare) (blockRoom_pos roomy.vector spare)
  exact ⟨longer, append_eq_place stored roomy item reserved longer placed, room.trans grown⟩

theorem append_closed (item : Item) (closed : stored.vector.closed = true) :
    stored.append item = .error .closedVector := by
  rw [append, reserve_closed stored closed]
  rfl

include valid opened in
theorem appendAll_open (items : List Item) :
    (stored.appendAll items).failure = none ∧
      Grown stored.vector (stored.appendAll items).stored.vector items := by
  induction items generalizing stored with
  | nil => exact ⟨rfl, Grown.refl _ valid opened⟩
  | cons item rest ih =>
      obtain ⟨longer, appended, first⟩ := append_open stored valid opened item
      have next : stored.appendAll (item :: rest) = longer.appendAll rest := by
        rw [appendAll, appended]
      obtain ⟨done, others⟩ := ih longer first.valid first.opened
      rw [next]
      exact ⟨done, first.trans others⟩

theorem appendAll_closed (items : List Item) (closed : stored.vector.closed = true) :
    stored.appendAll items = ⟨stored, if items = [] then none else some .closedVector⟩ := by
  cases items with
  | nil => rfl
  | cons item rest =>
      rw [appendAll, append_closed stored item closed]
      simp

/-! ### Extensions chunk by chunk -/

variable (roomy : Stored Item) (reserved : stored.reserve = .ok roomy)
variable (item : Item) (rest : List Item)

include reserved in
theorem extend_placed (longer : Stored Item)
    (placed : roomy.place ((item :: rest).take (roomy.vector.capacity - roomy.vector.length)) =
      .ok longer) :
    stored.extend (item :: rest) = extendBy rest.length longer
      ((item :: rest).drop (roomy.vector.capacity - roomy.vector.length)) := by
  rw [extend, List.length_cons, extendBy]
  · simp only [reserved, placed]
  · simp

include reserved in
theorem extend_misplaced (cause : Error)
    (refused : roomy.place ((item :: rest).take (roomy.vector.capacity - roomy.vector.length)) =
      .error cause) :
    stored.extend (item :: rest) = ⟨roomy, some cause⟩ := by
  rw [extend, List.length_cons, extendBy]
  · simp only [reserved, refused]
  · simp

theorem extend_closed (items : List Item) (closed : stored.vector.closed = true) :
    stored.extend items = ⟨stored, if items = [] then none else some .closedVector⟩ := by
  cases items with
  | nil => rfl
  | cons item rest =>
      rw [extend, List.length_cons, extendBy]
      · simp only [reserve_closed stored closed]
        simp
      · simp

include valid opened in
/-- An extension that spills is refused with its first chunk. -/
theorem extend_spills (items : List Item) (spills : stored.vector.Spills items.length) :
    stored.extend items = ⟨stored, some .chunkPastBlock⟩ := by
  simp only [Spills] at spills
  have spare : stored.vector.length < stored.vector.capacity := by omega
  cases items with
  | nil =>
      simp only [List.length_nil] at spills
      omega
  | cons item rest =>
      have past : stored.vector.blockRoom <
          ((item :: rest).take (stored.vector.capacity - stored.vector.length)).length := by
        rw [List.length_take]
        omega
      exact extend_misplaced stored stored (reserve_spare stored opened spare) item rest _
        (place_past stored _ valid opened spare past)

include valid opened in
/-- When all blocks are in use, any extension puts the items behind the elements. -/
theorem extendBy_full (chunks : Nat) (items : List Item)
    (full : ¬ stored.vector.length < stored.vector.capacity) (enough : items.length ≤ chunks) :
    (extendBy chunks stored items).failure = none ∧
      Grown stored.vector (extendBy chunks stored items).stored.vector items := by
  obtain ⟨done, ready, extended⟩ :=
    extendBy_spec chunks stored items (extendable_of_full stored valid opened full) enough
  exact ⟨done, ready.valid, ready.opened, extended, fun _ => ready.compact⟩

include valid opened in
/-- So does an extension that does not spill, with its first chunk or with what follows it. -/
theorem extend_open (items : List Item) (fits : ¬ stored.vector.Spills items.length) :
    (stored.extend items).failure = none ∧
      Grown stored.vector (stored.extend items).stored.vector items := by
  by_cases spare : stored.vector.length < stored.vector.capacity
  · cases items with
    | nil => exact ⟨rfl, Grown.refl _ valid opened⟩
    | cons item rest =>
        simp only [Spills] at fits
        let room := stored.vector.capacity - stored.vector.length
        obtain ⟨longer, placed, first, length, capacity⟩ :=
          place_fits stored ((item :: rest).take room) valid opened spare
            (List.length_take_le _ _) (by rw [List.length_take]; omega)
        have next : stored.extend (item :: rest) =
            extendBy rest.length longer ((item :: rest).drop room) :=
          extend_placed stored stored (reserve_spare stored opened spare) item rest longer placed
        rw [next]
        rw [List.length_take] at length
        by_cases all : (item :: rest).length ≤ room
        · rw [List.drop_of_length_le all, extendBy]
          rw [List.take_of_length_le all] at first
          exact ⟨rfl, first⟩
        · -- The first chunk filled the vector, and what follows finds all blocks in use.
          have full : ¬ longer.vector.length < longer.vector.capacity := by omega
          have enough : ((item :: rest).drop room).length ≤ rest.length := by
            rw [List.length_drop, List.length_cons]
            omega
          obtain ⟨done, others⟩ :=
            extendBy_full longer first.valid first.opened rest.length _ full enough
          have whole := first.trans others
          rw [List.take_append_drop] at whole
          exact ⟨done, whole⟩
  · exact extendBy_full stored valid opened items.length items spare (Nat.le_refl _)

end Stored
end ConvexQP
