import ConvexQP.Proofs.Storage.Listing

/-!
How an extension is cut makes no difference. While there is room, appending one element after the
other writes the cells that placing the chunk writes; and room is made at the same lengths. An
extension that goes through therefore leaves the vector and the allocator that appending its
elements one by one leaves.
-/
namespace ConvexQP

namespace SegmentedVector
variable {Item : Type}

/-- The capacity is read off the sizes of the blocks. -/
theorem capacity_of_shape (before after : SegmentedVector Item)
    (sizes : after.shape = before.shape) (layout : after.segmented = before.segmented)
    (capacities : after.capacities = before.capacities) : after.capacity = before.capacity := by
  have count := congrArg List.length sizes
  have leading := congrArg (·[0]?) sizes
  simp only [shape, List.length_map, Array.length_toList] at count
  simp only [shape, List.getElem?_map, Array.getElem?_toList] at leading
  simp only [capacity, layout, capacities, count]
  cases later : after.blocks[0]? <;> cases earlier : before.blocks[0]? <;> simp_all

theorem capacity_write (vector : SegmentedVector Item) (position : Nat) (item : Item) :
    (vector.write position item).capacity = vector.capacity :=
  capacity_of_shape vector _ (shape_write vector position item) rfl rfl

/-- Where an element is written does not depend on how many there are. -/
theorem writeAll_withLength (items : List Item) (vector : SegmentedVector Item)
    (position length : Nat) : { vector with length }.writeAll position items =
      { vector.writeAll position items with length } := by
  induction items generalizing vector position with
  | nil => rfl
  | cons item rest ih => exact ih (vector.write position item) (position + 1)

end SegmentedVector

namespace Stored
open SegmentedVector
variable {Item : Type}

/-- The chunk behind the elements. -/
def placed (stored : Stored Item) (chunk : List Item) : Stored Item :=
  ⟨stored.allocator, { stored.vector.writeAll stored.vector.length chunk with
    length := stored.vector.length + chunk.length }⟩

theorem place_placed (stored longer : Stored Item) (chunk : List Item)
    (answered : stored.place chunk = .ok longer) : longer = stored.placed chunk := by
  unfold place at answered
  extract_lets vector spot size at answered
  split at answered
  · cases answered
  · exact (Except.ok.inj answered).symm

theorem append_spare (stored : Stored Item) (item : Item) (opened : stored.vector.closed = false)
    (spare : stored.vector.length < stored.vector.capacity) :
    stored.append item = .ok (stored.placed [item]) := by
  rw [append, reserve_spare stored opened spare]
  rfl

theorem placed_cons (stored : Stored Item) (item : Item) (rest : List Item) :
    (stored.placed [item]).placed rest = stored.placed (item :: rest) := by
  have written := writeAll_withLength rest (stored.vector.write stored.vector.length item)
    (stored.vector.length + 1) (stored.vector.length + 1)
  simp only [placed, writeAll, List.length_cons, List.length_nil, Nat.zero_add, written]
  rw [Nat.add_assoc, Nat.add_comm 1]

/-- With room for all of them, the elements are placed one by one. -/
theorem appendAll_placed (chunk : List Item) (stored : Stored Item)
    (opened : stored.vector.closed = false)
    (room : stored.vector.length + chunk.length ≤ stored.vector.capacity) :
    stored.appendAll chunk = ⟨stored.placed chunk, none⟩ := by
  induction chunk generalizing stored with
  | nil => rfl
  | cons item rest ih =>
      rw [List.length_cons] at room
      have capacity : (stored.placed [item]).vector.capacity = stored.vector.capacity :=
        capacity_write stored.vector stored.vector.length item
      have length : (stored.placed [item]).vector.length = stored.vector.length + 1 := rfl
      have next := ih (stored.placed [item]) opened (by omega)
      rw [appendAll, append_spare stored item opened (by omega)]
      exact next.trans (by rw [placed_cons])

theorem appendAll_of_place (stored longer : Stored Item) (chunk : List Item)
    (valid : WellFormed stored.vector) (opened : stored.vector.closed = false)
    (fits : chunk.length ≤ stored.vector.capacity - stored.vector.length)
    (answered : stored.place chunk = .ok longer) :
    stored.appendAll chunk = ⟨longer, none⟩ := by
  have bound := valid.length_le
  rw [← capacity_eq_sum _ valid] at bound
  rw [appendAll_placed chunk stored opened (by omega), place_placed stored longer chunk answered]

theorem appendAll_append (front back : List Item) (stored : Stored Item)
    (done : (stored.appendAll front).failure = none) :
    stored.appendAll (front ++ back) = (stored.appendAll front).stored.appendAll back := by
  induction front generalizing stored with
  | nil => rfl
  | cons item rest ih =>
      rw [List.cons_append]
      simp only [appendAll] at done ⊢
      cases appended : stored.append item with
      | error cause => simp [appended] at done
      | ok longer =>
          simp only [appended] at done
          exact ih longer done

/-- Room that is made beforehand is not made again. -/
theorem appendAll_reserved (stored roomy : Stored Item) (items : List Item)
    (reserved : stored.reserve = .ok roomy) (again : roomy.reserve = .ok roomy)
    (some : items ≠ []) : stored.appendAll items = roomy.appendAll items := by
  cases items with
  | nil => exact absurd rfl some
  | cons item rest => simp only [appendAll, append, reserved, again, Except.map]

/-! ### Chunk by chunk -/

theorem extendBy_eq_appendAll (chunks : Nat) (stored : Stored Item) (items : List Item)
    (valid : WellFormed stored.vector) (opened : stored.vector.closed = false)
    (enough : items.length ≤ chunks) (done : (extendBy chunks stored items).failure = none) :
    extendBy chunks stored items = stored.appendAll items := by
  induction chunks generalizing stored items with
  | zero =>
      obtain rfl := List.length_eq_zero_iff.mp (Nat.le_zero.mp enough)
      rfl
  | succ chunks ih =>
      cases items with
      | nil => rfl
      | cons item rest =>
          obtain ⟨roomy, reserved, room, spare⟩ := reserve_open stored valid opened
          have again := reserve_spare roomy room.opened spare
          have one := extendBy.eq_3 stored (item :: rest) chunks (List.cons_ne_nil item rest)
          simp only [reserved] at one
          rw [appendAll_reserved stored roomy _ reserved again (List.cons_ne_nil _ _)]
          rw [one] at done ⊢
          let count := roomy.vector.capacity - roomy.vector.length
          cases answered : roomy.place ((item :: rest).take count) with
          | error cause => simp [count, answered] at done
          | ok longer =>
              simp only [count, answered] at done ⊢
              have first := appendAll_of_place roomy longer _ room.valid room.opened
                (List.length_take_le _ _) answered
              have grown := (appendAll_open roomy room.valid room.opened
                ((item :: rest).take count)).2
              rw [first] at grown
              -- What is left is shorter than the chunks that are left, since a chunk is not empty.
              have fewer : ((item :: rest).drop count).length ≤ chunks := by
                rw [List.length_drop]
                omega
              have parted := appendAll_append ((item :: rest).take count)
                ((item :: rest).drop count) roomy (by rw [first])
              rw [List.take_append_drop, first] at parted
              exact (ih longer _ grown.valid grown.opened fewer done).trans parted.symm

/-- An extension that goes through does what appending one by one does. -/
theorem extend_eq_appendAll (stored : Stored Item) (items : List Item)
    (valid : WellFormed stored.vector) (done : (stored.extend items).failure = none) :
    stored.extend items = stored.appendAll items := by
  cases closed : stored.vector.closed with
  | true => rw [extend_closed stored items closed, appendAll_closed stored items closed]
  | false =>
      exact extendBy_eq_appendAll items.length stored items valid closed (Nat.le_refl _) done

end Stored

/-! ### Loose values and sources -/

namespace TypedStored
open SegmentedVector

/-- Appends one value after the other, up to the first that is refused. -/
def appendEach (typed : TypedStored) : List Datum → Outcome Unit
  | [] => (.ok (), typed)
  | value :: rest =>
    match typed.append value with
    | (.ok _, longer) => longer.appendEach rest
    | (.error cause, left) => (.error cause, left)

/-- Extends by one source after the other, up to the first that is refused. -/
def extendEach (typed : TypedStored) : List Source → Outcome Unit
  | [] => (.ok (), typed)
  | source :: rest =>
    match typed.extend source with
    | (.ok _, longer) => longer.extendEach rest
    | (.error cause, left) => (.error cause, left)

theorem append_fitted (typed : TypedStored) (value : Datum) (element : Element)
    (valid : WellFormed typed.stored.vector) (opened : typed.stored.vector.closed = false)
    (fitted : Element.ofDatum typed.type value = .ok element) :
    ∃ longer, typed.stored.append element = .ok longer ∧
      typed.append value = (.ok (), { typed with stored := longer }) ∧
      Grown typed.stored.vector longer.vector [element] := by
  obtain ⟨roomy, reserved, room, spare⟩ := Stored.reserve_open typed.stored valid opened
  obtain ⟨longer, appended, grown⟩ := Stored.append_open typed.stored valid opened element
  have again := Stored.reserve_spare roomy room.opened spare
  have same : roomy.append element = .ok longer := by
    rw [← appended, Stored.append, Stored.append, reserved, again]
  exact ⟨longer, appended, by simp only [append, reserved, fitted, same], grown⟩

theorem appendEach_eq (values : List Datum) (typed : TypedStored) (elements : List Element)
    (valid : WellFormed typed.stored.vector) (opened : typed.stored.vector.closed = false)
    (fitted : values.mapM (Element.ofDatum typed.type) = .ok elements) :
    typed.appendEach values = typed.ofProgress (typed.stored.appendAll elements) := by
  induction values generalizing typed elements with
  | nil =>
      cases fitted
      rfl
  | cons value rest ih =>
      rw [List.mapM_cons] at fitted
      obtain ⟨element, first, others⟩ := bind_ok fitted
      obtain ⟨later, following, listed⟩ := bind_ok others
      obtain rfl := Except.ok.inj listed
      obtain ⟨longer, appended, answered, grown⟩ :=
        append_fitted typed value element valid opened first
      have tail := ih { typed with stored := longer } later grown.valid grown.opened following
      simp only [appendEach, answered, tail, Stored.appendAll, appended, ofProgress]

theorem extendEach_eq (sources : List Source) (typed : TypedStored) (chunks : List (List Element))
    (valid : WellFormed typed.stored.vector) (opened : typed.stored.vector.closed = false)
    (offered : sources.mapM (·.toAppend typed.type) = .ok chunks)
    (done : (typed.extendEach sources).1 = .ok ()) :
    typed.extendEach sources = typed.ofProgress (typed.stored.appendAll chunks.flatten) := by
  induction sources generalizing typed chunks with
  | nil =>
      cases offered
      rfl
  | cons source rest ih =>
      rw [List.mapM_cons] at offered
      obtain ⟨chunk, first, others⟩ := bind_ok offered
      obtain ⟨later, following, listed⟩ := bind_ok others
      obtain rfl := Except.ok.inj listed
      simp only [extendEach, extend, first, ofProgress] at done ⊢
      cases failure : (typed.stored.extend chunk).failure with
      | some cause => simp [failure] at done
      | none =>
          have same := Stored.extend_eq_appendAll typed.stored chunk valid failure
          obtain ⟨complete, grown⟩ := Stored.appendAll_open typed.stored valid opened chunk
          simp only [same, complete] at done ⊢
          have tail := ih ⟨typed.type, (typed.stored.appendAll chunk).stored⟩ later grown.valid
            grown.opened following done
          rw [tail, List.flatten_cons, Stored.appendAll_append chunk _ typed.stored complete]
          rfl

end TypedStored
end ConvexQP
