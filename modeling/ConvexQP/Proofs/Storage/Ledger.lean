import ConvexQP.Proofs.Storage.HighWater
import Mathlib.Algebra.BigOperators.Ring.List
import Mathlib.Algebra.Ring.Nat

/-!
What an allocator has on its books. Each request on a vector books what it does: the allocator is
charged for all cells of the vector, before and after, beside whatever else it is charged for, and
maps that were retired on the way are unmapped by the end.
-/
namespace ConvexQP

namespace Allocator

/-- The bytes that are handed out, and the blocks they are in; only maps are counted as blocks. -/
structure Charged (allocator : Allocator) (bytes blocks : Nat) : Prop where
  liveBytes : allocator.liveBytes = bytes
  liveMaps : allocator.liveMaps = if allocator.kind = .mapped then blocks else 0

/-- Nothing is waiting to be unmapped. -/
structure Settled (allocator : Allocator) (bytes blocks : Nat) : Prop extends
    Charged allocator bytes blocks where
  collected : allocator.retiredMaps = 0

variable (allocator : Allocator) (bytes blocks size : Nat)

theorem new_settled (kind : AllocatorKind) : (new kind).Settled 0 0 :=
  ⟨⟨rfl, by cases kind <;> rfl⟩, rfl⟩

theorem Settled.allocate (settled : allocator.Settled bytes blocks) :
    (allocator.allocate size).Settled (size + bytes) (1 + blocks) := by
  obtain ⟨⟨liveBytes, liveMaps⟩, collected⟩ := settled
  unfold Allocator.allocate
  cases kind : allocator.kind with
  | heap =>
      simp only [kind] at liveMaps
      exact ⟨⟨by simp only [liveBytes]; omega, by simp [liveMaps]⟩, collected⟩
  | mapped =>
      simp only [kind] at liveMaps
      exact ⟨⟨by simp only [liveBytes]; omega, by simp [liveMaps]; omega⟩, collected⟩

theorem Charged.release (charged : allocator.Charged (size + bytes) (1 + blocks)) :
    (allocator.release size).Charged bytes blocks := by
  obtain ⟨liveBytes, liveMaps⟩ := charged
  unfold Allocator.release
  cases kind : allocator.kind with
  | heap =>
      simp only [kind] at liveMaps
      exact ⟨by simp only [liveBytes]; omega, by simp [liveMaps]⟩
  | mapped =>
      simp only [kind] at liveMaps
      exact ⟨by simp only [liveBytes]; omega, by simp [liveMaps]⟩

theorem Charged.collect (charged : allocator.Charged bytes blocks) :
    allocator.collect.Settled bytes blocks :=
  ⟨⟨charged.liveBytes, charged.liveMaps⟩, rfl⟩

/-- Blocks of any sizes go back one after the other. -/
theorem Charged.releaseAll (sizes : List Nat) (returned : Nat → Nat)
    (charged : allocator.Charged ((sizes.map returned).sum + bytes) (sizes.length + blocks)) :
    (sizes.foldr (fun cells left => left.release (returned cells)) allocator).Charged
      bytes blocks := by
  induction sizes generalizing bytes blocks with
  | nil => simpa using charged
  | cons first rest ih =>
      simp only [List.map_cons, List.sum_cons, List.length_cons, List.foldr_cons] at charged ⊢
      apply Charged.release
      apply ih
      rw [← Nat.add_assoc, ← Nat.add_assoc, Nat.add_comm _ (returned first)]
      exact charged

end Allocator

namespace SegmentedVector
variable {Item : Type}

/-- What the cells of a vector are charged. -/
def charge (vector : SegmentedVector Item) : Nat := vector.capacity * vector.itemBytes

theorem charge_of_shape (before after : SegmentedVector Item) (sizes : after.shape = before.shape)
    (layout : after.segmented = before.segmented)
    (capacities : after.capacities = before.capacities)
    (itemBytes : after.itemBytes = before.itemBytes) :
    after.charge = before.charge ∧ after.blocks.size = before.blocks.size := by
  have count := congrArg List.length sizes
  simp only [shape, List.length_map, Array.length_toList] at count
  rw [charge, charge, capacity_of_shape before after sizes layout capacities, itemBytes]
  exact ⟨rfl, count⟩

theorem charge_of_closed (vector : SegmentedVector Item) (valid : WellFormed vector)
    (closed : vector.closed = true) : vector.charge = 0 ∧ vector.blocks.size = 0 := by
  have none := (valid.emptied closed).2
  have count := congrArg List.length none
  simp only [shape, List.length_map, Array.length_toList, List.length_nil] at count
  rw [charge, capacity_eq_sum vector valid, none]
  exact ⟨Nat.zero_mul _, count⟩

end SegmentedVector

namespace Stored
open SegmentedVector
variable {Item : Type}

/-- The allocator of the one vector is charged for it and for other things; that of the other, for
what the vector has become and the same other things. -/
structure Balances (before after : Stored Item) : Prop where
  itemBytes : after.vector.itemBytes = before.vector.itemBytes
  ledger : ∀ bytes blocks,
    before.allocator.Settled (before.vector.charge + bytes) (before.vector.blocks.size + blocks) →
    after.allocator.Settled (after.vector.charge + bytes) (after.vector.blocks.size + blocks)

/-- A fresh vector is charged on top of what the allocator was charged before. -/
def Draws (allocator : Allocator) (fresh : Stored Item) : Prop :=
  ∀ bytes blocks, allocator.Settled bytes blocks →
    fresh.allocator.Settled (fresh.vector.charge + bytes) (fresh.vector.blocks.size + blocks)

theorem Balances.refl (stored : Stored Item) : Balances stored stored :=
  ⟨rfl, fun _ _ settled => settled⟩

theorem Balances.trans {first second third : Stored Item} (earlier : Balances first second)
    (later : Balances second third) : Balances first third :=
  ⟨later.itemBytes.trans earlier.itemBytes,
    fun bytes blocks settled => later.ledger bytes blocks (earlier.ledger bytes blocks settled)⟩

theorem Draws.balances {allocator : Allocator} {fresh later : Stored Item}
    (draws : Draws allocator fresh) (balances : Balances fresh later) : Draws allocator later :=
  fun bytes blocks settled => balances.ledger bytes blocks (draws bytes blocks settled)

theorem new_draws (allocator : Allocator) (capacities : Capacities) (blank : Item)
    (itemBytes : Nat) : Draws allocator (new allocator capacities blank itemBytes) := by
  intro bytes blocks settled
  have charge : (new allocator capacities blank itemBytes).vector.charge =
      capacities.initial * itemBytes := by
    simp [new, charge, capacity]
  rw [charge]
  exact settled.allocate _ _ _ _

/-- New elements in the same blocks. -/
theorem Balances.rewritten (stored : Stored Item) (vector : SegmentedVector Item)
    (sizes : vector.shape = stored.vector.shape)
    (frame : ∃ blocks length, vector = { stored.vector with blocks, length }) :
    Balances stored ⟨stored.allocator, vector⟩ := by
  obtain ⟨blocks, length, frame⟩ := frame
  obtain ⟨charge, count⟩ := charge_of_shape stored.vector vector sizes (by rw [frame])
    (by rw [frame]) (by rw [frame])
  refine ⟨by rw [frame], fun bytes blocks settled => ?_⟩
  simpa only [charge, count] using settled

theorem reserve_balances (stored roomy : Stored Item) (valid : WellFormed stored.vector)
    (opened : stored.vector.closed = false) (reserved : stored.reserve = .ok roomy) :
    Balances stored roomy := by
  rcases reserve_cases stored roomy reserved with
    ⟨_, rfl⟩ | ⟨full, even, rfl⟩ | ⟨full, uneven, rfl⟩
  · exact Balances.refl _
  · have ready := extendable_of_full stored valid opened (Nat.not_lt.mpr full)
    refine ⟨rfl, fun bytes blocks settled => ?_⟩
    have charge : stored.vector.withSegment.charge =
        Stored.bytes stored.vector stored.vector.capacities.segment + stored.vector.charge := by
      rw [SegmentedVector.charge, capacity_withSegment _ ready full even, Nat.add_comm,
        Nat.add_mul]
      rfl
    have count : stored.vector.withSegment.blocks.size = 1 + stored.vector.blocks.size := by
      rw [Nat.add_comm]
      exact Array.size_push _
    rw [charge, count, Nat.add_assoc, Nat.add_assoc]
    exact settled.allocate _ _ _ _
  · -- The larger block is booked before the smaller one is struck off.
    have ready := extendable_of_full stored valid opened (Nat.not_lt.mpr full)
    refine ⟨rfl, fun bytes blocks settled => ?_⟩
    have charge : stored.vector.doubled.charge =
        Stored.bytes stored.vector (2 * stored.vector.capacity) := by
      rw [SegmentedVector.charge, capacity_doubled _ ready uneven]
      rfl
    have count : stored.vector.doubled.blocks.size = stored.vector.blocks.size :=
      Array.size_map
    obtain ⟨⟨both, maps⟩, _⟩ := settled.allocate _ _ _
      (Stored.bytes stored.vector (2 * stored.vector.capacity))
    rw [charge, count]
    apply Allocator.Charged.collect
    apply Allocator.Charged.release
    rw [Nat.add_left_comm]
    exact ⟨both, maps⟩

theorem append_balances (stored longer : Stored Item) (item : Item)
    (valid : WellFormed stored.vector) (opened : stored.vector.closed = false)
    (appended : stored.append item = .ok longer) : Balances stored longer := by
  obtain ⟨roomy, reserved, _⟩ := reserve_open stored valid opened
  rw [append, reserved] at appended
  obtain rfl := Except.ok.inj appended
  apply (reserve_balances stored roomy valid opened reserved).trans
  exact Balances.rewritten roomy _ (shape_write roomy.vector _ item) ⟨_, _, rfl⟩

theorem appendAll_balances (items : List Item) (stored : Stored Item)
    (valid : WellFormed stored.vector) : Balances stored (stored.appendAll items).stored := by
  cases closed : stored.vector.closed with
  | true =>
      rw [appendAll_closed stored items closed]
      exact Balances.refl stored
  | false =>
      induction items generalizing stored with
      | nil => exact Balances.refl stored
      | cons item rest ih =>
          obtain ⟨longer, appended, grown⟩ := append_open stored valid closed item
          have first := append_balances stored longer item valid closed appended
          rw [appendAll, appended]
          exact first.trans (ih longer grown.valid grown.opened)

/-- Whether it goes through or is refused, for want of an open vector or of room in a block. -/
theorem extend_balances (stored : Stored Item) (items : List Item)
    (valid : WellFormed stored.vector) : Balances stored (stored.extend items).stored := by
  cases closed : stored.vector.closed with
  | true =>
      rw [extend_closed stored items closed]
      exact Balances.refl stored
  | false =>
      by_cases spills : stored.vector.Spills items.length
      · rw [extend_spills stored valid closed items spills]
        exact Balances.refl stored
      · have done := (extend_open stored valid closed items spills).1
        rw [extend_eq_appendAll stored items valid done]
        exact appendAll_balances items stored valid

theorem close_balances (stored : Stored Item) (valid : WellFormed stored.vector) :
    Balances stored stored.close := by
  unfold close
  by_cases closed : stored.vector.closed = true
  · rw [if_pos closed]
    exact Balances.refl stored
  · rw [if_neg closed]
    refine ⟨rfl, fun bytes blocks settled => ?_⟩
    have charged := settled.toCharged
    have total : stored.vector.charge =
        (stored.vector.shape.map (Stored.bytes stored.vector)).sum := by
      have scaled := stored.vector.shape.sum_map_mul_right id stored.vector.itemBytes
      rw [List.map_id] at scaled
      rw [charge, capacity_eq_sum _ valid, ← scaled]
      rfl
    have count : stored.vector.blocks.size = stored.vector.shape.length := by
      simp [shape]
    rw [total, count] at charged
    have returned := charged.releaseAll _ bytes blocks stored.vector.shape
    rw [shape, List.foldr_map, Array.foldr_toList] at returned
    simpa [charge, capacity] using returned.collect

end Stored

/-! ### Typed vectors -/

namespace TypedStored
open SegmentedVector

structure Balances (before after : TypedStored) : Prop where
  type : after.type = before.type
  stored : Stored.Balances before.stored after.stored

variable (typed : TypedStored) (valid : WellFormed typed.stored.vector)

theorem Balances.refl : Balances typed typed := ⟨rfl, Stored.Balances.refl _⟩

theorem Balances.retouched (vector : SegmentedVector Element)
    (retouched : Retouched typed.stored.vector vector) :
    Balances typed ⟨typed.type, typed.stored.allocator, vector⟩ := by
  obtain ⟨blocks, frame⟩ := retouched.frame
  exact ⟨rfl, Stored.Balances.rewritten typed.stored vector retouched.shape
    ⟨blocks, typed.stored.vector.length, frame⟩⟩

include valid in
/-- A value that is refused may leave a larger vector, which is booked. -/
theorem append_balances (value : Datum) : Balances typed (typed.append value).2 := by
  cases closed : typed.stored.vector.closed with
  | true =>
      rw [append, Stored.reserve_closed typed.stored closed]
      exact Balances.refl typed
  | false =>
      obtain ⟨roomy, reserved, room, _⟩ := Stored.reserve_open typed.stored valid closed
      have made := Stored.reserve_balances typed.stored roomy valid closed reserved
      rw [append, reserved]
      cases Element.ofDatum typed.type value with
      | error cause => exact ⟨rfl, made⟩
      | ok element =>
          obtain ⟨longer, appended, _⟩ := Stored.append_open roomy room.valid room.opened element
          simp only [appended]
          exact ⟨rfl, made.trans
            (Stored.append_balances roomy longer element room.valid room.opened appended)⟩

include valid in
theorem extend_balances (source : Source) : Balances typed (typed.extend source).2 := by
  unfold extend
  cases source.toAppend typed.type with
  | error cause => exact Balances.refl typed
  | ok elements => exact ⟨rfl, Stored.extend_balances typed.stored elements valid⟩

theorem change_balances
    (update : SegmentedVector Element → Except Error (SegmentedVector Element))
    (retouched : ∀ vector, update typed.stored.vector = .ok vector →
      Retouched typed.stored.vector vector) : Balances typed (typed.change update).2 := by
  rcases typed.change_cases update with ⟨cause, refused⟩ | ⟨vector, updated, changed⟩
  · rw [refused]
    exact Balances.refl typed
  · rw [changed]
    exact Balances.retouched typed vector (retouched vector updated)

end TypedStored
end ConvexQP
