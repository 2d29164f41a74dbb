import ConvexQP.Proofs.Storage.Chunks
import Mathlib.Order.Bounds.Basic

/-!
The layout of a vector as a function of one number, the largest length that it ever had. The
capacity is the least that the growth rule reaches for this length; clearing and overwriting leave
it alone. Once a vector is segmented, requests only add segments: nothing goes back to the
allocator, and cells behind the elements keep what they hold.
-/
namespace ConvexQP

/-- The capacity of a vector that once held `mark` elements, and never more. -/
structure Capacities.Settles (capacities : Capacities) (mark held : Nat) : Prop where
  small : mark ≤ capacities.initial → held = capacities.initial
  doubled : capacities.initial < mark → mark ≤ capacities.segment →
    IsLeast {size | mark ≤ size ∧ ∃ doublings, size = capacities.initial * Nat.pow 2 doublings} held
  wide : capacities.segment < mark →
    held = capacities.segment * ((mark + capacities.segment - 1) / capacities.segment)

/-- A doubled size that is less than twice another one is no more than the other one. -/
theorem Capacities.doubled_le_of_lt (capacities : Capacities) (first second : Nat)
    (less : capacities.initial * Nat.pow 2 first < 2 * (capacities.initial * Nat.pow 2 second)) :
    capacities.initial * Nat.pow 2 first ≤ capacities.initial * Nat.pow 2 second := by
  have twice : 2 * (capacities.initial * Nat.pow 2 second) =
      capacities.initial * Nat.pow 2 (second + 1) := by
    rw [Nat.pow_eq, Nat.pow_eq, Nat.pow_succ]
    ac_rfl
  rw [twice] at less
  have fewer := (Nat.pow_lt_pow_iff_right (by decide)).mp (Nat.lt_of_mul_lt_mul_left less)
  exact Nat.mul_le_mul_left _ (Nat.pow_le_pow_right (by decide) (Nat.le_of_lt_succ fewer))

namespace SegmentedVector
variable {Item : Type}

/-- An open vector that never held more than `mark` elements, and no block too many for them. -/
structure Marked (mark : Nat) (vector : SegmentedVector Item) : Prop where
  valid : WellFormed vector
  opened : vector.closed = false
  length_le : vector.length ≤ mark
  mark_le : mark ≤ vector.capacity
  single : vector.segmented = false →
    vector.capacity = vector.capacities.initial ∨ vector.capacity < 2 * mark
  wide : vector.segmented = true →
    vector.capacities.segment < mark ∧ vector.capacity < mark + vector.capacities.segment

section Marks
variable (mark : Nat) (vector : SegmentedVector Item) (marked : Marked mark vector)

include marked in
/-- Other elements and another length, within the room there is. -/
theorem Marked.refilled (after : SegmentedVector Item) (raised : Nat) (higher : mark ≤ raised)
    (valid : WellFormed after) (sizes : after.shape = vector.shape)
    (layout : after.segmented = vector.segmented) (opened : after.closed = vector.closed)
    (capacities : after.capacities = vector.capacities) (length_le : after.length ≤ raised)
    (room : raised ≤ vector.capacity) : Marked raised after := by
  have capacity := capacity_of_shape vector after sizes layout capacities
  refine ⟨valid, opened.trans marked.opened, length_le, by omega, ?_, ?_⟩
  · intro contiguous
    rw [capacity, capacities]
    have bound := marked.single (layout.symm.trans contiguous)
    omega
  · intro segmented
    rw [capacity, capacities]
    have bounds := marked.wide (layout.symm.trans segmented)
    omega

include marked in
/-- A full vector that gets a further segment, or a block of twice the size. -/
theorem Marked.grown (full : vector.capacity ≤ vector.length) :
    (vector.capacity % vector.capacities.segment = 0 → Marked (mark + 1) vector.withSegment) ∧
      (vector.capacity % vector.capacities.segment ≠ 0 → Marked (mark + 1) vector.doubled) := by
  have low := marked.length_le
  have high := marked.mark_le
  have ready : Extendable vector :=
    ⟨marked.valid, fun _ => Nat.le_trans full (Nat.le_add_right _ _), marked.opened⟩
  have positive := vector.capacities.segment_pos
  constructor
  · intro even
    have capacity := capacity_withSegment vector ready full even
    have grown := withSegment_extendable vector ready full even
    have sameCapacities : vector.withSegment.capacities = vector.capacities := rfl
    have sameLength : vector.withSegment.length = vector.length := rfl
    have nonempty : 0 < vector.capacity := by
      cases layout : vector.segmented with
      | true =>
          have bounds := marked.wide layout
          omega
      | false =>
          have bounds := marked.single layout
          have initial := vector.capacities.initial_pos
          omega
    have whole := Nat.le_of_dvd nonempty (Nat.dvd_of_mod_eq_zero even)
    refine ⟨grown.valid, grown.opened, by omega, by omega, ?_, ?_⟩
    · intro contiguous
      exact absurd contiguous (by simp [withSegment])
    · intro _
      rw [sameCapacities]
      omega
  · intro uneven
    have capacity := capacity_doubled vector ready uneven
    have grown := (doubled_spec vector ready uneven).1
    have sameLength : vector.doubled.length = vector.length := rfl
    have nonempty : vector.capacity ≠ 0 := by
      intro none
      rw [none, Nat.zero_mod] at uneven
      exact uneven rfl
    refine ⟨grown.valid, grown.opened, by omega, by omega, ?_, ?_⟩
    · intro _
      right
      omega
    · intro segmented
      rw [capacity_eq_sum vector marked.valid, marked.valid.full segmented,
        List.sum_replicate_nat] at uneven
      simp at uneven

include marked in
theorem Marked.layout_iff :
    vector.segmented = true ↔ vector.capacities.segment < mark := by
  constructor
  · intro segmented
    exact (marked.wide segmented).1
  · intro above
    cases layout : vector.segmented with
    | true => rfl
    | false =>
        obtain ⟨doublings, only, below⟩ := marked.valid.single layout marked.opened
        have high := marked.mark_le
        rw [capacity_eq_sum vector marked.valid, only, List.sum_singleton] at high
        omega

include marked in
/-- Small steps add up: the capacity is the one that the mark calls for. -/
theorem Marked.settles : vector.capacities.Settles mark vector.capacity := by
  have high := marked.mark_le
  cases layout : vector.segmented with
  | true =>
      obtain ⟨above, close⟩ := marked.wide layout
      have total : vector.capacity = vector.blocks.size * vector.capacities.segment := by
        rw [capacity_eq_sum vector marked.valid, marked.valid.full layout, List.sum_replicate_nat]
      have below := vector.capacities.initial_lt
      refine ⟨fun small => by omega, fun _ small => by omega, fun _ => ?_⟩
      have count : (mark + vector.capacities.segment - 1) / vector.capacities.segment =
          vector.blocks.size := by
        apply Nat.div_eq_of_lt_le
        · omega
        · rw [Nat.succ_mul]
          omega
      rw [count, total, Nat.mul_comm]
  | false =>
      obtain ⟨doublings, only, below⟩ := marked.valid.single layout marked.opened
      have held : vector.capacity = vector.capacities.initial * Nat.pow 2 doublings := by
        rw [capacity_eq_sum vector marked.valid, only, List.sum_singleton]
      have tight := marked.single layout
      refine ⟨fun small => ?_, fun large _ => ⟨⟨high, doublings, held⟩, ?_⟩, fun above => by omega⟩
      · rcases tight with same | less
        · exact same
        · have one : vector.capacities.initial * Nat.pow 2 0 = vector.capacities.initial :=
            Nat.mul_one _
          have bound := vector.capacities.doubled_le_of_lt doublings 0 (by omega)
          have under : vector.capacities.initial ≤
              vector.capacities.initial * Nat.pow 2 doublings :=
            Nat.le_mul_of_pos_right _ (Nat.pow_pos (by decide))
          omega
      · rintro size ⟨enough, other, rfl⟩
        rw [held]
        exact vector.capacities.doubled_le_of_lt doublings other (by omega)

include marked in
theorem Marked.even (segmented : vector.segmented = true) :
    vector.capacity % vector.capacities.segment = 0 := by
  rw [capacity_eq_sum vector marked.valid, marked.valid.full segmented, List.sum_replicate_nat,
    Nat.mul_mod_left]

end Marks

/-- Some elements were replaced; the cells behind the elements were not touched. -/
structure Retouched (before after : SegmentedVector Item) : Prop extends
    Rewritten before after where
  beyond : ∀ position, before.length ≤ position → after.cells[position]? = before.cells[position]?

theorem write_retouched (vector : SegmentedVector Item) (place : Nat) (item : Item)
    (valid : WellFormed vector) (inside : place < vector.length) :
    Retouched vector (vector.write place item) := by
  refine ⟨write_rewritten vector place item valid, fun position behind => ?_⟩
  rw [cells_write vector place item valid, List.getElem?_set_ne (by omega)]

theorem overwriteLeading_retouched (vector after : SegmentedVector Item) (items : List Item)
    (valid : WellFormed vector) (answered : vector.overwriteLeading items = .ok after) :
    Retouched vector after := by
  unfold overwriteLeading at answered
  split at answered
  · cases answered
  · rename_i fits
    obtain rfl := Except.ok.inj answered
    have bound := valid.length_le
    rw [← length_cells] at bound
    refine ⟨overwritten_rewritten vector items valid, fun position behind => ?_⟩
    rw [cells_overwritten vector items (by omega), List.getElem?_append_right (by omega),
      List.getElem?_drop]
    congr 1
    omega

end SegmentedVector

namespace Stored
open SegmentedVector
variable {Item : Type}

/-- A segmented vector with further segments: the allocator handed out these and got nothing back,
and cells that hold no element before or after are as they were. -/
structure Widened (before after : Stored Item) (added : Nat) : Prop where
  layout : after.vector.segmented = true
  capacities : after.vector.capacities = before.vector.capacities
  itemBytes : after.vector.itemBytes = before.vector.itemBytes
  shape : after.vector.shape =
    before.vector.shape ++ List.replicate added before.vector.capacities.segment
  allocated : after.allocator = (fun allocator : Allocator => allocator.allocate
    (bytes before.vector before.vector.capacities.segment))^[added] before.allocator
  cells : ∀ position < before.vector.cells.length, before.vector.length ≤ position →
    after.vector.length ≤ position → after.vector.cells[position]? = before.vector.cells[position]?

theorem Widened.retouched (before : Stored Item) (after : SegmentedVector Item)
    (layout : before.vector.segmented = true) (retouched : Retouched before.vector after) :
    Widened before ⟨before.allocator, after⟩ 0 := by
  obtain ⟨blocks, frame⟩ := retouched.frame
  refine ⟨?_, ?_, ?_, ?_, rfl, fun position _ behind _ => retouched.beyond position behind⟩
  · simpa [frame] using layout
  · rw [frame]
  · rw [frame]
  · simpa using retouched.shape

theorem Widened.trans (first second third : Stored Item) (few more : Nat)
    (earlier : Widened first second few) (later : Widened second third more)
    (rising : second.vector.length ≤ third.vector.length) :
    Widened first third (few + more) := by
  refine ⟨later.layout, later.capacities.trans earlier.capacities,
    later.itemBytes.trans earlier.itemBytes, ?_, ?_, ?_⟩
  · rw [later.shape, earlier.shape, earlier.capacities, List.append_assoc,
      List.replicate_append_replicate]
  · rw [Nat.add_comm, Function.iterate_add_apply, ← earlier.allocated, later.allocated,
      earlier.capacities, bytes, bytes, earlier.itemBytes]
  · intro position inside behind past
    have within : position < second.vector.cells.length := by
      rw [length_cells, earlier.shape, List.sum_append, ← length_cells]
      omega
    rw [later.cells position within (by omega) past,
      earlier.cells position inside behind (by omega)]

theorem new_marked (allocator : Allocator) (capacities : Capacities) (blank : Item)
    (itemBytes : Nat) : Marked 0 (new allocator capacities blank itemBytes).vector := by
  have ready := new_extendable allocator capacities blank itemBytes
  refine ⟨ready.valid, ready.opened, Nat.le_refl _, Nat.zero_le _, fun _ => ?_, ?_⟩
  · left
    simp [new, capacity]
  · intro segmented
    cases segmented

section Growing
variable (mark : Nat) (stored : Stored Item) (marked : Marked mark stored.vector)

include marked in
theorem reserve_marked : ∃ roomy, stored.reserve = .ok roomy ∧
    Marked (max mark (stored.vector.length + 1)) roomy.vector ∧
    roomy.vector.capacities = stored.vector.capacities ∧
    roomy.vector.length = stored.vector.length ∧
    roomy.vector.length < roomy.vector.capacity ∧
    (stored.vector.segmented = true → ∃ added, Widened stored roomy added) := by
  obtain ⟨roomy, reserved, _, spare⟩ := reserve_open stored marked.valid marked.opened
  have low := marked.length_le
  have high := marked.mark_le
  rcases reserve_cases stored roomy reserved with
    ⟨room, rfl⟩ | ⟨full, even, rfl⟩ | ⟨full, uneven, rfl⟩
  · have raised := marked.refilled mark _ _ (max mark (roomy.vector.length + 1))
      (Nat.le_max_left _ _) marked.valid rfl rfl rfl rfl (by omega) (by omega)
    refine ⟨roomy, reserved, raised, rfl, rfl, spare, fun layout => ⟨0, ?_⟩⟩
    exact Widened.retouched roomy _ layout ⟨Rewritten.refl _ marked.valid, fun _ _ => rfl⟩
  · have raised := (marked.grown mark _ full).1 even
    have same : max mark (stored.vector.length + 1) = mark + 1 := by omega
    refine ⟨_, reserved, by rw [same]; exact raised, rfl, rfl, spare, fun _ => ⟨1, ?_⟩⟩
    refine ⟨rfl, rfl, rfl, by simp [shape, withSegment], rfl, fun position inside _ _ => ?_⟩
    rw [cells_withSegment, List.getElem?_append_left inside]
  · have raised := (marked.grown mark _ full).2 uneven
    have same : max mark (stored.vector.length + 1) = mark + 1 := by omega
    refine ⟨_, reserved, by rw [same]; exact raised, rfl, rfl, spare, fun layout => ?_⟩
    exact absurd (marked.even mark _ layout) uneven

include marked in
theorem append_marked (item : Item) : ∃ longer, stored.append item = .ok longer ∧
    Marked (max mark longer.vector.length) longer.vector ∧
    longer.vector.capacities = stored.vector.capacities ∧
    longer.vector.length = stored.vector.length + 1 ∧
    (stored.vector.segmented = true → ∃ added, Widened stored longer added) := by
  obtain ⟨roomy, reserved, raised, make, length, spare, widened⟩ :=
    reserve_marked mark stored marked
  have written := write_rewritten roomy.vector roomy.vector.length item raised.valid
  have longerLength : (roomy.placed [item]).vector.length = stored.vector.length + 1 := by
    rw [← length]
    rfl
  have room := raised.mark_le
  have longer := raised.refilled _ _ (roomy.placed [item]).vector
    (max mark (stored.vector.length + 1)) (Nat.le_refl _)
    ⟨written.valid.full, written.valid.single, written.valid.emptied, ?_⟩ written.shape rfl rfl rfl
    (by omega) room
  · refine ⟨roomy.placed [item], ?_, by rw [longerLength]; exact longer, make, longerLength, ?_⟩
    · rw [append, reserved]
      rfl
    · intro layout
      obtain ⟨added, wider⟩ := widened layout
      refine ⟨added, wider.layout, wider.capacities, wider.itemBytes,
        written.shape.trans wider.shape, wider.allocated, fun position inside behind past => ?_⟩
      have elsewhere : roomy.vector.length ≠ position := by omega
      rw [← wider.cells position inside behind (by omega)]
      change (roomy.vector.write roomy.vector.length item).cells[position]? = _
      rw [cells_write _ _ item raised.valid, List.getElem?_set_ne elsewhere]
  · change roomy.vector.length + 1 ≤ (roomy.vector.write roomy.vector.length item).shape.sum
    rw [written.shape, ← capacity_eq_sum _ raised.valid]
    exact spare

include marked in
theorem appendAll_marked (items : List Item) :
    Marked (max mark (stored.appendAll items).stored.vector.length)
        (stored.appendAll items).stored.vector ∧
      (stored.appendAll items).stored.vector.capacities = stored.vector.capacities ∧
      stored.vector.length ≤ (stored.appendAll items).stored.vector.length ∧
      (stored.vector.segmented = true →
        ∃ added, Widened stored (stored.appendAll items).stored added) := by
  induction items generalizing mark stored with
  | nil =>
      have low := marked.length_le
      refine ⟨?_, rfl, Nat.le_refl _, fun layout => ⟨0, ?_⟩⟩
      · rw [appendAll, Nat.max_eq_left low]
        exact marked
      · exact Widened.retouched stored _ layout ⟨Rewritten.refl _ marked.valid, fun _ _ => rfl⟩
  | cons item rest ih =>
      obtain ⟨longer, appended, raised, make, length, widened⟩ :=
        append_marked mark stored marked item
      obtain ⟨last, same, rising, others⟩ := ih (max mark longer.vector.length) longer raised
      have next : stored.appendAll (item :: rest) = longer.appendAll rest := by
        rw [appendAll, appended]
      rw [next]
      refine ⟨?_, same.trans make, by omega, fun layout => ?_⟩
      · rw [Nat.max_assoc, Nat.max_eq_right rising] at last
        exact last
      · obtain ⟨few, wider⟩ := widened layout
        obtain ⟨more, widest⟩ := others wider.layout
        exact ⟨few + more, Widened.trans stored longer _ few more wider widest rising⟩

end Growing
end Stored

/-! ### Requests -/

namespace TypedStored
open SegmentedVector

/-- What is asked of a vector between its construction and its end. -/
inductive Edit where
  | append (value : Datum)
  | extend (source : Source)
  | set (index value : Datum)
  | addTo (index addend : Datum)
  | overwriteLeading (source : Source)
  | clear

def Edit.serve (typed : TypedStored) : Edit → Outcome Unit
  | append value => typed.append value
  | extend source => typed.extend source
  | set index value => typed.set index value
  | addTo index addend => typed.addTo index addend
  | overwriteLeading source => typed.overwriteLeading source
  | clear =>
    (.ok (), { typed with stored := { typed.stored with vector := typed.stored.vector.clear } })

/-- A vector that came about by edits that were all served, with the largest length it ever had.
In between, other vectors may have used its allocator. -/
inductive Lived (capacities : Capacities) : Nat → TypedStored → Prop where
  | new (allocator : Allocator) (type : ElementType) :
      Lived capacities 0 (new allocator capacities type)
  | edited (mark : Nat) (before after : TypedStored) (edit : Edit)
      (lived : Lived capacities mark before) (served : edit.serve before = (.ok (), after)) :
      Lived capacities (max mark after.stored.vector.length) after
  | shared (mark : Nat) (typed : TypedStored) (allocator : Allocator)
      (lived : Lived capacities mark typed) :
      Lived capacities mark { typed with stored := { typed.stored with allocator } }

theorem replaced_retouched (vector after : SegmentedVector Element) (index : Datum)
    (fit : Nat → Except Error Element) (valid : WellFormed vector)
    (updated : replaced vector index fit = .ok after) : Retouched vector after := by
  obtain ⟨number, _, found⟩ := bind_ok updated
  obtain ⟨place, located, fitted⟩ := bind_ok found
  obtain ⟨element, _, written⟩ := bind_ok fitted
  rw [← Except.ok.inj written]
  exact write_retouched _ place element valid (position_inside number _ place located)

theorem overwrite_retouched (vector after : SegmentedVector Element) (type : ElementType)
    (source : Source) (valid : WellFormed vector)
    (updated : (do vector.overwriteLeading (← source.toOverwrite type)) = Except.ok after) :
    Retouched vector after := by
  obtain ⟨elements, _, overwritten⟩ := bind_ok updated
  exact overwriteLeading_retouched vector after elements valid overwritten

section Edits
variable (typed after : TypedStored)

/-- A change is refused and leaves the vector, or it is made. -/
theorem change_cases
    (update : SegmentedVector Element → Except Error (SegmentedVector Element)) :
    (∃ cause, typed.change update = (.error cause, typed)) ∨
      ∃ vector, update typed.stored.vector = .ok vector ∧
        typed.change update = (.ok (), ⟨typed.type, typed.stored.allocator, vector⟩) := by
  cases updated : update typed.stored.vector with
  | error cause => exact .inl ⟨cause, by rw [change, updated]⟩
  | ok vector => exact .inr ⟨vector, rfl, by rw [change, updated]⟩

theorem change_served
    (update : SegmentedVector Element → Except Error (SegmentedVector Element))
    (retouched : ∀ vector, update typed.stored.vector = .ok vector →
      Retouched typed.stored.vector vector)
    (served : typed.change update = (.ok (), after)) :
    ∃ vector, after = ⟨typed.type, typed.stored.allocator, vector⟩ ∧
      Retouched typed.stored.vector vector := by
  rcases typed.change_cases update with ⟨cause, refused⟩ | ⟨vector, updated, changed⟩
  · rw [refused] at served
    cases served
  · rw [changed] at served
    cases served
    exact ⟨vector, rfl, retouched vector updated⟩

variable (valid : WellFormed typed.stored.vector)

include valid in
/-- An edit that is served appends elements, replaces some, or forgets all. -/
theorem Edit.serve_cases (opened : typed.stored.vector.closed = false) (edit : Edit)
    (served : edit.serve typed = (.ok (), after)) :
    (∃ elements, after = ⟨typed.type, (typed.stored.appendAll elements).stored⟩) ∨
      (∃ vector, after = ⟨typed.type, typed.stored.allocator, vector⟩ ∧
        Retouched typed.stored.vector vector) ∨
      after = ⟨typed.type, typed.stored.allocator, typed.stored.vector.clear⟩ := by
  cases edit with
  | append value =>
      left
      cases fitted : Element.ofDatum typed.type value with
      | error cause =>
          obtain ⟨roomy, reserved, _⟩ := Stored.reserve_open typed.stored valid opened
          simp [serve, TypedStored.append, reserved, fitted] at served
      | ok element =>
          obtain ⟨longer, appended, answered, _⟩ :=
            append_fitted typed value element valid opened fitted
          refine ⟨[element], ?_⟩
          simp only [serve, answered, Prod.mk.injEq, true_and] at served
          simp only [← served, Stored.appendAll, appended]
  | extend source =>
      left
      simp only [serve, TypedStored.extend] at served
      cases offered : source.toAppend typed.type with
      | error cause => simp [offered] at served
      | ok elements =>
          simp only [offered, ofProgress] at served
          cases failure : (typed.stored.extend elements).failure with
          | some cause => simp [failure] at served
          | none =>
              simp only [failure, Prod.mk.injEq, true_and] at served
              rw [Stored.extend_eq_appendAll typed.stored elements valid failure] at served
              exact ⟨elements, served.symm⟩
  | set index value =>
      exact .inr (.inl (change_served typed after
        (fun vector => replaced vector index fun _ => Element.ofDatum typed.type value)
        (fun vector => replaced_retouched _ vector index _ valid) served))
  | addTo index addend =>
      exact .inr (.inl (change_served typed after
        (fun vector => replaced vector index fun place =>
          (vector.read place).plus typed.type addend)
        (fun vector => replaced_retouched _ vector index _ valid) served))
  | overwriteLeading source =>
      exact .inr (.inl (change_served typed after
        (fun vector => do vector.overwriteLeading (← source.toOverwrite typed.type))
        (fun vector => overwrite_retouched _ vector typed.type source valid) served))
  | clear =>
      simp only [serve, Prod.mk.injEq, true_and] at served
      exact .inr (.inr served.symm)

variable (mark : Nat) (marked : Marked mark typed.stored.vector) (edit : Edit)
variable (served : edit.serve typed = (.ok (), after))

include marked served in
theorem Edit.serve_marked :
    Marked (max mark after.stored.vector.length) after.stored.vector ∧
      after.stored.vector.capacities = typed.stored.vector.capacities ∧
      (typed.stored.vector.segmented = true →
        ∃ added, Stored.Widened typed.stored after.stored added) := by
  have low := marked.length_le
  rcases Edit.serve_cases typed after marked.valid marked.opened edit served with
    ⟨elements, rfl⟩ | ⟨vector, rfl, retouched⟩ | rfl
  · obtain ⟨raised, make, _, widened⟩ := Stored.appendAll_marked mark typed.stored marked elements
    exact ⟨raised, make, widened⟩
  · obtain ⟨blocks, frame⟩ := retouched.frame
    have length := retouched.length
    refine ⟨?_, by rw [frame], fun layout =>
      ⟨0, Stored.Widened.retouched typed.stored vector layout retouched⟩⟩
    simp only [length, Nat.max_eq_left low]
    exact marked.refilled mark _ vector mark (Nat.le_refl _) retouched.valid retouched.shape
      (by rw [frame]) retouched.closed (by rw [frame]) (by omega) marked.mark_le
  · have forgotten := clear_wellFormed _ marked.valid
    refine ⟨?_, rfl, fun layout => ⟨0, layout, rfl, rfl, ?_, rfl, fun _ _ _ _ => rfl⟩⟩
    · have none : (typed.stored.vector.clear).length = 0 := rfl
      simp only [none, Nat.max_eq_left (Nat.zero_le mark)]
      exact marked.refilled mark _ _ mark (Nat.le_refl _) forgotten rfl rfl rfl rfl
        (Nat.zero_le _) marked.mark_le
    · simp [shape, SegmentedVector.clear]

end Edits

theorem Lived.marked (capacities : Capacities) (mark : Nat) (typed : TypedStored)
    (lived : Lived capacities mark typed) :
    Marked mark typed.stored.vector ∧ typed.stored.vector.capacities = capacities := by
  induction lived with
  | new allocator type =>
      exact ⟨Stored.new_marked allocator capacities (Element.blank type) type.itemBytes, rfl⟩
  | edited mark before after edit _ served ih =>
      obtain ⟨raised, make, _⟩ := Edit.serve_marked before after mark ih.1 edit served
      exact ⟨raised, make.trans ih.2⟩
  | shared mark typed allocator _ ih => exact ih

/-- The layout depends on the largest length alone, and on no way in which it was reached. -/
theorem layout_of_highWater (capacities : Capacities) (mark : Nat) (typed : TypedStored)
    (lived : Lived capacities mark typed) :
    capacities.Settles mark typed.stored.vector.capacity ∧
      (typed.stored.vector.segmented = true ↔ capacities.segment < mark) ∧
      (typed.stored.vector.segmented = true →
        (∀ block ∈ typed.stored.vector.blocks, block.size = capacities.segment) ∧
        ∀ edit after, Edit.serve typed edit = (.ok (), after) →
          ∃ added, Stored.Widened typed.stored after.stored added) ∧
      ∀ sources chunks values after,
        sources.mapM (Source.toAppend typed.type) = .ok chunks →
        values.mapM (Element.ofDatum typed.type) = .ok chunks.flatten →
        typed.extendEach sources = (.ok (), after) → typed.appendEach values = (.ok (), after) := by
  obtain ⟨marked, rfl⟩ := lived.marked
  refine ⟨marked.settles, marked.layout_iff, ?_, ?_⟩
  · intro segmented
    constructor
    · intro block member
      have listed := mem_sizes _ block (Array.mem_toList_iff.mpr member)
      rw [marked.valid.full segmented] at listed
      exact (List.mem_replicate.mp listed).2
    · intro edit after served
      exact (Edit.serve_marked typed after mark marked edit served).2.2 segmented
  · intro sources chunks values after offered fitted extended
    have whole := extendEach_eq sources typed chunks marked.valid marked.opened offered
      (by rw [extended])
    rw [appendEach_eq values typed chunks.flatten marked.valid marked.opened fitted, ← whole,
      extended]

/-- Segments of four cells, of which the first is doubled twice. -/
def shortCapacities : Capacities := ⟨1, 4, Nat.one_pos, by decide, 2, rfl⟩

def fiveNumbers : TypedStored :=
  ((new (Allocator.new .heap) shortCapacities .int64).extend
    (.listed [.integer 1, .integer 2, .integer 3, .integer 4, .integer 5])).2

/-- Five numbers came and were forgotten. -/
def fiveForgotten : TypedStored := (Edit.clear.serve fiveNumbers).2

theorem layout_of_highWater_fiveForgotten :
    Lived shortCapacities 5 fiveForgotten ∧
      fiveForgotten.stored.vector.capacity = 8 ∧
      fiveForgotten.stored.vector.segmented = true ∧
      (∃ added, Stored.Widened fiveForgotten.stored
        (fiveForgotten.append (.integer 6)).2.stored added) ∧
      fiveForgotten.appendEach [.integer 6, .integer 7, .integer 8] =
        (.ok (), (fiveForgotten.extendEach
          [.listed [.integer 6, .integer 7], .listed [.integer 8]]).2) := by
  have born : Lived shortCapacities 0 (new (Allocator.new .heap) shortCapacities .int64) :=
    .new _ _
  have five : fiveNumbers.stored.vector.length = 5 := by with_unfolding_all rfl
  have grown : Lived shortCapacities 5 fiveNumbers := by
    have extended := Lived.edited 0 _ fiveNumbers
      (.extend (.listed [.integer 1, .integer 2, .integer 3, .integer 4, .integer 5])) born
      (by with_unfolding_all rfl)
    rwa [five] at extended
  have lived : Lived shortCapacities 5 fiveForgotten :=
    .edited 5 _ fiveForgotten .clear grown rfl
  obtain ⟨settles, layout, widened, chunks⟩ :=
    layout_of_highWater shortCapacities 5 fiveForgotten lived
  have segmented := layout.mpr (by decide)
  refine ⟨lived, settles.wide (by decide), segmented, ?_, ?_⟩
  · exact (widened segmented).2 (.append (.integer 6)) _ (by with_unfolding_all rfl)
  · exact chunks [.listed [.integer 6, .integer 7], .listed [.integer 8]]
      [[.whole 6, .whole 7], [.whole 8]] _ _ (by with_unfolding_all rfl)
      (by with_unfolding_all rfl) (by with_unfolding_all rfl)

end TypedStored
end ConvexQP
