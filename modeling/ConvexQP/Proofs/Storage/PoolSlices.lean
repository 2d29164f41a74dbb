import ConvexQP.Proofs.Storage.PoolLedger
import ConvexQP.Proofs.Storage.Slices

/-!
Slices in a pool. A copy that is served is one more vector, with the items that the list of its
parent has there, of the make of its parent and charged to the same allocator; nothing else changes.
From then on the two are apart: what is asked of other vectors does not show in either.
-/
namespace ConvexQP
open SegmentedVector

/-- A bound as one asks for it. -/
def Datum.ofBound : Option Int → Datum
  | none => .absent
  | some bound => .integer bound

namespace Pool

theorem boundOf_ofBound (bound : Option Int) : boundOf (.ofBound bound) = .ok bound := by
  cases bound <;> rfl

theorem perform_slice (pool : Pool) (number : Nat) (holding : Holding) (slice : Slice)
    (into : Option String) :
    pool.perform number holding
        (.slice (.ofBound slice.start) (.ofBound slice.stop) (.ofBound slice.step) into) =
      pool.keepSlice holding into ((pool.typedOf holding).stored.slice slice) := by
  simp only [perform, boundOf_ofBound]
  rfl

/-! ### Requests of other vectors -/

/-- Pools that come about by requests none of which is made of the vector with the number. -/
inductive Elsewhere (place : Nat) (pool : Pool) : Pool → Prop where
  | start : Elsewhere place pool pool
  | served (next : Pool) (request : PoolRequest) (elsewhere : Elsewhere place pool next)
      (apart : ∀ name action, request = .act name action →
        next.holdingNumber? name ≠ some place) :
      Elsewhere place pool (next.run request).2
  | acted (next : Pool) (number : Nat) (holding : Holding) (action : VectorAction)
      (elsewhere : Elsewhere place pool next) (found : next.holdings[number]? = some holding)
      (apart : number ≠ place) : Elsewhere place pool (next.perform number holding action).2

/-- The vector with the number is there and as before. -/
def Leaves (place : Nat) (before after : Pool) : Prop :=
  ∀ holding, before.holdings[place]? = some holding → after.holdings[place]? = some holding

section Requests
variable (pool : Pool) (place : Nat)

theorem Leaves.refl : Leaves place pool pool := fun _ found => found

theorem addHolding_leaves (stocked : Pool) (same : stocked.holdings = pool.holdings)
    (number : Nat) (typed : TypedStored) (name : Option String) :
    Leaves place pool (stocked.addHolding number typed name) := by
  intro holding found
  have inside := (Array.getElem?_eq_some_iff.mp found).1
  change (stocked.holdings.push _)[place]? = some holding
  rw [same, Array.getElem?_push, if_neg (Nat.ne_of_lt inside)]
  exact found

theorem keepSlice_leaves (parent : Holding) (into : Option String)
    (made : Except Error (Stored.Progress Element)) :
    Leaves place pool (pool.keepSlice parent into made).2 := by
  cases made with
  | error => exact Leaves.refl pool place
  | ok progress =>
      rw [keepSlice_made]
      exact addHolding_leaves pool place pool rfl _ _ _

variable (number : Nat) (apart : number ≠ place) (holding : Holding)

include apart in
theorem changed_leaves (reply : PoolReply) (outcome : TypedStored.Outcome Unit) :
    Leaves place pool (pool.changed number holding reply outcome).2 := by
  intro other found
  change (pool.holdings.setIfInBounds number _)[place]? = some other
  rw [Array.getElem?_setIfInBounds, if_neg apart]
  exact found

include apart in
theorem withSource_leaves (reply : PoolReply) (source : NamedSource)
    (use : Source → TypedStored.Outcome Unit) :
    Leaves place pool (pool.withSource number holding reply source use).2 := by
  unfold withSource
  split
  · exact Leaves.refl pool place
  · exact changed_leaves pool place number apart holding reply _

include apart in
theorem perform_leaves (action : VectorAction) :
    Leaves place pool (pool.perform number holding action).2 := by
  cases action with
  | append | appendRange | set | addTo | reverse | clear | close | useAndClose =>
      exact changed_leaves pool place number apart holding _ _
  | extend | extendInPlace | overwriteLeading =>
      exact withSource_leaves pool place number apart holding _ _ _
  | slice | copyRange => exact keepSlice_leaves pool place holding _ _
  | get | refuse | indexOf | contains | count | reversed | elements | elementsAs | norm
  | describe => exact Leaves.refl pool place

theorem newVector_leaves (name : String) (request : VectorRequest) :
    Leaves place pool (pool.newVector name request).2 := by
  rcases newVector_cases pool name request with
    refused | ⟨stocked, number, capacities, chosen, added⟩
  · rw [refused]
    exact Leaves.refl pool place
  · have same := chooseAllocator_holdings pool request stocked number chosen
    rcases added with empty | ⟨count, filled⟩
    · rw [empty]
      exact addHolding_leaves pool place stocked same _ _ _
    · rw [filled]
      exact addHolding_leaves pool place stocked same _ _ _

theorem run_leaves (request : PoolRequest)
    (apart : ∀ name action, request = .act name action → pool.holdingNumber? name ≠ some place) :
    Leaves place pool (pool.run request).2 := by
  cases request with
  | newAllocator name kind =>
      simp only [run, newAllocator]
      cases Allocator.ofName kind with
      | error => exact Leaves.refl pool place
      | ok allocator => exact Leaves.refl pool place
  | newVector name request => exact newVector_leaves pool place name request
  | act name action =>
      simp only [run]
      split
      · rename_i number holding numbered found
        have other : number ≠ place := by
          rintro rfl
          exact apart name action rfl numbered
        exact perform_leaves pool place number other holding action
      · exact Leaves.refl pool place

end Requests

theorem Elsewhere.leaves {pool later : Pool} {place : Nat} (elsewhere : Elsewhere place pool later) :
    Leaves place pool later := by
  induction elsewhere with
  | start => exact Leaves.refl pool place
  | served next request _ apart ih =>
      exact fun holding found => run_leaves next place request apart holding (ih holding found)
  | acted next number other action _ _ apart ih =>
      exact fun holding found =>
        perform_leaves next place number apart other action holding (ih holding found)

/-! ### Copies -/

/-- A copy of items was served: the pool has a fresh vector with them, of the make of its parent and
on its allocator, whose books went up by what the vector takes. Neither shows what is asked of other
vectors later. -/
structure Copied (pool : Pool) (number : Nat) (parent : Holding) (items : List Element)
    (outcome : Except Error PoolReply × Pool) (fresh : Holding) : Prop where
  reply : outcome.1 = .ok (.slice ⟨items.map Element.toDatum, fresh.vector.capacity,
    fresh.vector.segmented, true⟩)
  holdings : outcome.2.holdings = pool.holdings.push fresh
  opened : fresh.vector.closed = false
  elements : fresh.vector.toList = items
  type : fresh.type = parent.type
  capacities : fresh.vector.capacities = parent.vector.capacities
  allocator : fresh.allocator = parent.allocator
  settles : parent.vector.capacities.Settles items.length fresh.vector.capacity
  books : ∀ (place : Nat) (allocator : Allocator), pool.allocators[place]? = some allocator →
    ∃ after, outcome.2.allocators[place]? = some after ∧ after.liveBytes = allocator.liveBytes +
      if place = parent.allocator then ((fresh.vector.capacity * fresh.type.itemBytes : Nat) : Int)
      else 0
  parent_stays : ∀ later, Elsewhere number outcome.2 later → later.holdings[number]? = some parent
  fresh_stays : ∀ later, Elsewhere pool.holdings.size outcome.2 later →
    later.holdings[pool.holdings.size]? = some fresh

/-- One vector more is one charge more, on the books of its allocator. -/
theorem Balanced.books_push {pool kept : Pool} (balanced : pool.Balanced)
    (keptBalanced : kept.Balanced) (fresh : Holding)
    (pushed : kept.holdings = pool.holdings.push fresh)
    (size : kept.allocators.size = pool.allocators.size) (place : Nat) (allocator : Allocator)
    (listed : pool.allocators[place]? = some allocator) :
    ∃ after, kept.allocators[place]? = some after ∧ after.liveBytes = allocator.liveBytes +
      if place = fresh.allocator then (fresh.vector.charge : Int) else 0 := by
  have inside := (Array.getElem?_eq_some_iff.mp listed).1
  have after : kept.allocators[place]? = some _ := Array.getElem?_eq_getElem (by omega)
  refine ⟨_, after, ?_⟩
  rw [(balanced.ledger place allocator listed).liveBytes,
    (keptBalanced.ledger place _ after).liveBytes, sumOn_push pool place _ fresh kept pushed]
  by_cases same : place = fresh.allocator
  · rw [if_pos same.symm, if_pos same]
    omega
  · rw [if_neg (Ne.symm same), if_neg same]
    omega

section Copies
variable (pool : Pool) (balanced : pool.Balanced) (number : Nat) (parent : Holding)
variable (found : pool.holdings[number]? = some parent)

include balanced found in
theorem keepSlice_copied (items : List Element) (into : Option String) : ∃ fresh,
    pool.Copied number parent items (pool.keepSlice parent into
      (.ok ((pool.typedOf parent).stored.like.extend items))) fresh := by
  have member := Array.mem_of_getElem? found
  let made := (pool.typedOf parent).stored.like.extend items
  obtain ⟨done, ready, elements, capacities, settles⟩ :=
    Stored.like_extend (pool.typedOf parent).stored items
  obtain ⟨_, itemBytes⟩ := like_draws pool balanced parent member items
  let kept := pool.addHolding parent.allocator ⟨parent.type, made.stored⟩ into
  let fresh : Holding := ⟨parent.type, made.stored.vector, parent.allocator⟩
  have served : pool.keepSlice parent into (.ok made) = (.ok (.slice ⟨items.map Element.toDatum,
      fresh.vector.capacity, fresh.vector.segmented, true⟩), kept) := by
    simp only [keepSlice, made, done, TypedStored.toList, elements]
    rfl
  have keptBalanced := keepSlice_balanced pool balanced parent member into (.ok made)
    fun progress same => ⟨items, (Except.ok.inj same).symm⟩
  rw [served] at keptBalanced
  have pushed : kept.holdings = pool.holdings.push fresh := rfl
  have charge : fresh.vector.charge = fresh.vector.capacity * fresh.type.itemBytes :=
    congrArg (fresh.vector.capacity * ·) itemBytes
  have books := balanced.books_push keptBalanced fresh pushed Array.size_setIfInBounds
  rw [charge] at books
  refine ⟨fresh, ?_⟩
  change pool.Copied number parent items (pool.keepSlice parent into (.ok made)) fresh
  rw [served]
  refine ⟨rfl, pushed, ready.opened, elements, rfl, capacities, rfl, settles, books, ?_, ?_⟩
  · intro later elsewhere
    exact elsewhere.leaves parent
      (addHolding_leaves pool number pool rfl _ _ into parent found)
  · intro later elsewhere
    apply elsewhere.leaves fresh
    rw [pushed]
    exact Array.getElem?_push_size

end Copies

/-- A slice of a vector is the slice of its list, in a vector of its own; a step of zero and bounds
that leave the vector are refused, and change nothing. -/
theorem slices_are_copies (pool : Pool) (reached : pool.Reached) (number : Nat) (parent : Holding)
    (found : pool.holdings[number]? = some parent) (into : Option String) :
    (∀ start stop step : Option Int, step ≠ some 0 → ∃ fresh,
      pool.Copied number parent (Slice.ofList ⟨start, stop, step⟩ parent.vector.toList)
        (pool.perform number parent
          (.slice (.ofBound start) (.ofBound stop) (.ofBound step) into)) fresh) ∧
    (∀ start stop : Int, 0 ≤ start ∧ start ≤ stop ∧ stop ≤ parent.vector.length → ∃ fresh,
      pool.Copied number parent (Slice.ofList ⟨some start, some stop, none⟩ parent.vector.toList)
        (pool.perform number parent (.copyRange (.integer start) (.integer stop) into)) fresh) ∧
    (∀ start stop : Option Int, pool.perform number parent
      (.slice (.ofBound start) (.ofBound stop) (.integer 0) into) = (.error .zeroStep, pool)) ∧
    (∀ start stop : Int, ¬(0 ≤ start ∧ start ≤ stop ∧ stop ≤ parent.vector.length) →
      pool.perform number parent (.copyRange (.integer start) (.integer stop) into) =
        (.error (.outOfBounds (if (parent.vector.length : Int) < stop then stop else start)
          parent.vector.length), pool)) := by
  have balanced := reached.balanced
  have valid : WellFormed (pool.typedOf parent).stored.vector :=
    balanced.sound parent (Array.mem_of_getElem? found)
  have copied := keepSlice_copied pool balanced number parent found
  refine ⟨?_, ?_, ?_, ?_⟩
  · intro start stop step nonzero
    have made := Stored.slice_items (pool.typedOf parent).stored valid ⟨start, stop, step⟩ nonzero
    rw [perform_slice pool number parent ⟨start, stop, step⟩ into, made]
    exact copied _ into
  · intro start stop inside
    have made := Stored.copyRange_items (pool.typedOf parent).stored valid start stop inside
    change ∃ fresh, pool.Copied number parent _
      (pool.keepSlice parent into ((pool.typedOf parent).stored.copyRange start stop)) fresh
    rw [made]
    exact copied _ into
  · intro start stop
    have refused := Stored.slice_zero (pool.typedOf parent).stored ⟨start, stop, some 0⟩ rfl
    refine (perform_slice pool number parent ⟨start, stop, some 0⟩ into).trans ?_
    rw [refused]
    rfl
  · intro start stop outside
    have refused := Stored.copyRange_outside (pool.typedOf parent).stored start stop outside
    change pool.keepSlice parent into ((pool.typedOf parent).stored.copyRange start stop) = _
    rw [refused]
    rfl

/-- One vector, which has grown to two segments. -/
def threeStored : List PoolRequest :=
  [.newVector "a" ⟨.integer 2, .integer 1, .int64, none, .plain⟩,
    .act "a" (.extend (.values (.listed [.integer 1, .integer 2, .integer 3])))]

theorem slices_are_copies_threeStored :
    ∃ parent, (after threeStored).holdings[0]? = some parent ∧
      parent.vector.toList = [.whole 1, .whole 2, .whole 3] ∧
      (∃ fresh, (after threeStored).Copied 0 parent [.whole 3, .whole 1]
        ((after threeStored).perform 0 parent (.slice .absent .absent (.integer (-2)) none))
          fresh) ∧
      (∃ fresh, (after threeStored).Copied 0 parent [.whole 2, .whole 3]
        ((after threeStored).perform 0 parent (.copyRange (.integer 1) (.integer 3) none))
          fresh) ∧
      (after threeStored).perform 0 parent (.slice .absent .absent (.integer 0) none) =
        (.error .zeroStep, after threeStored) ∧
      (after threeStored).perform 0 parent (.copyRange (.integer 1) (.integer 9) none) =
        (.error (.outOfBounds 9 3), after threeStored) := by
  obtain ⟨parent, found⟩ : ∃ parent, (after threeStored).holdings[0]? = some parent :=
    ⟨_, by with_unfolding_all rfl⟩
  have elements : (after threeStored).holdings[0]?.map (·.vector.toList) =
      some [.whole 1, .whole 2, .whole 3] := by with_unfolding_all rfl
  have length : (after threeStored).holdings[0]?.map (·.vector.length) = some 3 := by
    with_unfolding_all rfl
  rw [found, Option.map_some, Option.some.injEq] at elements length
  obtain ⟨sliced, copied, zero, refused⟩ :=
    slices_are_copies (after threeStored) (after_reached threeStored) 0 parent found none
  have backwards := sliced none none (some (-2)) (by decide)
  have range := copied 1 3 (by omega)
  have outside := refused 1 9 (by omega)
  rw [elements] at backwards range
  rw [length] at outside
  exact ⟨parent, found, elements, backwards, range, zero none none, outside⟩

end Pool
end ConvexQP
