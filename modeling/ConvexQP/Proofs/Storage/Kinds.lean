import ConvexQP.Proofs.Storage.Refinement
import ConvexQP.Proofs.Storage.Slices

/-!
Kinds of stored elements. Whatever is made of a pool, a vector holds numbers of the kind its type
says: reals, whole numbers or complex ones. Each way into a vector leads through a conversion to its
type or through a cast, and slices take elements from a vector of the same type.
-/
namespace ConvexQP
open SegmentedVector

/-! ### Elements -/

namespace Element

/-- A number of the kind that vectors of the type store. -/
def OfType : ElementType → Element → Prop
  | .float64, .real _ | .float32, .real _ | .int64, .whole _ | .complex128, .complex .. => True
  | _, _ => False

theorem cast_ofType (type : ElementType) (element : Element) : (cast type element).OfType type := by
  cases type <;> cases element <;> trivial

theorem blank_ofType (type : ElementType) : (blank type).OfType type := cast_ofType type _

theorem ofDatum_ofType (type : ElementType) (datum : Datum) (element : Element)
    (made : ofDatum type datum = .ok element) : element.OfType type := by
  unfold ofDatum at made
  split at made
  · cases made
  · obtain ⟨number, _, inRange⟩ := bind_ok made
    split at inRange
    · rw [← Except.ok.inj inRange]
      trivial
    · cases inRange
  · rw [← Except.ok.inj made]
    trivial
  · rw [← Except.ok.inj made]
    trivial
  · rw [← Except.ok.inj made]
    exact cast_ofType _ _
  · obtain ⟨value, _, cast⟩ := bind_ok made
    rw [← Except.ok.inj cast]
    exact cast_ofType _ _

theorem plus_ofType (type : ElementType) (element : Element) (own : element.OfType type)
    (addend : Datum) (sum : Element) (added : plus type element addend = .ok sum) :
    sum.OfType type := by
  -- The sum is cast to the type, or it is of the kind of the element itself.
  have kept (other : Element) (kind : other.OfType type ↔ element.OfType type)
      (same : other = sum) : sum.OfType type := same ▸ kind.mpr own
  have fitted (other : Element) (same : cast type other = sum) : sum.OfType type :=
    same ▸ cast_ofType type other
  cases addend with
  | absent | text | list => cases added
  | complex re im =>
      simp only [plus] at added
      split at added
      · exact kept _ (by cases type <;> exact Iff.rfl) (Except.ok.inj added)
      · exact fitted _ (Except.ok.inj added)
  | flag | integer | real =>
      simp only [plus] at added
      split at added
      · split at added
        · exact kept _ (by cases type <;> exact Iff.rfl) (Except.ok.inj added)
        · cases added
      · obtain ⟨number, _, made⟩ := bind_ok added
        exact fitted _ (Except.ok.inj made)
      · obtain ⟨number, _, made⟩ := bind_ok added
        exact fitted _ (Except.ok.inj made)
      · obtain ⟨number, _, made⟩ := bind_ok added
        exact kept _ (by cases type <;> exact Iff.rfl) (Except.ok.inj made)

end Element

/-! ### Sources -/

namespace Source
variable (type : ElementType)

theorem casts_ofType (elements : List Element) :
    ∀ element ∈ elements.map (Element.cast type), element.OfType type := by
  intro element member
  obtain ⟨source, _, rfl⟩ := List.mem_map.mp member
  exact source.cast_ofType type

theorem fit_ofType (items : List Datum) (elements : List Element)
    (made : fit type items = .ok elements) : ∀ element ∈ elements, element.OfType type := by
  intro element member
  obtain ⟨leaves, _, converted⟩ := bind_ok made
  obtain ⟨leaf, _, same⟩ := mem_of_mapM_ok _ leaves elements converted element member
  exact Element.ofDatum_ofType type leaf element same

theorem toAppend_ofType (source : Source) (elements : List Element)
    (made : source.toAppend type = .ok elements) : ∀ element ∈ elements, element.OfType type := by
  unfold toAppend at made
  split at made
  · exact fit_ofType type _ elements made
  · exact fit_ofType type _ elements made
  · exact fit_ofType type _ elements made
  · cases made
  · rw [← Except.ok.inj made, ← Function.comp_def, ← List.map_map]
    exact casts_ofType type _
  · rw [← Except.ok.inj made]
    exact casts_ofType type _

theorem toOverwrite_ofType (source : Source) (elements : List Element)
    (made : source.toOverwrite type = .ok elements) :
    ∀ element ∈ elements, element.OfType type := by
  cases source with
  | listed items => exact fit_ofType type items elements made
  | drawn items => cases made
  | single value =>
      cases converted : Element.ofDatum type value with
      | error cause => simp [toOverwrite, converted, Except.map] at made
      | ok element =>
          simp only [toOverwrite, converted, Except.map, Except.ok.injEq] at made
          rw [← made]
          exact List.forall_mem_singleton.mpr (Element.ofDatum_ofType type value element converted)
  | array values =>
      rw [← Except.ok.inj made, ← Function.comp_def, ← List.map_map]
      exact casts_ofType type _
  | elements items =>
      rw [← Except.ok.inj made]
      exact casts_ofType type items

end Source

/-! ### Lists -/

namespace Listing

/-- All items are of the type of the list. -/
def Typed (listing : Listing) : Prop := ∀ element ∈ listing.items, element.OfType listing.type

variable {listing : Listing} (typed : listing.Typed)

include typed in
theorem Typed.grow (elements : List Element)
    (own : ∀ element ∈ elements, element.OfType listing.type) :
    (listing.grow elements).2.Typed := by
  unfold Listing.grow
  split
  · exact typed
  · exact fun element member => (List.mem_append.mp member).elim (typed element) (own element)

include typed in
theorem Typed.append (value : Datum) : (listing.append value).2.Typed := by
  unfold Listing.append
  split
  · exact typed
  · cases made : Element.ofDatum listing.type value with
    | error cause => exact typed
    | ok element =>
        exact typed.grow [element]
          (List.forall_mem_singleton.mpr (Element.ofDatum_ofType _ value element made))

include typed in
theorem Typed.extend (source : Source) : (listing.extend source).2.Typed := by
  unfold Listing.extend
  cases made : source.toAppend listing.type with
  | error cause => exact typed
  | ok elements => exact typed.grow elements (Source.toAppend_ofType _ source elements made)

include typed in
theorem Typed.change (update : List Element → Except Error (List Element))
    (own : ∀ items, update listing.items = .ok items →
      ∀ element ∈ items, element.OfType listing.type) : (listing.change update).2.Typed := by
  unfold Listing.change
  cases updated : update listing.items with
  | error cause => exact typed
  | ok items => exact own items updated

include typed in
theorem Typed.overwriteLeading (source : Source) : (listing.overwriteLeading source).2.Typed := by
  apply typed.change
  intro items updated
  obtain ⟨elements, made, written⟩ := bind_ok updated
  split at written
  · cases written
  · rw [← Except.ok.inj written]
    intro element member
    rcases List.mem_append.mp member with fresh | old
    · exact Source.toOverwrite_ofType _ source elements made element fresh
    · exact typed element (List.mem_of_mem_drop old)

include typed in
/-- One item is replaced by one of the same type. -/
theorem Typed.replace (index : Datum) (fit : Nat → Except Error Element)
    (own : ∀ place element, fit place = .ok element → element.OfType listing.type) :
    (listing.change fun items => do
      let place ← position items (← index.toIndex)
      return items.set place (← fit place)).2.Typed := by
  apply typed.change
  intro items updated
  obtain ⟨number, _, found⟩ := bind_ok updated
  obtain ⟨place, _, fitted⟩ := bind_ok found
  obtain ⟨element, made, written⟩ := bind_ok fitted
  rw [← Except.ok.inj written]
  intro other member
  rcases List.mem_or_eq_of_mem_set member with old | rfl
  · exact typed other old
  · exact own place other made

include typed in
theorem Typed.element (place : Nat) : (listing.element place).OfType listing.type := by
  unfold Listing.element
  rw [List.getD_eq_getElem?_getD]
  cases read : listing.items[place]? with
  | none => exact Element.blank_ofType listing.type
  | some element => exact typed element (List.mem_of_getElem? read)

include typed in
theorem Typed.withSource (resolve : NamedSource → Except Error Source) (reply : PoolReply)
    (source : NamedSource) (use : Source → Outcome) (own : ∀ values, (use values).2.Typed) :
    (listing.withSource resolve reply source use).2.Typed := by
  unfold Listing.withSource
  cases resolve source with
  | error cause => exact typed
  | ok values => exact own values

include typed in
theorem Typed.perform (resolve : NamedSource → Except Error Source) (action : VectorAction)
    (served : Except Error PoolReply × Listing)
    (performed : listing.perform resolve action = some served) : served.2.Typed := by
  cases action with
  | append value =>
      obtain rfl := Option.some.inj performed
      exact typed.append value
  | appendRange start stop =>
      obtain rfl := Option.some.inj performed
      refine typed.grow _ fun element member => ?_
      obtain ⟨offset, _, rfl⟩ := List.mem_map.mp member
      exact Element.cast_ofType _ _
  | extend source | extendInPlace source =>
      obtain rfl := Option.some.inj performed
      exact typed.withSource resolve _ source _ typed.extend
  | overwriteLeading source =>
      obtain rfl := Option.some.inj performed
      exact typed.withSource resolve _ source _ typed.overwriteLeading
  | set index value =>
      obtain rfl := Option.some.inj performed
      exact typed.replace index _ fun _ => Element.ofDatum_ofType listing.type value
  | addTo index addend =>
      obtain rfl := Option.some.inj performed
      exact typed.replace index _ fun place =>
        Element.plus_ofType listing.type _ (typed.element place) addend
  | reverse =>
      obtain rfl := Option.some.inj performed
      exact fun element member => typed element (List.mem_reverse.mp member)
  | clear | close | useAndClose =>
      obtain rfl := Option.some.inj performed
      exact fun element member => nomatch member
  | get | refuse | contains | count | reversed | elements | elementsAs =>
      obtain rfl := Option.some.inj performed
      exact typed
  | slice | copyRange | indexOf | norm | describe => cases performed

end Listing

/-! ### Slices -/

namespace Slice
variable {Item : Type}

theorem everyNth_sublist (stride skipped : Nat) (items : List Item) :
    (everyNth stride skipped items).Sublist items := by
  induction items generalizing skipped with
  | nil => exact .slnil
  | cons item rest ih =>
      cases skipped with
      | zero => exact (ih (stride - 1)).cons_cons item
      | succ skipped => exact (ih skipped).cons item

/-- A slice selects items of the list. -/
theorem mem_of_mem_ofList (slice : Slice) (items : List Item) (item : Item)
    (member : item ∈ slice.ofList items) : item ∈ items := by
  unfold ofList at member
  extract_lets step length at member
  split at member
  · exact List.mem_of_mem_take (List.mem_of_mem_drop ((everyNth_sublist _ _ _).mem member))
  · exact List.mem_of_mem_take (List.mem_of_mem_drop
      (List.mem_reverse.mp ((everyNth_sublist _ _ _).mem member)))

end Slice

/-! ### Pools -/

/-- A fresh vector is typed, without elements and with blank ones. -/
theorem TypedStored.new_typed (allocator : Allocator) (capacities : Capacities)
    (type : ElementType) : (TypedStored.new allocator capacities type).listing.Typed ∧
      ∀ count, ((TypedStored.new allocator capacities type).extendBlank count).2.listing.Typed := by
  have empty : (TypedStored.new allocator capacities type).stored.vector.toList = [] :=
    Stored.toList_new _ _ _ _
  refine ⟨fun element member => ?_, fun count element member => ?_⟩
  · rw [listing, empty] at member
    cases member
  · have filled := (Stored.extend_spec _ (List.replicate count (Element.blank type))
      (Stored.new_extendable allocator capacities (Element.blank type) type.itemBytes)).2.2
    rw [Stored.toList_new, List.nil_append] at filled
    have listed : element ∈ List.replicate count (Element.blank type) := filled ▸ member
    rw [List.eq_of_mem_replicate listed]
    exact Element.blank_ofType type

namespace Pool
variable (pool : Pool)

def Typed : Prop := ∀ holding ∈ pool.holdings, holding.listing.Typed

theorem typed_iff_shelf : pool.Typed ↔ ∀ listing ∈ pool.shelf.listings, listing.Typed := by
  simp [Typed, shelf]

variable {pool} (sound : pool.Sound) (typed : pool.Typed)

include typed in
theorem Typed.same (next : Pool) (same : next.holdings = pool.holdings) : next.Typed :=
  fun holding member => typed holding (same ▸ member)

include typed in
theorem Typed.addHolding (stocked : Pool) (same : stocked.holdings = pool.holdings) (number : Nat)
    (fresh : TypedStored) (own : fresh.listing.Typed) (name : Option String) :
    (stocked.addHolding number fresh name).Typed := by
  intro holding member
  have listed : holding ∈ pool.holdings.push ⟨fresh.type, fresh.stored.vector, number⟩ := by
    rw [← same]
    exact member
  rcases Array.mem_push.mp listed with earlier | rfl
  · exact typed holding earlier
  · exact own

include typed in
theorem Typed.keepSlice (parent : Holding) (into : Option String)
    (made : Except Error (Stored.Progress Element))
    (own : ∀ progress, made = .ok progress → ∀ element ∈ progress.stored.vector.toList,
      element.OfType parent.type) : (pool.keepSlice parent into made).2.Typed := by
  cases made with
  | error cause => exact typed
  | ok progress =>
      rw [keepSlice_made]
      exact typed.addHolding pool rfl _ ⟨parent.type, progress.stored⟩ (own progress rfl) into

include typed in
/-- The list of a vector is replaced by one of the same type. -/
theorem Typed.put (next : Pool) (number : Nat) (listing : Listing) (own : listing.Typed)
    (served : next.shelf = pool.shelf.put number listing) : next.Typed := by
  rw [typed_iff_shelf, served]
  intro other member
  rcases Array.mem_or_eq_of_mem_setIfInBounds member with earlier | rfl
  · exact (typed_iff_shelf pool).mp typed other earlier
  · exact own

include sound typed in
theorem Typed.perform (number : Nat) (holding : Holding)
    (found : pool.holdings[number]? = some holding) (action : VectorAction) :
    (pool.perform number holding action).2.Typed := by
  have member := Array.mem_of_getElem? found
  have own : holding.listing.Typed := typed holding member
  have valid : WellFormed (pool.typedOf holding).stored.vector := sound holding member
  have listed (served : Except Error PoolReply × Listing)
      (performed : holding.listing.perform pool.shelf.resolve action = some served) :
      (pool.perform number holding action).2.Typed := by
    by_cases spills : pool.Overruns holding action
    · obtain ⟨_, same, _⟩ := perform_spilled pool sound number holding found action spills served
        performed
      rw [typed_iff_shelf, same]
      exact (typed_iff_shelf pool).mp typed
    · exact typed.put _ number served.2 (own.perform _ action served performed)
        (perform_serves pool sound number holding found action spills served performed).shelf
  have copied (slice : Slice) : ∀ element ∈ ((pool.typedOf holding).stored.like.extend
      (slice.ofList holding.listing.items)).stored.vector.toList,
      element.OfType holding.type := by
    rw [(Stored.like_extend _ _).2.2.1]
    exact fun element member => own element (slice.mem_of_mem_ofList _ element member)
  cases action with
  | slice start stop step into =>
      apply typed.keepSlice
      intro progress made
      obtain ⟨first, _, bounded⟩ := bind_ok made
      obtain ⟨last, _, spaced⟩ := bind_ok bounded
      obtain ⟨stride, _, selected⟩ := bind_ok spaced
      by_cases zero : stride = some 0
      · rw [Stored.slice_zero _ ⟨first, last, stride⟩ zero] at selected
        cases selected
      · rw [Stored.slice_items _ valid ⟨first, last, stride⟩ zero] at selected
        rw [← Except.ok.inj selected]
        exact copied ⟨first, last, stride⟩
  | copyRange start stop into =>
      apply typed.keepSlice
      intro progress made
      obtain ⟨first, _, bounded⟩ := bind_ok made
      obtain ⟨last, _, selected⟩ := bind_ok bounded
      by_cases inside : 0 ≤ first ∧ first ≤ last ∧
          last ≤ (pool.typedOf holding).stored.vector.length
      · rw [Stored.copyRange_items _ valid first last inside] at selected
        rw [← Except.ok.inj selected]
        exact copied ⟨some first, some last, none⟩
      · rw [Stored.copyRange_outside _ first last inside] at selected
        cases selected
  | indexOf | norm | describe => exact typed
  | append | appendRange | extend | extendInPlace | overwriteLeading | get | set | addTo | refuse
  | contains | count | reversed | elements | reverse | elementsAs | clear | close | useAndClose =>
      exact listed _ rfl

include typed in
theorem Typed.newVector (name : String) (request : VectorRequest) :
    (pool.newVector name request).2.Typed := by
  rcases newVector_cases pool name request with
    refused | ⟨stocked, number, capacities, chosen, added⟩
  · rw [refused]
    exact typed
  · have same := chooseAllocator_holdings pool request stocked number chosen
    have fresh := TypedStored.new_typed
      (stocked.allocators.getD number (Allocator.new .heap)) capacities request.type
    rcases added with empty | ⟨count, filled⟩
    · rw [empty]
      exact typed.addHolding stocked same number _ fresh.1 none
    · rw [filled]
      exact typed.addHolding stocked same number _ (fresh.2 count) (some name)

include sound typed in
theorem Typed.run (request : PoolRequest) : (pool.run request).2.Typed := by
  cases request with
  | newAllocator name kind =>
      simp only [Pool.run, newAllocator]
      cases Allocator.ofName kind with
      | error cause => exact typed
      | ok allocator => exact typed.same _ rfl
  | newVector name request => exact typed.newVector name request
  | act name action =>
      simp only [Pool.run]
      split
      · rename_i number holding named held
        have found : pool.holdings[number]? = some holding := by
          simpa [holding?, named] using held
        exact Typed.perform sound typed number holding found action
      · exact typed

/-- Whatever was made of a pool, its vectors hold elements of their types. -/
theorem after_typed (history : List PoolRequest) : (after history).Typed := by
  induction history using List.reverseRecOn with
  | nil => exact fun holding member => absurd member (Array.not_mem_empty holding)
  | append_singleton earlier request ih =>
      rw [after_concat]
      exact ih.run (after_sound earlier) request

end Pool
end ConvexQP
