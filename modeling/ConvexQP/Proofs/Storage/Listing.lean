import ConvexQP.Proofs.Attempts
import ConvexQP.Proofs.Storage.Access
import ConvexQP.Proofs.Storage.Extension
import ConvexQP.Storage.Pool

/-!
A vector as a plain list. A `Listing` is what requests can tell of the content of a vector: its
elements in order, and whether it was closed. The requests on it are those of a list that only
grows at its end. A well formed vector answers each request as its listing does, and is left with
the listing that the list is left with; the one exception is an extension that spills.
-/
namespace ConvexQP

structure Listing where
  type : ElementType
  items : List Element
  closed : Bool

namespace Listing

abbrev Outcome := Except Error Unit × Listing

def shown (listing : Listing) : List Datum := listing.items.map Element.toDatum

/-- A position counted from the end when negative. -/
def position (items : List Element) (index : Int) : Except Error Nat :=
  let shifted := if index < 0 then index + items.length else index
  if shifted < 0 ∨ (items.length : Int) ≤ shifted then .error (.outOfBounds index items.length)
  else .ok shifted.toNat

def grow (listing : Listing) (elements : List Element) : Outcome :=
  if listing.closed && !elements.isEmpty then (.error .closedVector, listing)
  else (.ok (), { listing with items := listing.items ++ elements })

def append (listing : Listing) (value : Datum) : Outcome :=
  if listing.closed then (.error .closedVector, listing)
  else match Element.ofDatum listing.type value with
    | .error cause => (.error cause, listing)
    | .ok element => listing.grow [element]

def appendRange (listing : Listing) (start stop : Int) : Outcome :=
  listing.grow ((List.range (stop - start).toNat).map fun (offset : Nat) =>
    Element.cast listing.type (.real (Element.realOfWhole (Int64.ofInt (start + offset)))))

def extend (listing : Listing) (source : Source) : Outcome :=
  match source.toAppend listing.type with
  | .error cause => (.error cause, listing)
  | .ok elements => listing.grow elements

def change (listing : Listing) (update : List Element → Except Error (List Element)) : Outcome :=
  match update listing.items with
  | .error cause => (.error cause, listing)
  | .ok items => (.ok (), { listing with items })

/-- Exactly a prefix is overwritten. -/
def overwriteLeading (listing : Listing) (source : Source) : Outcome :=
  listing.change fun items => do
    let elements ← source.toOverwrite listing.type
    if items.length < elements.length then .error (.sourceTooLong elements.length items.length)
    else .ok (elements ++ items.drop elements.length)

def set (listing : Listing) (index value : Datum) : Outcome :=
  listing.change fun items => do
    let place ← position items (← index.toIndex)
    return items.set place (← Element.ofDatum listing.type value)

def element (listing : Listing) (place : Nat) : Element :=
  listing.items.getD place (Element.blank listing.type)

def addTo (listing : Listing) (index addend : Datum) : Outcome :=
  listing.change fun items => do
    let place ← position items (← index.toIndex)
    return items.set place (← (listing.element place).plus listing.type addend)

def get (listing : Listing) (index : Datum) : Except Error Datum := do
  return (listing.element (← position listing.items (← index.toIndex))).toDatum

def clear (listing : Listing) : Listing := { listing with items := [] }

def reverse (listing : Listing) : Listing := { listing with items := listing.items.reverse }

def close (listing : Listing) : Listing := { listing with items := [], closed := true }

/-- A request that changes the list and answers with `reply`. -/
def changed (reply : PoolReply) (outcome : Outcome) : Except Error PoolReply × Listing :=
  (outcome.1.map fun _ => reply, outcome.2)

def withSource (listing : Listing) (resolve : NamedSource → Except Error Source)
    (reply : PoolReply) (source : NamedSource) (use : Source → Outcome) :
    Except Error PoolReply × Listing :=
  match resolve source with
  | .error cause => (.error cause, listing)
  | .ok values => changed reply (use values)

/-- The requests of a list. Those that show blocks or make further vectors are none of them. -/
def perform (listing : Listing) (resolve : NamedSource → Except Error Source) :
    VectorAction → Option (Except Error PoolReply × Listing)
  | .append value => some (changed .done (listing.append value))
  | .appendRange start stop => some (changed .done (listing.appendRange start stop))
  | .extend source => some (listing.withSource resolve .done source listing.extend)
  | .extendInPlace source => some (listing.withSource resolve (.flag true) source listing.extend)
  | .overwriteLeading source =>
    some (listing.withSource resolve .done source listing.overwriteLeading)
  | .get index => some ((listing.get index).map .value, listing)
  | .set index value => some (changed .done (listing.set index value))
  | .addTo index addend => some (changed .done (listing.addTo index addend))
  | .refuse operation => some (.error (.unsupported operation), listing)
  | .contains value => some (.ok (.flag (listing.shown.any (· == value))), listing)
  | .count value => some (.ok (.number (listing.shown.countP (· == value))), listing)
  | .reversed => some (.ok (.values listing.shown.reverse), listing)
  | .elements => some (.ok (.values listing.shown), listing)
  | .elementsAs type => some (.ok (.values (listing.items.map fun element =>
      (Element.cast (type.getD listing.type) element).toDatum)), listing)
  | .reverse => some (.ok .done, listing.reverse)
  | .clear => some (.ok .done, listing.clear)
  | .close => some (.ok .done, listing.close)
  | .useAndClose => some (.ok (.closedAfter listing.items.length), listing.close)
  | .slice .. | .copyRange .. | .indexOf .. | .norm | .describe => none

/-! ### Refused requests -/

/-- If the request is refused, the list is left as it was. -/
def Refuses {Value : Type} (listing : Listing) (outcome : Except Error Value × Listing) : Prop :=
  ∀ cause, outcome.1 = .error cause → outcome.2 = listing

theorem grow_refuses (listing : Listing) (elements : List Element) :
    listing.Refuses (listing.grow elements) := by
  intro cause refused
  unfold grow at refused ⊢
  split at refused
  · rw [if_pos (by assumption)]
  · simp at refused

theorem append_refuses (listing : Listing) (value : Datum) :
    listing.Refuses (listing.append value) := by
  unfold append
  split
  · exact fun _ _ => rfl
  · cases Element.ofDatum listing.type value with
    | error => exact fun _ _ => rfl
    | ok element => exact grow_refuses listing [element]

theorem extend_refuses (listing : Listing) (source : Source) :
    listing.Refuses (listing.extend source) := by
  unfold extend
  cases source.toAppend listing.type with
  | error => exact fun _ _ => rfl
  | ok elements => exact grow_refuses listing elements

theorem change_refuses (listing : Listing) (update : List Element → Except Error (List Element)) :
    listing.Refuses (listing.change update) := by
  intro cause refused
  unfold change at refused ⊢
  cases updated : update listing.items with
  | error => rfl
  | ok items => simp [updated] at refused

theorem changed_refuses (listing : Listing) (reply : PoolReply) (outcome : Outcome)
    (refuses : listing.Refuses outcome) : listing.Refuses (changed reply outcome) := by
  intro cause refused
  simp only [changed] at refused ⊢
  cases answered : outcome.1 with
  | error other => exact refuses other answered
  | ok => simp [answered, Except.map] at refused

theorem withSource_refuses (listing : Listing) (resolve : NamedSource → Except Error Source)
    (reply : PoolReply) (source : NamedSource) (use : Source → Outcome)
    (refuses : ∀ values, listing.Refuses (use values)) :
    listing.Refuses (listing.withSource resolve reply source use) := by
  unfold withSource
  cases resolve source with
  | error => exact fun _ _ => rfl
  | ok values => exact changed_refuses listing reply (use values) (refuses values)

theorem perform_refuses (listing : Listing) (resolve : NamedSource → Except Error Source)
    (action : VectorAction) (served : Except Error PoolReply × Listing)
    (performed : listing.perform resolve action = some served) : listing.Refuses served := by
  cases action with
  | append value =>
      obtain rfl := Option.some.inj performed
      exact changed_refuses listing _ _ (append_refuses listing value)
  | appendRange start stop =>
      obtain rfl := Option.some.inj performed
      exact changed_refuses listing _ _ (grow_refuses listing _)
  | extend source | extendInPlace source =>
      obtain rfl := Option.some.inj performed
      exact withSource_refuses listing resolve _ source _ (extend_refuses listing)
  | overwriteLeading source =>
      obtain rfl := Option.some.inj performed
      exact withSource_refuses listing resolve _ source _ fun _ => change_refuses listing _
  | set index value | addTo index value =>
      obtain rfl := Option.some.inj performed
      exact changed_refuses listing _ _ (change_refuses listing _)
  | reverse | clear | close | useAndClose =>
      obtain rfl := Option.some.inj performed
      intro cause refused
      cases refused
  | slice | copyRange | indexOf | norm | describe => cases performed
  | get | refuse | contains | count | reversed | elements | elementsAs =>
      obtain rfl := Option.some.inj performed
      exact fun _ _ => rfl

end Listing

/-! ### A vector against its listing -/

open SegmentedVector

def TypedStored.listing (typed : TypedStored) : Listing :=
  ⟨typed.type, typed.stored.vector.toList, typed.stored.vector.closed⟩

/-- A request on a vector went as on its listing. -/
structure Agrees (typed : TypedStored) (outcome : TypedStored.Outcome Unit)
    (listed : Listing.Outcome) : Prop where
  answer : outcome.1 = listed.1
  listing : outcome.2.listing = listed.2
  valid : WellFormed outcome.2.stored.vector
  compact : Compact typed.stored.vector → Compact outcome.2.stored.vector

namespace TypedStored
variable (typed : TypedStored) (valid : WellFormed typed.stored.vector)

include valid in
theorem refused_agrees (cause : Error) :
    Agrees typed (.error cause, typed) (.error cause, typed.listing) :=
  ⟨rfl, rfl, valid, id⟩

/-! #### Growing -/

theorem grow_open (elements : List Element) (opened : typed.stored.vector.closed = false) :
    typed.listing.grow elements = (.ok (), ⟨typed.type,
      typed.stored.vector.toList ++ elements, false⟩) := by
  simp [Listing.grow, listing, opened]

include valid in
/-- A closed vector takes only nothing. -/
theorem stopped_agrees (elements : List Element) (closed : typed.stored.vector.closed = true) :
    Agrees typed
      (typed.ofProgress ⟨typed.stored, if elements = [] then none else some .closedVector⟩)
      (typed.listing.grow elements) := by
  cases elements with
  | nil => exact ⟨by simp [ofProgress, Listing.grow], by simp [ofProgress, Listing.grow, listing],
      valid, id⟩
  | cons element rest => exact ⟨by simp [ofProgress, Listing.grow, listing, closed],
      by simp [ofProgress, Listing.grow, listing, closed], valid, id⟩

/-- The elements were put behind those of an open vector. -/
theorem grown_agrees (elements : List Element) (opened : typed.stored.vector.closed = false)
    (progress : Stored.Progress Element) (done : progress.failure = none)
    (grown : Grown typed.stored.vector progress.stored.vector elements) :
    Agrees typed (typed.ofProgress progress) (typed.listing.grow elements) := by
  rw [grow_open typed elements opened]
  exact ⟨by simp [ofProgress, done], by simp [ofProgress, listing, grown.toList_eq, grown.opened],
    grown.valid, grown.compact⟩

include valid in
theorem append_agrees (value : Datum) :
    Agrees typed (typed.append value) (typed.listing.append value) := by
  cases closed : typed.stored.vector.closed with
  | true =>
      have listed : typed.listing.append value = (.error .closedVector, typed.listing) := by
        simp [Listing.append, listing, closed]
      rw [listed, append, Stored.reserve_closed typed.stored closed]
      exact refused_agrees typed valid .closedVector
  | false =>
      have listed : typed.listing.append value = match Element.ofDatum typed.type value with
          | .error cause => (.error cause, typed.listing)
          | .ok element => typed.listing.grow [element] := by
        simp [Listing.append, listing, closed]
      obtain ⟨roomy, reserved, room, _⟩ := Stored.reserve_open typed.stored valid closed
      rw [listed, append, reserved]
      cases Element.ofDatum typed.type value with
      | error cause =>
          -- The value came too late to stop the growth, but the elements are the same.
          exact ⟨rfl, by simp [listing, room.toList_eq, room.opened, closed], room.valid,
            room.compact⟩
      | ok element =>
          obtain ⟨longer, appended, grown⟩ :=
            Stored.append_open roomy room.valid room.opened element
          simp only [appended]
          exact grown_agrees typed [element] closed ⟨longer, none⟩ rfl (room.trans grown)

include valid in
theorem appendRange_agrees (start stop : Int) :
    Agrees typed (typed.appendRange start stop) (typed.listing.appendRange start stop) := by
  unfold appendRange
  cases closed : typed.stored.vector.closed with
  | true =>
      rw [Stored.appendAll_closed typed.stored _ closed]
      exact stopped_agrees typed valid _ closed
  | false =>
      obtain ⟨done, grown⟩ := Stored.appendAll_open typed.stored valid closed _
      exact grown_agrees typed _ closed _ done grown

include valid in
/-- A vector is extended like its listing unless the elements spill. -/
theorem extend_agrees (source : Source) (fits : ∀ elements,
    source.toAppend typed.type = .ok elements → ¬ typed.stored.vector.Spills elements.length) :
    Agrees typed (typed.extend source) (typed.listing.extend source) := by
  have listed : typed.listing.extend source = match source.toAppend typed.type with
    | .error cause => (.error cause, typed.listing)
    | .ok elements => typed.listing.grow elements := rfl
  rw [listed, extend]
  cases offered : source.toAppend typed.type with
  | error cause => exact refused_agrees typed valid cause
  | ok elements =>
      cases closed : typed.stored.vector.closed with
      | true =>
          simp only [Stored.extend_closed typed.stored elements closed]
          exact stopped_agrees typed valid elements closed
      | false =>
          obtain ⟨done, grown⟩ :=
            Stored.extend_open typed.stored valid closed elements (fits elements offered)
          exact grown_agrees typed elements closed _ done grown

include valid in
/-- An extension that spills is refused, and only the list goes through with it. -/
theorem extend_spilled (source : Source) (elements : List Element)
    (offered : source.toAppend typed.type = .ok elements)
    (spills : typed.stored.vector.Spills elements.length) :
    typed.extend source = (.error .chunkPastBlock, typed) ∧
      (typed.listing.extend source).1 = .ok () := by
  have opened := spills.opened _ valid _
  constructor
  · rw [extend, offered]
    simp only [Stored.extend_spills typed.stored valid opened elements spills, ofProgress]
  · have listed : typed.listing.extend source = typed.listing.grow elements := by
      simp only [Listing.extend, listing, offered]
    rw [listed, grow_open typed elements opened]

/-! #### Writing -/

theorem position_eq (index : Int) (vector : SegmentedVector Element)
    (valid : WellFormed vector) : Listing.position vector.toList index = vector.position index := by
  simp only [Listing.position, SegmentedVector.position, length_toList vector valid]

theorem position_inside (index : Int) (vector : SegmentedVector Element) (place : Nat)
    (found : vector.position index = .ok place) : place < vector.length := by
  unfold SegmentedVector.position at found
  extract_lets shifted at found
  by_cases outside : shifted < 0 ∨ (vector.length : Int) ≤ shifted
  · simp [outside] at found
  · rw [if_neg outside] at found
    have same := Except.ok.inj found
    omega

include valid in
theorem element_eq (place : Nat) (inside : place < typed.stored.vector.length) :
    typed.listing.element place = typed.stored.vector.read place := by
  have bound : place < typed.stored.vector.toList.length := by
    rw [length_toList _ valid]
    exact inside
  rw [read_eq _ place valid inside]
  simp only [Listing.element, listing, List.getD_eq_getElem?_getD, List.getElem?_eq_getElem bound,
    Option.getD_some]

include valid in
/-- The vector and its listing are given new content by the same rule. -/
theorem change_agrees
    (update : SegmentedVector Element → Except Error (SegmentedVector Element))
    (listed : List Element → Except Error (List Element))
    (same : listed typed.stored.vector.toList =
      (update typed.stored.vector).map SegmentedVector.toList)
    (kept : ∀ after, update typed.stored.vector = .ok after →
      Rewritten typed.stored.vector after) :
    Agrees typed (typed.change update) (typed.listing.change listed) := by
  have onList : typed.listing.change listed = match listed typed.stored.vector.toList with
    | .error cause => (.error cause, typed.listing)
    | .ok items => (.ok (), { typed.listing with items }) := rfl
  rw [onList, same, change]
  cases updated : update typed.stored.vector with
  | error cause => exact refused_agrees typed valid cause
  | ok after =>
      have rewritten := kept after updated
      refine ⟨rfl, ?_, rewritten.valid, rewritten.compact valid⟩
      simp only [Except.map, listing, rewritten.closed]

include valid in
theorem overwriteLeading_agrees (source : Source) :
    Agrees typed (typed.overwriteLeading source) (typed.listing.overwriteLeading source) := by
  apply change_agrees typed valid
  · change (source.toOverwrite typed.type >>= _) = Except.map _ (source.toOverwrite typed.type >>= _)
    cases source.toOverwrite typed.type with
    | error => rfl
    | ok elements =>
        simp only [bind, Except.bind, length_toList _ valid]
        by_cases fits : elements.length ≤ typed.stored.vector.length
        · obtain ⟨written, overwritten, _, _, _, items⟩ :=
            overwriteLeading_spec typed.stored.vector elements valid fits
          rw [overwritten, if_neg (Nat.not_lt.mpr fits), Except.map, items]
        · simp only [SegmentedVector.overwriteLeading, if_pos (Nat.lt_of_not_le fits), Except.map]
  · intro after updated
    obtain ⟨elements, _, overwritten⟩ := bind_ok updated
    simp only [SegmentedVector.overwriteLeading] at overwritten
    split at overwritten
    · cases overwritten
    · rw [← Except.ok.inj overwritten]
      exact overwritten_rewritten _ elements valid

/-- One element is replaced, by what `fit` makes of the place. -/
def replaced (vector : SegmentedVector Element) (index : Datum)
    (fit : Nat → Except Error Element) : Except Error (SegmentedVector Element) := do
  let place ← vector.position (← index.toIndex)
  return vector.write place (← fit place)

include valid in
theorem replaced_agrees (index : Datum) (fit listedFit : Nat → Except Error Element)
    (same : ∀ place < typed.stored.vector.length, listedFit place = fit place) :
    Agrees typed (typed.change fun vector => replaced vector index fit)
      (typed.listing.change fun items => do
        let place ← Listing.position items (← index.toIndex)
        return items.set place (← listedFit place)) := by
  apply change_agrees typed valid
  · unfold replaced
    cases index.toIndex with
    | error => rfl
    | ok number =>
        simp only [bind, Except.bind, position_eq number _ valid]
        cases found : typed.stored.vector.position number with
        | error => rfl
        | ok place =>
            simp only [same place (position_inside number _ place found)]
            cases fit place with
            | error => rfl
            | ok element =>
                simp only [pure, Except.pure, Except.map, toList_write _ _ _ valid]
  · intro after updated
    obtain ⟨number, _, found⟩ := bind_ok updated
    obtain ⟨place, _, fitted⟩ := bind_ok found
    obtain ⟨element, _, written⟩ := bind_ok fitted
    rw [← Except.ok.inj written]
    exact write_rewritten _ place element valid

include valid in
theorem set_agrees (index value : Datum) :
    Agrees typed (typed.set index value) (typed.listing.set index value) :=
  replaced_agrees typed valid index _ _ fun _ _ => rfl

include valid in
theorem addTo_agrees (index addend : Datum) :
    Agrees typed (typed.addTo index addend) (typed.listing.addTo index addend) := by
  refine replaced_agrees typed valid index
    (fun place => (typed.stored.vector.read place).plus typed.type addend) _ ?_
  intro place inside
  rw [element_eq typed valid place inside]
  rfl

include valid in
theorem reverse_agrees : Agrees typed
    (.ok (), { typed with stored := { typed.stored with vector := typed.stored.vector.reverse } })
    (.ok (), typed.listing.reverse) := by
  obtain ⟨rewritten, items⟩ := reverse_spec typed.stored.vector valid
  exact ⟨rfl, by simp only [listing, Listing.reverse, items, rewritten.closed], rewritten.valid,
    rewritten.compact valid⟩

include valid in
theorem close_agrees : Agrees typed (.ok (), Pool.closed typed) (.ok (), typed.listing.close) := by
  obtain ⟨closedValid, closed, items, compact⟩ := Stored.close_spec typed.stored valid
  exact ⟨rfl, by simp only [listing, Pool.closed, Listing.close, items, closed], closedValid,
    fun _ => compact⟩

/-! #### Reading -/

include valid in
theorem get_eq (index : Datum) : typed.get index = typed.listing.get index := by
  unfold get Listing.get
  cases index.toIndex with
  | error => rfl
  | ok number =>
      have same : Listing.position typed.listing.items number =
          typed.stored.vector.position number := position_eq number _ valid
      simp only [bind, Except.bind, same, SegmentedVector.get]
      cases found : typed.stored.vector.position number with
      | error => rfl
      | ok place =>
          simp only [Except.map, element_eq typed valid place (position_inside number _ place found)]

end TypedStored
end ConvexQP
