import ConvexQP.Proofs.Floating.WholeNumbers
import ConvexQP.Proofs.Storage.Refinement

/-!
Vectors as sources, beside the lists of their values. Elements of another vector are cast to the
type that takes them, while values in a list are converted, and refused where the type has nothing
for them. The two come to the same if every element fits the type, and only then if the vector is
taken: what does not fit is stored without its imaginary part, or as the least whole number, where
the list is refused; and a whole number is rounded to a single at once, where the list rounds it to
a double first.
-/
namespace ConvexQP
open SegmentedVector

/-! ### Elements -/

namespace Element

/-- Nothing of the element is dropped but the fraction, which its value loses as well. -/
def Fits : ElementType → Element → Prop
  | .complex128, _ => True
  | _, .complex .. => False
  | .float32, .whole value => toSingle (realOfWhole value) = singleOfWhole value
  | .int64, .real value => ∃ number, Datum.truncated value = .ok number ∧ wholeInRange number
  | _, _ => True

/-- The value of an element converts to what the element is cast to exactly if it fits. -/
theorem ofDatum_eq_cast_iff (type : ElementType) (element : Element) :
    ofDatum type element.toDatum = .ok (cast type element) ↔ element.Fits type := by
  cases element with
  | real value =>
      cases type with
      | float64 | float32 | complex128 => exact iff_of_true rfl trivial
      | int64 =>
          simp only [toDatum, ofDatum, Datum.toInteger, cast, toReal, wholeOfReal, Fits, bind,
            Except.bind]
          cases Datum.truncated value with
          | error cause => simp
          | ok number => by_cases inside : wholeInRange number <;> simp [inside]
  | whole value =>
      have read : (Datum.integer value.toInt).toReal = .ok (realOfWhole value) :=
        Datum.realOfInteger_toInt value
      cases type with
      | float64 | complex128 =>
          refine iff_of_true ?_ trivial
          simp only [toDatum, ofDatum, read, bind, Except.bind]
          rfl
      | float32 =>
          simp only [toDatum, ofDatum, read, bind, Except.bind, cast, toReal, Fits,
            Except.ok.injEq, real.injEq]
      | int64 => exact iff_of_true (ofDatum_toDatum .int64 (.whole value) rfl) trivial
  | complex re im =>
      cases type with
      | complex128 => exact iff_of_true rfl trivial
      | float64 | float32 | int64 =>
          refine iff_of_false (fun converted => ?_) id
          cases converted

/-- What does not fit has a value that is refused, or is a whole number that is rounded twice. -/
theorem misfit_cases (type : ElementType) (element : Element) (misfit : ¬ element.Fits type) :
    (∃ cause, ofDatum type element.toDatum = .error cause) ∨
      type = .float32 ∧ ∃ value, element = .whole value := by
  cases converted : ofDatum type element.toDatum with
  | error cause => exact .inl ⟨cause, rfl⟩
  | ok made =>
      right
      cases element with
      | real value =>
          cases type with
          | float64 | float32 | complex128 => exact absurd trivial misfit
          | int64 =>
              obtain ⟨number, read, inRange⟩ := bind_ok converted
              split at inRange
              · rename_i inside
                exact absurd ⟨number, read, inside⟩ misfit
              · cases inRange
      | whole value =>
          cases type with
          | float64 | int64 | complex128 => exact absurd trivial misfit
          | float32 => exact ⟨rfl, value, rfl⟩
      | complex re im =>
          cases type with
          | complex128 => exact absurd trivial misfit
          | float64 | float32 | int64 => cases converted

end Element

/-! ### Lists of values -/

namespace Source
variable (type : ElementType) (elements : List Element)

theorem fit_eq_casts_iff :
    fit type (elements.map Element.toDatum) = .ok (elements.map (Element.cast type)) ↔
      ∀ element ∈ elements, element.Fits type := by
  rw [fit_values, mapM_ok_map_iff]
  exact forall₂_congr fun element _ => Element.ofDatum_eq_cast_iff type element

theorem length_of_fit (values : List Element)
    (made : fit type (elements.map Element.toDatum) = .ok values) :
    values.length = elements.length := by
  rw [fit_values] at made
  exact length_of_mapM_ok _ elements values made

end Source

/-! ### Storing -/

namespace TypedStored
variable (typed : TypedStored)

/-- Of any number of elements all are stored, at one place, or none are; which of the two depends
only on how many there are. -/
def Stores (store : List Element → Outcome Unit) : Prop :=
  ∀ count, (∃ cause, ∀ elements, elements.length = count → store elements = (.error cause, typed)) ∨
    ∃ before after, ∀ elements, elements.length = count → (store elements).1 = .ok () ∧
      (store elements).2.listing.items = before ++ elements ++ after

variable (valid : WellFormed typed.stored.vector)

include valid in
theorem extension_stores : typed.Stores fun elements =>
    typed.ofProgress (typed.stored.extend elements) := by
  simp only [Stores]
  intro count
  cases closed : typed.stored.vector.closed with
  | true =>
      have extended (elements : List Element) := Stored.extend_closed typed.stored elements closed
      rcases Nat.eq_zero_or_pos count with rfl | positive
      · refine .inr ⟨typed.listing.items, [], fun elements none => ?_⟩
        rw [extended, List.length_eq_zero_iff.mp none]
        exact ⟨rfl, by simp [ofProgress, listing]⟩
      · refine .inl ⟨.closedVector, fun elements some => ?_⟩
        have nonempty : elements ≠ [] := List.length_pos_iff.mp (some.symm ▸ positive)
        rw [extended, if_neg nonempty]
        rfl
  | false =>
      by_cases spills : typed.stored.vector.Spills count
      · refine .inl ⟨.chunkPastBlock, fun elements length => ?_⟩
        rw [Stored.extend_spills typed.stored valid closed elements (length.symm ▸ spills)]
        rfl
      · refine .inr ⟨typed.listing.items, [], fun elements length => ?_⟩
        obtain ⟨done, grown⟩ :=
          Stored.extend_open typed.stored valid closed elements (length.symm ▸ spills)
        exact ⟨by simp [ofProgress, done], by simp [ofProgress, listing, grown.toList_eq]⟩

include valid in
theorem overwriting_stores : typed.Stores fun elements =>
    typed.change fun vector => vector.overwriteLeading elements := by
  simp only [Stores]
  intro count
  by_cases fits : count ≤ typed.stored.vector.length
  · refine .inr ⟨[], typed.listing.items.drop count, fun elements length => ?_⟩
    obtain ⟨written, overwritten, _, _, _, items⟩ :=
      overwriteLeading_spec typed.stored.vector elements valid (length.symm ▸ fits)
    simp only [TypedStored.change, overwritten]
    exact ⟨trivial, by rw [← length]; exact items⟩
  · refine .inl ⟨.sourceTooLong count typed.stored.vector.length, fun elements length => ?_⟩
    simp only [TypedStored.change, SegmentedVector.overwriteLeading, length,
      if_pos (Nat.lt_of_not_le fits)]

end TypedStored

/-! ### Requests with a source -/

/-- The requests that store the values of a source. -/
inductive BulkRequest where
  | extend
  | extendInPlace
  | overwriteLeading

namespace BulkRequest

def action : BulkRequest → NamedSource → VectorAction
  | extend => .extend
  | extendInPlace => .extendInPlace
  | overwriteLeading => .overwriteLeading

def reply : BulkRequest → PoolReply
  | extend | overwriteLeading => .done
  | extendInPlace => .flag true

def offer : BulkRequest → ElementType → Source → Except Error (List Element)
  | extend, type, source | extendInPlace, type, source => source.toAppend type
  | overwriteLeading, type, source => source.toOverwrite type

def store : BulkRequest → TypedStored → List Element → TypedStored.Outcome Unit
  | extend, typed, elements | extendInPlace, typed, elements =>
    typed.ofProgress (typed.stored.extend elements)
  | overwriteLeading, typed, elements =>
    typed.change fun vector => vector.overwriteLeading elements

/-- The request on one vector. -/
def use (bulk : BulkRequest) (typed : TypedStored) (source : Source) : TypedStored.Outcome Unit :=
  match bulk.offer typed.type source with
  | .error cause => (.error cause, typed)
  | .ok elements => bulk.store typed elements

variable (bulk : BulkRequest)

theorem store_stores (typed : TypedStored) (valid : WellFormed typed.stored.vector) :
    typed.Stores (bulk.store typed) := by
  cases bulk with
  | extend | extendInPlace => exact typed.extension_stores valid
  | overwriteLeading => exact typed.overwriting_stores valid

theorem perform_eq (pool : Pool) (number : Nat) (holding : Holding) (source : NamedSource) :
    pool.perform number holding (bulk.action source) =
      pool.withSource number holding bulk.reply source (bulk.use (pool.typedOf holding)) := by
  have overwritten (values : Source) : (pool.typedOf holding).overwriteLeading values =
      use .overwriteLeading (pool.typedOf holding) values := by
    simp only [TypedStored.overwriteLeading, TypedStored.change, use, offer, store]
    cases values.toOverwrite (pool.typedOf holding).type <;> rfl
  cases bulk with
  | extend | extendInPlace => rfl
  | overwriteLeading =>
      exact congrArg (pool.withSource number holding .done source) (funext overwritten)

theorem offer_elements (type : ElementType) (elements : List Element) :
    bulk.offer type (.elements elements) = .ok (elements.map (Element.cast type)) := by
  cases bulk <;> rfl

theorem offer_listed (type : ElementType) (items : List Datum) :
    bulk.offer type (.listed items) = Source.fit type items := by
  cases bulk <;> rfl

/-! #### One vector -/

section Uses
variable (typed : TypedStored) (elements : List Element)

/-- The request with the elements of another vector, which are cast. -/
def cast : TypedStored.Outcome Unit := bulk.use typed (.elements elements)

/-- The request with the list of their values, which are converted. -/
def converted : TypedStored.Outcome Unit :=
  bulk.use typed (.listed (elements.map Element.toDatum))

theorem cast_eq : bulk.cast typed elements =
    bulk.store typed (elements.map (Element.cast typed.type)) := by
  simp only [cast, use, offer_elements]

theorem converted_eq : bulk.converted typed elements =
    match Source.fit typed.type (elements.map Element.toDatum) with
    | .error cause => (.error cause, typed)
    | .ok made => bulk.store typed made := by
  simp only [converted, use, offer_listed]

theorem converted_of_fits (fits : ∀ element ∈ elements, element.Fits typed.type) :
    bulk.converted typed elements = bulk.cast typed elements := by
  rw [converted_eq, cast_eq, (Source.fit_eq_casts_iff typed.type elements).mpr fits]

variable (valid : WellFormed typed.stored.vector)

include valid in
/-- Where the cast elements are taken, the converted ones are the same only if all fit. -/
theorem fits_of_same (taken : (bulk.cast typed elements).1 = .ok ())
    (answer : (bulk.converted typed elements).1 = .ok ())
    (same : (bulk.converted typed elements).2.listing = (bulk.cast typed elements).2.listing) :
    ∀ element ∈ elements, element.Fits typed.type := by
  rw [← Source.fit_eq_casts_iff]
  rw [cast_eq] at taken same
  rw [converted_eq] at answer same
  cases made : Source.fit typed.type (elements.map Element.toDatum) with
  | error cause => simp [made] at answer
  | ok values =>
      simp only [made] at same
      have count := Source.length_of_fit typed.type elements values made
      rcases bulk.store_stores typed valid elements.length with
        ⟨cause, refused⟩ | ⟨before, after, stored⟩
      · rw [refused _ (List.length_map _)] at taken
        cases taken
      · have items := congrArg Listing.items same
        rw [(stored values count).2, (stored _ (List.length_map _)).2] at items
        rw [List.append_cancel_left (List.append_cancel_right items)]

include valid in
/-- What is refused stores nothing, and then neither way does. -/
theorem refused_both (cause : Error) (refused : (bulk.cast typed elements).1 = .error cause) :
    (bulk.cast typed elements).2 = typed ∧ (bulk.converted typed elements).2 = typed ∧
      ∃ other, (bulk.converted typed elements).1 = .error other ∧
        (other = cause ∨ ∃ element ∈ elements,
          Element.ofDatum typed.type element.toDatum = .error other) := by
  rw [cast_eq] at refused ⊢
  rw [converted_eq]
  rcases bulk.store_stores typed valid elements.length with ⟨first, never⟩ | ⟨before, after, stored⟩
  · have same := never (elements.map (Element.cast typed.type)) (List.length_map _)
    rw [same] at refused ⊢
    obtain rfl := Except.error.inj refused
    cases made : Source.fit typed.type (elements.map Element.toDatum) with
    | error other =>
        rw [Source.fit_values] at made
        exact ⟨rfl, rfl, other, rfl, .inr (mem_of_mapM_error _ elements other made)⟩
    | ok values =>
        have same := never values (Source.length_of_fit typed.type elements values made)
        simp only [same]
        exact ⟨trivial, trivial, first, rfl, .inl rfl⟩
  · rw [(stored _ (List.length_map _)).1] at refused
    cases refused

/-- A value that is refused keeps the others out as well. -/
theorem converted_refused (element : Element) (member : element ∈ elements) (cause : Error)
    (refused : Element.ofDatum typed.type element.toDatum = .error cause) :
    (bulk.converted typed elements).2 = typed ∧
      ∃ other, (bulk.converted typed elements).1 = .error other := by
  rw [converted_eq]
  cases made : Source.fit typed.type (elements.map Element.toDatum) with
  | error other => exact ⟨rfl, other, rfl⟩
  | ok values =>
      rw [Source.fit_values] at made
      obtain ⟨value, _, accepted⟩ := each_of_mapM_ok _ elements values made element member
      cases accepted.symm.trans refused

end Uses
end BulkRequest

/-! ### Pools -/

theorem Shelf.put_inj (shelf : Shelf) (number : Nat) (inside : number < shelf.listings.size)
    (listing other : Listing) (same : shelf.put number listing = shelf.put number other) :
    listing = other := by
  have listings := congrArg (fun after => after.listings[number]?) same
  simpa [Shelf.put, inside] using listings

namespace Pool
variable (pool : Pool)

theorem run_bulk (bulk : BulkRequest) (target : String) (number : Nat) (into : Holding)
    (named : pool.holdingNumber? target = some number) (held : pool.holding? target = some into)
    (source : NamedSource) (values : Source) (resolved : pool.resolve source = .ok values) :
    pool.run (.act target (bulk.action source)) =
      pool.changed number into bulk.reply (bulk.use (pool.typedOf into) values) := by
  simp only [run, named, held, bulk.perform_eq, withSource, resolved]

section Changed
variable (number : Nat) (holding : Holding) (reply : PoolReply)
variable (outcome : TypedStored.Outcome Unit)

theorem changed_ok_iff (answer : PoolReply) :
    (pool.changed number holding reply outcome).1 = .ok answer ↔
      outcome.1 = .ok () ∧ reply = answer := by
  obtain ⟨answered, left⟩ := outcome
  cases answered <;> simp [changed, Except.map]

theorem changed_error_iff (cause : Error) :
    (pool.changed number holding reply outcome).1 = .error cause ↔ outcome.1 = .error cause := by
  obtain ⟨answered, left⟩ := outcome
  cases answered <;> simp [changed, Except.map]

end Changed

theorem changed_unchanged (number : Nat) (holding : Holding)
    (found : pool.holdings[number]? = some holding) (reply : PoolReply)
    (outcome : TypedStored.Outcome Unit) (unchanged : outcome.2 = pool.typedOf holding) :
    (pool.changed number holding reply outcome).2.shelf = pool.shelf := by
  rw [changed, shelf_putBack, unchanged]
  exact shelf_put_self pool number holding found

/-- A vector as the source of another one, beside the list of its values. Elements that fit are
stored alike. If the vector is taken, the list has the same reply and leaves the same lists only if
all elements fit; if it is refused, so is the list, and neither stores anything. With an element
that does not fit the list is refused, unless it is a whole number among singles. -/
theorem source_container (history : List PoolRequest) (target source : String)
    (into giver : Holding) (held : (after history).holding? target = some into)
    (given : (after history).holding? source = some giver) (bulk : BulkRequest) :
    let pool := after history
    let direct := pool.run (.act target (bulk.action (.vector source)))
    let listed := pool.run (.act target (bulk.action (.values (.listed giver.listing.shown))))
    (pool.run (.act source .elements)).1 = .ok (.values giver.listing.shown) ∧
      ((∀ element ∈ giver.listing.items, element.Fits into.type) → listed = direct) ∧
      (∀ reply, direct.1 = .ok reply → ((listed.1 = .ok reply ∧ listed.2.shelf = direct.2.shelf) ↔
        ∀ element ∈ giver.listing.items, element.Fits into.type)) ∧
      (∀ cause, direct.1 = .error cause → direct.2.shelf = pool.shelf ∧
        listed.2.shelf = pool.shelf ∧ ∃ other, listed.1 = .error other ∧
          (other = cause ∨ ∃ element ∈ giver.listing.items,
            Element.ofDatum into.type element.toDatum = .error other)) ∧
      ∀ element ∈ giver.listing.items, ¬ element.Fits into.type →
        (listed.2.shelf = pool.shelf ∧ ∃ cause, listed.1 = .error cause) ∨
          into.type = .float32 ∧ ∃ value, element = .whole value := by
  intro pool direct listed
  have sound : pool.Sound := after_sound history
  obtain ⟨number, named, found⟩ := Option.bind_eq_some_iff.mp held
  have valid : WellFormed (pool.typedOf into).stored.vector :=
    sound into (mem_of_holding _ _ _ held)
  have inside : number < pool.shelf.listings.size := by
    obtain ⟨inside, _⟩ := Array.getElem?_eq_some_iff.mp found
    simpa [shelf] using inside
  have asVector : direct = pool.changed number into bulk.reply
      (bulk.cast (pool.typedOf into) giver.listing.items) :=
    run_bulk pool bulk target number into named held _ _ (by simp only [resolve, pool, given]; rfl)
  have asList : listed = pool.changed number into bulk.reply
      (bulk.converted (pool.typedOf into) giver.listing.items) :=
    run_bulk pool bulk target number into named held _ _ rfl
  have fits_alike (fits : ∀ element ∈ giver.listing.items, element.Fits into.type) :
      listed = direct := by
    rw [asList, asVector, bulk.converted_of_fits (pool.typedOf into) giver.listing.items fits]
  refine ⟨?_, fits_alike, ?_, ?_, ?_⟩
  · obtain ⟨place, known, _⟩ := Option.bind_eq_some_iff.mp given
    have read : pool.run (.act source .elements) = pool.perform place giver .elements := by
      simp only [run, pool, known, given]
    rw [read]
    rfl
  · intro reply taken
    refine ⟨?_, fun fits => ⟨by rw [fits_alike fits, taken], by rw [fits_alike fits]⟩⟩
    rintro ⟨answer, same⟩
    rw [asVector] at taken same
    rw [asList] at answer same
    rw [changed, changed, shelf_putBack, shelf_putBack] at same
    exact bulk.fits_of_same (pool.typedOf into) giver.listing.items valid
      ((changed_ok_iff ..).mp taken).1 ((changed_ok_iff ..).mp answer).1
      (Shelf.put_inj pool.shelf number inside _ _ same)
  · intro cause refused
    rw [asVector] at refused ⊢
    rw [asList]
    obtain ⟨kept, keptToo, other, stopped, why⟩ := bulk.refused_both (pool.typedOf into)
      giver.listing.items valid cause ((changed_error_iff ..).mp refused)
    exact ⟨changed_unchanged pool number into found _ _ kept,
      changed_unchanged pool number into found _ _ keptToo, other,
      (changed_error_iff ..).mpr stopped, why⟩
  · intro element member misfit
    rcases element.misfit_cases into.type misfit with ⟨cause, refused⟩ | single
    · rw [asList]
      obtain ⟨kept, other, stopped⟩ := bulk.converted_refused (pool.typedOf into)
        giver.listing.items element member cause refused
      exact .inl ⟨changed_unchanged pool number into found _ _ kept, other,
        (changed_error_iff ..).mpr stopped⟩
    · exact .inr single

/-- Vectors of four types: a number with an imaginary part, a real that is no number, a whole number
with more bits than a double, and no single. -/
def fourTypes : List PoolRequest :=
  [.newVector "z" ⟨.integer 4, .integer 2, .complex128, none, .plain⟩,
    .newVector "x" ⟨.integer 4, .integer 2, .float64, none, .plain⟩,
    .newVector "k" ⟨.integer 4, .integer 2, .int64, none, .plain⟩,
    .newVector "s" ⟨.integer 4, .integer 2, .float32, none, .plain⟩,
    .act "z" (.append (.complex 1.0 2.0)), .act "x" (.append (.real (0.0 / 0.0))),
    .act "k" (.append (.integer 1152921573326323713))]

/-- The reply to a request, and what the vector it was made of holds then. -/
def told (pool : Pool) (target : String) (action : VectorAction) :
    Except Error PoolReply × Option (List Element) :=
  let served := pool.run (.act target action)
  (served.1, (served.2.holding? target).map (·.listing.items))

theorem source_container_fourTypes :
    (after fourTypes).run (.act "x" (.extend (.values
        (.listed [.integer 1152921573326323713])))) =
      (after fourTypes).run (.act "x" (.extend (.vector "k"))) ∧
    (after fourTypes).told "x" (.extend (.vector "k")) =
      (.ok .done, some [.real (0.0 / 0.0), .real 1152921573326323712]) := by
  constructor
  · obtain ⟨into, held, type⟩ : ∃ into, (after fourTypes).holding? "x" = some into ∧
        into.type = .float64 := ⟨_, rfl, rfl⟩
    obtain ⟨giver, given, items⟩ : ∃ giver, (after fourTypes).holding? "k" = some giver ∧
        giver.listing.items = [.whole 1152921573326323713] := ⟨_, rfl, by with_unfolding_all rfl⟩
    obtain ⟨_, alike, _⟩ := source_container fourTypes "x" "k" into giver held given .extend
    have shown : giver.listing.shown = [.integer 1152921573326323713] := by
      rw [Listing.shown, items]
      rfl
    rw [shown, type, items] at alike
    apply alike
    intro element member
    rw [List.mem_singleton.mp member]
    trivial
  · with_unfolding_all rfl

/-- A vector of another type is taken where its list is refused, and rounded otherwise. -/
theorem container_matters :
    (after fourTypes).told "x" (.extend (.vector "z")) =
        (.ok .done, some [.real (0.0 / 0.0), .real 1.0]) ∧
      (after fourTypes).told "x" (.extend (.values (.listed [.complex 1.0 2.0]))) =
        (.error .wrongKind, some [.real (0.0 / 0.0)]) ∧
      (after fourTypes).told "k" (.overwriteLeading (.vector "x")) =
        (.ok .done, some [.whole Int64.minValue]) ∧
      (after fourTypes).told "k" (.overwriteLeading (.values (.listed [.real (0.0 / 0.0)]))) =
        (.error .undefinedInteger, some [.whole 1152921573326323713]) ∧
      (after fourTypes).told "s" (.extendInPlace (.vector "k")) =
        (.ok (.flag true), some [.real 1152921642045800448]) ∧
      (after fourTypes).told "s" (.extendInPlace (.values
          (.listed [.integer 1152921573326323713]))) =
        (.ok (.flag true), some [.real 1152921504606846976]) := by
  refine ⟨?_, ?_, ?_, ?_, ?_, ?_⟩ <;> with_unfolding_all rfl

end Pool
end ConvexQP
