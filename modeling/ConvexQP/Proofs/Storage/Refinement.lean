import ConvexQP.Proofs.Storage.Histories
import ConvexQP.Proofs.Storage.Values

/-!
Named vectors as named lists. A `Shelf` has the listings of a pool under the names of its vectors,
and `Pool.shelf` reads it off. Requests of the lists, made one after the other of a pool and of its
shelf, get the same replies and leave the same lists, up to the first extension that spills; and a
pool whose vectors never forgot their elements has none.
-/
namespace ConvexQP
open SegmentedVector

structure Shelf where
  listings : Array Listing
  names : List (String × Nat)

namespace Shelf

def number? (shelf : Shelf) (name : String) : Option Nat := shelf.names.lookup name

def listing? (shelf : Shelf) (name : String) : Option Listing :=
  (shelf.number? name).bind fun number => shelf.listings[number]?

/-- The values a request names; another list gives its items, as they are now. -/
def resolve (shelf : Shelf) : NamedSource → Except Error Source
  | .values source => .ok source
  | .vector name => match shelf.listing? name with
    | some listing => .ok (.elements listing.items)
    | none => .error .wrongKind

def put (shelf : Shelf) (number : Nat) (listing : Listing) : Shelf :=
  { shelf with listings := shelf.listings.setIfInBounds number listing }

def act (shelf : Shelf) (name : String) (action : VectorAction) :
    Option (Except Error PoolReply × Shelf) :=
  match shelf.number? name, shelf.listing? name with
  | some number, some listing =>
    (listing.perform shelf.resolve action).map fun served => (served.1, shelf.put number served.2)
  | _, _ => some (.ok .missing, shelf)

/-- The replies to a row of requests, and the lists after it. -/
def acts (shelf : Shelf) :
    List (String × VectorAction) → Option (List (Except Error PoolReply) × Shelf)
  | [] => some ([], shelf)
  | (name, action) :: rest => do
    let (reply, next) ← shelf.act name action
    let (replies, last) ← next.acts rest
    return (reply :: replies, last)

end Shelf

def Holding.listing (holding : Holding) : Listing :=
  ⟨holding.type, holding.vector.toList, holding.vector.closed⟩

/-- The source of an extension. -/
def VectorAction.extension? : VectorAction → Option NamedSource
  | .extend source | .extendInPlace source => some source
  | _ => none

namespace Pool

def shelf (pool : Pool) : Shelf := ⟨pool.holdings.map Holding.listing, pool.holdingNames⟩

/-- The replies to a row of requests, and the pool after it. -/
def acts (pool : Pool) : List (String × VectorAction) → List (Except Error PoolReply) × Pool
  | [] => ([], pool)
  | (name, action) :: rest =>
    let served := pool.run (.act name action)
    let later := served.2.acts rest
    (served.1 :: later.1, later.2)

/-- The request is an extension of the vector, with elements that spill. -/
def Overruns (pool : Pool) (holding : Holding) (action : VectorAction) : Prop :=
  ∃ source values elements, action.extension? = some source ∧ pool.resolve source = .ok values ∧
    values.toAppend holding.type = .ok elements ∧ holding.vector.Spills elements.length

def Spills (pool : Pool) (name : String) (action : VectorAction) : Prop :=
  ∃ holding, pool.holding? name = some holding ∧ pool.Overruns holding action

def SpillFree (pool : Pool) : List (String × VectorAction) → Prop
  | [] => True
  | (name, action) :: rest =>
    ¬ pool.Spills name action ∧ (pool.run (.act name action)).2.SpillFree rest

/-! ### The shelf of a pool -/

section Reading
variable (pool : Pool)

theorem shelf_listings (number : Nat) :
    pool.shelf.listings[number]? = (pool.holdings[number]?).map Holding.listing := by
  simp [shelf]

theorem shelf_listing? (name : String) :
    pool.shelf.listing? name = (pool.holding? name).map Holding.listing := by
  have same : pool.shelf.number? name = pool.holdingNumber? name := rfl
  simp only [Shelf.listing?, holding?, same, shelf_listings, Option.map_bind]
  rfl

theorem shelf_resolve : pool.shelf.resolve = pool.resolve := by
  funext source
  cases source with
  | values source => rfl
  | vector name =>
      simp only [Shelf.resolve, resolve, shelf_listing?]
      cases pool.holding? name <;> rfl

theorem shelf_putBack (number : Nat) (holding : Holding) (typed : TypedStored) :
    (pool.putBack number holding typed).shelf = pool.shelf.put number typed.listing := by
  simp only [putBack, setAllocator, shelf, Shelf.put, Array.map_setIfInBounds]
  rfl

theorem shelf_put_self (number : Nat) (holding : Holding)
    (found : pool.holdings[number]? = some holding) :
    pool.shelf.put number holding.listing = pool.shelf := by
  obtain ⟨inside, rfl⟩ := Array.getElem?_eq_some_iff.mp found
  have same : (pool.holdings.setIfInBounds number pool.holdings[number]) = pool.holdings := by
    rw [Array.setIfInBounds, dif_pos inside, Array.set_getElem_self]
  simp only [Shelf.put, shelf, ← Array.map_setIfInBounds, same]

end Reading

/-! ### One request -/

section Step
variable (pool : Pool) (sound : pool.Sound)

/-- A request of one vector was answered as its listing answers, and left the other lists. -/
structure Serves (number : Nat) (answered : Except Error PoolReply × Pool)
    (listed : Except Error PoolReply × Listing) : Prop where
  reply : answered.1 = listed.1
  shelf : answered.2.shelf = pool.shelf.put number listed.2

theorem read_serves (number : Nat) (holding : Holding)
    (found : pool.holdings[number]? = some holding) (reply : Except Error PoolReply) :
    pool.Serves number (reply, pool) (reply, holding.listing) :=
  ⟨rfl, (shelf_put_self pool number holding found).symm⟩

theorem changed_serves (number : Nat) (holding : Holding) (reply : PoolReply)
    (outcome : TypedStored.Outcome Unit) (listed : Listing.Outcome)
    (answer : outcome.1 = listed.1) (listing : outcome.2.listing = listed.2) :
    pool.Serves number (pool.changed number holding reply outcome)
      (Listing.changed reply listed) := by
  constructor
  · simp only [changed, Listing.changed, answer]
  · simp only [changed, Listing.changed, shelf_putBack, listing]

theorem withSource_serves (number : Nat) (holding : Holding)
    (found : pool.holdings[number]? = some holding) (reply : PoolReply) (source : NamedSource)
    (use : Source → TypedStored.Outcome Unit) (listedUse : Source → Listing.Outcome)
    (agrees : ∀ values, pool.resolve source = .ok values →
      Agrees (pool.typedOf holding) (use values) (listedUse values)) :
    pool.Serves number (pool.withSource number holding reply source use)
      (holding.listing.withSource pool.shelf.resolve reply source listedUse) := by
  simp only [withSource, Listing.withSource, shelf_resolve]
  cases resolved : pool.resolve source with
  | error cause => exact read_serves pool number holding found (.error cause)
  | ok values =>
      have served := agrees values resolved
      exact changed_serves pool number holding reply _ _ served.answer served.listing

include sound in
theorem perform_serves (number : Nat) (holding : Holding)
    (found : pool.holdings[number]? = some holding) (action : VectorAction)
    (fits : ¬ pool.Overruns holding action) (listed : Except Error PoolReply × Listing)
    (performed : holding.listing.perform pool.shelf.resolve action = some listed) :
    pool.Serves number (pool.perform number holding action) listed := by
  have valid : WellFormed (pool.typedOf holding).stored.vector :=
    sound holding (Array.mem_of_getElem? found)
  have served {reply : PoolReply} {outcome : TypedStored.Outcome Unit} {listed : Listing.Outcome}
      (agrees : Agrees (pool.typedOf holding) outcome listed) :=
    changed_serves pool number holding reply outcome listed agrees.answer agrees.listing
  cases action with
  | append value =>
      obtain rfl := Option.some.inj performed
      exact served (TypedStored.append_agrees _ valid value)
  | appendRange start stop =>
      obtain rfl := Option.some.inj performed
      exact served (TypedStored.appendRange_agrees _ valid start stop)
  | extend source | extendInPlace source =>
      obtain rfl := Option.some.inj performed
      refine withSource_serves pool number holding found _ source _ _ fun values resolved => ?_
      refine TypedStored.extend_agrees _ valid values fun elements offered past => ?_
      exact fits ⟨source, values, elements, rfl, resolved, offered, past⟩
  | overwriteLeading source =>
      obtain rfl := Option.some.inj performed
      exact withSource_serves pool number holding found _ source _ _ fun values _ =>
        TypedStored.overwriteLeading_agrees _ valid values
  | get index =>
      obtain rfl := Option.some.inj performed
      have same : (pool.typedOf holding).get index = holding.listing.get index :=
        TypedStored.get_eq _ valid index
      simp only [perform, same]
      exact read_serves pool number holding found _
  | set index value =>
      obtain rfl := Option.some.inj performed
      exact served (TypedStored.set_agrees _ valid index value)
  | addTo index addend =>
      obtain rfl := Option.some.inj performed
      exact served (TypedStored.addTo_agrees _ valid index addend)
  | reverse =>
      obtain rfl := Option.some.inj performed
      exact served (TypedStored.reverse_agrees _ valid)
  | clear =>
      obtain rfl := Option.some.inj performed
      refine changed_serves pool number holding .done _ (.ok (), holding.listing.clear) rfl ?_
      simp only [TypedStored.listing, toList_clear]
      rfl
  | close =>
      obtain rfl := Option.some.inj performed
      exact served (TypedStored.close_agrees _ valid)
  | useAndClose =>
      obtain rfl := Option.some.inj performed
      have same : holding.listing.items.length = holding.vector.length := length_toList _ valid
      rw [same]
      exact served (TypedStored.close_agrees _ valid)
  | refuse | contains | count | reversed | elements | elementsAs =>
      obtain rfl := Option.some.inj performed
      exact read_serves pool number holding found _
  | slice | copyRange | indexOf | norm | describe => cases performed

include sound in
/-- An extension that spills is refused and leaves all lists, where the list is extended. -/
theorem perform_spilled (number : Nat) (holding : Holding)
    (found : pool.holdings[number]? = some holding) (action : VectorAction)
    (spills : pool.Overruns holding action) (listed : Except Error PoolReply × Listing)
    (performed : holding.listing.perform pool.shelf.resolve action = some listed) :
    (pool.perform number holding action).1 = .error .chunkPastBlock ∧
      (pool.perform number holding action).2.shelf = pool.shelf ∧ ∃ reply, listed.1 = .ok reply := by
  obtain ⟨source, values, elements, extension, resolved, offered, past⟩ := spills
  have valid : WellFormed (pool.typedOf holding).stored.vector :=
    sound holding (Array.mem_of_getElem? found)
  obtain ⟨refused, accepted⟩ :=
    TypedStored.extend_spilled (pool.typedOf holding) valid values elements offered past
  have spilled (reply : PoolReply) :
      (pool.withSource number holding reply source (pool.typedOf holding).extend).1 =
          .error .chunkPastBlock ∧
        (pool.withSource number holding reply source (pool.typedOf holding).extend).2.shelf =
          pool.shelf ∧
        (holding.listing.withSource pool.shelf.resolve reply source holding.listing.extend).1 =
          .ok reply := by
    simp only [withSource, resolved, changed, refused, shelf_putBack, Listing.withSource,
      shelf_resolve, Listing.changed]
    refine ⟨rfl, shelf_put_self pool number holding found, ?_⟩
    change (holding.listing.extend values).1 = .ok () at accepted
    rw [accepted]
    rfl
  cases action with
  | extend other | extendInPlace other =>
      obtain rfl := Option.some.inj performed
      obtain rfl := Option.some.inj extension
      exact ⟨(spilled _).1, (spilled _).2.1, _, (spilled _).2.2⟩
  | _ => cases extension

/-- Named requests that the lists know: with a vector of the name, its listing serves them. -/
theorem act_cases (name : String) (action : VectorAction) (reply : Except Error PoolReply)
    (next : Shelf) (listed : pool.shelf.act name action = some (reply, next)) :
    (∃ number holding served, pool.holdings[number]? = some holding ∧
        pool.holding? name = some holding ∧
        pool.run (.act name action) = pool.perform number holding action ∧
        holding.listing.perform pool.shelf.resolve action = some served ∧
        reply = served.1 ∧ next = pool.shelf.put number served.2) ∨
      (pool.holding? name = none ∧ pool.run (.act name action) = (.ok .missing, pool) ∧
        reply = .ok .missing ∧ next = pool.shelf) := by
  have sameNumber : pool.shelf.number? name = pool.holdingNumber? name := rfl
  simp only [Shelf.act, sameNumber, shelf_listing?] at listed
  simp only [run]
  cases named : pool.holdingNumber? name with
  | none =>
      have absent : pool.holding? name = none := by simp [holding?, named]
      simp only [named, absent, Option.map_none] at listed
      right
      cases Option.some.inj listed
      exact ⟨absent, by simp only, rfl, rfl⟩
  | some number =>
      cases held : pool.holding? name with
      | none =>
          simp only [named, held, Option.map_none] at listed
          right
          cases Option.some.inj listed
          exact ⟨rfl, rfl, rfl, rfl⟩
      | some holding =>
          have found : pool.holdings[number]? = some holding := by
            simpa [holding?, named] using held
          simp only [named, held, Option.map_some] at listed
          obtain ⟨served, performed, same⟩ := Option.map_eq_some_iff.mp listed
          left
          cases same
          exact ⟨number, holding, served, found, rfl, rfl, performed, rfl, rfl⟩

include sound in
theorem run_serves (name : String) (action : VectorAction) (fits : ¬ pool.Spills name action)
    (reply : Except Error PoolReply) (next : Shelf)
    (listed : pool.shelf.act name action = some (reply, next)) :
    (pool.run (.act name action)).1 = reply ∧ (pool.run (.act name action)).2.shelf = next := by
  rcases act_cases pool name action reply next listed with
    ⟨number, holding, served, found, held, ran, performed, rfl, rfl⟩ | ⟨_, ran, rfl, rfl⟩
  · have serves := perform_serves pool sound number holding found action
      (fun spills => fits ⟨holding, held, spills⟩) served performed
    rw [ran]
    exact ⟨serves.reply, serves.shelf⟩
  · rw [ran]
    exact ⟨rfl, rfl⟩

include sound in
theorem run_spilled (name : String) (action : VectorAction) (spills : pool.Spills name action)
    (reply : Except Error PoolReply) (next : Shelf)
    (listed : pool.shelf.act name action = some (reply, next)) :
    (pool.run (.act name action)).1 = .error .chunkPastBlock ∧
      (pool.run (.act name action)).2.shelf = pool.shelf ∧ ∃ answer, reply = .ok answer := by
  obtain ⟨holding, held, past⟩ := spills
  rcases act_cases pool name action reply next listed with
    ⟨number, other, served, found, heldOther, ran, performed, rfl, rfl⟩ | ⟨absent, _⟩
  · obtain rfl := Option.some.inj (held.symm.trans heldOther)
    rw [ran]
    exact perform_spilled pool sound number holding found action past served performed
  · exact absurd (held.symm.trans absent) (by simp)

include sound in
/-- Whatever is refused leaves all lists as they were. -/
theorem run_refused (name : String) (action : VectorAction) (cause : Error)
    (known : (pool.shelf.act name action).isSome = true)
    (refused : (pool.run (.act name action)).1 = .error cause) :
    (pool.run (.act name action)).2.shelf = pool.shelf := by
  obtain ⟨⟨reply, next⟩, listed⟩ := Option.isSome_iff_exists.mp known
  by_cases spills : pool.Spills name action
  · exact (run_spilled pool sound name action spills reply next listed).2.1
  · obtain ⟨same, left⟩ := run_serves pool sound name action spills reply next listed
    rw [left]
    rcases act_cases pool name action reply next listed with
      ⟨number, holding, served, found, _, _, performed, rfl, rfl⟩ | ⟨_, _, _, rfl⟩
    · -- The list was refused with the same cause, and a list that is refused stays.
      have refuses := Listing.perform_refuses _ _ action served performed
      rw [refuses cause (same.symm.trans refused), shelf_put_self pool number holding found]
    · rfl

include sound in
theorem run_sound (request : PoolRequest) : (pool.run request).2.Sound :=
  fun holding member => (run_keeps pool sound request holding member).1

include sound in
theorem not_spills_of_snug (snug : pool.Snug) (name : String) (action : VectorAction) :
    ¬ pool.Spills name action := by
  rintro ⟨holding, held, _, _, elements, _, _, _, spills⟩
  have member := mem_of_holding pool name holding held
  have valid := sound holding member
  exact not_spills_of_extendable holding.vector
    ⟨valid, snug holding member, spills.opened _ valid _⟩ elements.length spills

end Step

/-! ### Rows of requests -/

theorem spillFree_of_snug (pool : Pool) (sound : pool.Sound) (snug : pool.Snug)
    (requests : List (String × VectorAction))
    (keeps : ∀ request ∈ requests, request.2.forgets = false) : pool.SpillFree requests := by
  induction requests generalizing pool with
  | nil => trivial
  | cons request rest ih =>
      obtain ⟨name, action⟩ := request
      refine ⟨not_spills_of_snug pool sound snug name action, ?_⟩
      have kept := run_keeps pool sound (.act name action)
      have forgets := keeps (name, action) (by simp)
      exact ih _ (run_sound pool sound _) (fun holding member => (kept holding member).2 forgets snug)
        fun request member => keeps request (by simp [member])

/-- The replies and the last lists are those of the shelf exactly if nothing spills. -/
theorem acts_iff (pool : Pool) (sound : pool.Sound) (requests : List (String × VectorAction))
    (replies : List (Except Error PoolReply)) (last : Shelf)
    (listed : pool.shelf.acts requests = some (replies, last)) :
    ((pool.acts requests).1 = replies ∧ (pool.acts requests).2.shelf = last) ↔
      pool.SpillFree requests := by
  induction requests generalizing pool replies with
  | nil =>
      cases listed
      exact iff_of_true ⟨rfl, rfl⟩ trivial
  | cons request rest ih =>
      obtain ⟨name, action⟩ := request
      obtain ⟨⟨reply, next⟩, first, others⟩ := Option.bind_eq_some_iff.mp listed
      obtain ⟨⟨replies, last⟩, later, whole⟩ := Option.bind_eq_some_iff.mp others
      cases whole
      simp only [acts, SpillFree]
      by_cases spills : pool.Spills name action
      · -- The list accepts what the vector refuses, so the replies part here for good.
        obtain ⟨refused, _, answer, accepted⟩ := run_spilled pool sound name action spills _ _ first
        refine iff_of_false ?_ fun free => free.1 spills
        rintro ⟨same, _⟩
        rw [refused, accepted] at same
        cases (List.cons.inj same).1
      · obtain ⟨same, left⟩ := run_serves pool sound name action spills _ _ first
        have tail := ih _ (run_sound pool sound (.act name action)) _ (by rw [left]; exact later)
        rw [← tail, List.cons.injEq]
        simp [same, spills]

/-- Vectors are lists: requests made of any pool are answered as the lists answer them, and leave
what the lists are left with, up to the first extension that spills. That one is refused with all
lists as they were, as is whatever a list refuses; without a request that forgets there is none.
A closed vector is empty, and values of the own type of a vector are the items themselves. -/
theorem acts_as_lists (history : List PoolRequest) :
    (∀ requests replies last, (after history).shelf.acts requests = some (replies, last) →
      ((((after history).acts requests).1 = replies ∧
          ((after history).acts requests).2.shelf = last) ↔
        (after history).SpillFree requests)) ∧
    ((∀ request ∈ history, request.forgets = false) →
      ∀ requests, (∀ request ∈ requests, request.2.forgets = false) →
        (after history).SpillFree requests) ∧
    (∀ name action cause, ((after history).shelf.act name action).isSome = true →
      ((after history).run (.act name action)).1 = .error cause →
        ((after history).run (.act name action)).2.shelf = (after history).shelf) ∧
    (∀ holding ∈ (after history).holdings,
      holding.vector.length = holding.listing.items.length ∧
        (holding.vector.closed = true → holding.listing.items = [])) ∧
    ∀ type elements, (∀ element ∈ elements, Element.Own type element) →
      (Source.listed (elements.map Element.toDatum)).Offers type elements ∧
        (Source.elements elements).Offers type elements ∧
        ∀ element ∈ elements, Element.ofDatum type element.toDatum = .ok element := by
  have sound := after_sound history
  refine ⟨acts_iff _ sound, ?_, fun name action cause => run_refused _ sound name action cause,
    ?_, ?_⟩
  · intro keeps requests keepsToo
    exact spillFree_of_snug _ sound (after_snug history keeps) requests keepsToo
  · intro holding member
    exact ⟨(length_toList _ (sound holding member)).symm,
      toList_of_closed _ (sound holding member)⟩
  · intro type elements own
    exact ⟨Source.listed_offers type elements own, Source.elements_offers type elements own,
      fun element member => element.ofDatum_toDatum type (own element member)⟩

/-- A vector of whole numbers in blocks of two, from a first block of one. -/
def shortSegments : List PoolRequest :=
  [.newVector "a" ⟨.integer 2, .integer 1, .int64, none, .plain⟩]

/-- Three numbers, the same once more, and both turned around. -/
def doubledThree : List (String × VectorAction) :=
  [("a", .extend (.values (.listed [.integer 1, .integer 2, .integer 3]))),
    ("a", .extendInPlace (.vector "a")), ("a", .reverse), ("a", .elements),
    ("a", .get (.integer 6))]

theorem acts_as_lists_shortSegments :
    ((after shortSegments).acts doubledThree).1 = [.ok .done, .ok (.flag true), .ok .done,
        .ok (.values (([3, 2, 1, 3, 2, 1] : List Int).map .integer)),
        .error (.outOfBounds 6 6)] ∧
      ((after shortSegments).run (.act "a" (.get (.integer 0)))).2.shelf =
        (after shortSegments).shelf ∧
      (∀ holding ∈ (after (shortSegments ++ [.act "a" .close])).holdings,
        holding.listing.items = []) ∧
      (Source.elements [.whole 4]).Offers .int64 [.whole 4] := by
  obtain ⟨served, free, refused, _, offers⟩ := acts_as_lists shortSegments
  obtain ⟨_, _, _, emptied, _⟩ := acts_as_lists (shortSegments ++ [.act "a" .close])
  have listed : (after shortSegments).shelf.acts doubledThree = some
      ([.ok .done, .ok (.flag true), .ok .done,
        .ok (.values (([3, 2, 1, 3, 2, 1] : List Int).map .integer)), .error (.outOfBounds 6 6)],
      ⟨#[⟨.int64, ([3, 2, 1, 3, 2, 1] : List Int64).map .whole, false⟩], [("a", 0)]⟩) := by
    with_unfolding_all rfl
  have keeps : ∀ request ∈ shortSegments, request.forgets = false := by decide
  have keepsToo : ∀ request ∈ doubledThree, request.2.forgets = false := by decide
  have own : ∀ element ∈ [Element.whole 4], Element.Own .int64 element := by
    simp [Element.Own, Element.cast]
  refine ⟨((served _ _ _ listed).mpr (free keeps _ keepsToo)).1, ?_, ?_,
    (offers .int64 [.whole 4] own).2.1⟩
  · apply refused "a" (.get (.integer 0)) (.outOfBounds 0 0)
    · decide +kernel
    · with_unfolding_all rfl
  · intro holding member
    apply (emptied holding member).2
    have closed : ∀ holding ∈ (after (shortSegments ++ [.act "a" .close])).holdings,
        holding.vector.closed = true := by decide +kernel
    exact closed holding member

/-- Three numbers are forgotten, and as many new ones appended. -/
def forgottenThree : List (String × VectorAction) :=
  [("a", .extend (.values (.listed [.integer 1, .integer 2, .integer 3]))), ("a", .clear),
    ("a", .extend (.values (.listed [.integer 4, .integer 5, .integer 6]))), ("a", .elements)]

/-- The list takes them; the vector, with two blocks and none in use, refuses them. -/
theorem forgottenThree_refused :
    ((after shortSegments).shelf.acts forgottenThree).map Prod.fst =
        some [.ok .done, .ok .done, .ok .done,
          .ok (.values [.integer 4, .integer 5, .integer 6])] ∧
      ((after shortSegments).acts forgottenThree).1 =
        [.ok .done, .ok .done, .error .chunkPastBlock, .ok (.values [])] := by
  constructor
  · with_unfolding_all rfl
  · with_unfolding_all rfl

end Pool
end ConvexQP
