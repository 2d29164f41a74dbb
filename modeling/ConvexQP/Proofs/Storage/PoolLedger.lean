import ConvexQP.Proofs.Storage.Histories
import ConvexQP.Proofs.Storage.Ledger

/-!
The books of a pool. Whatever was asked of its vectors, and whether it was served or refused, each
allocator is charged for the cells of the vectors that draw on it and for nothing else, and has as
many maps open as these have blocks. With the last vector closed, its books are empty.
-/
namespace ConvexQP
open SegmentedVector

/-- One summand is exchanged. -/
theorem exists_others {Value : Type} (weigh : Value → Nat) (values : List Value) (place : Nat)
    (before after : Value) (found : values[place]? = some before) :
    ∃ others, (values.map weigh).sum = weigh before + others ∧
      ((values.set place after).map weigh).sum = weigh after + others := by
  induction values generalizing place with
  | nil => simp at found
  | cons first rest ih =>
      cases place with
      | zero =>
          obtain rfl := Option.some.inj found
          exact ⟨(rest.map weigh).sum, by simp, by simp⟩
      | succ place =>
          obtain ⟨others, earlier, later⟩ := ih place found
          refine ⟨weigh first + others, ?_, ?_⟩
          · rw [List.map_cons, List.sum_cons, earlier]
            omega
          · rw [List.set_cons_succ, List.map_cons, List.sum_cons, later]
            omega

namespace Holding

/-- The bytes of a vector that was not closed. -/
def openBytes (holding : Holding) : Nat :=
  if holding.vector.closed then 0 else holding.vector.capacity * holding.type.itemBytes

def openBlocks (holding : Holding) : Nat :=
  if holding.vector.closed then 0 else holding.vector.blocks.size

end Holding

namespace Pool

/-- The sum over the vectors that draw on an allocator. -/
def sumOn (pool : Pool) (number : Nat) (weigh : Holding → Nat) : Nat :=
  (pool.holdings.toList.map fun holding =>
    if holding.allocator = number then weigh holding else 0).sum

/-- Each allocator is charged for the vectors that draw on it, and for nothing else. -/
structure Balanced (pool : Pool) : Prop where
  sound : pool.Sound
  itemBytes : ∀ holding ∈ pool.holdings, holding.vector.itemBytes = holding.type.itemBytes
  drawn : ∀ holding ∈ pool.holdings, holding.allocator < pool.allocators.size
  named : ∀ entry ∈ pool.allocatorNames, entry.2 < pool.allocators.size
  ledger : ∀ (number : Nat) (allocator : Allocator), pool.allocators[number]? = some allocator →
    allocator.Settled (pool.sumOn number (·.vector.charge))
      (pool.sumOn number (·.vector.blocks.size))

section Steps
variable (pool : Pool) (balanced : pool.Balanced)

theorem sumOn_push (number : Nat) (weigh : Holding → Nat) (holding : Holding) (next : Pool)
    (pushed : next.holdings = pool.holdings.push holding) :
    next.sumOn number weigh =
      (if holding.allocator = number then weigh holding else 0) + pool.sumOn number weigh := by
  simp only [sumOn, pushed, Array.toList_push, List.map_append, List.sum_append, List.map_cons,
    List.map_nil, List.sum_singleton]
  exact Nat.add_comm _ _

theorem sumOn_congr (number : Nat) (weigh other : Holding → Nat)
    (same : ∀ holding ∈ pool.holdings, weigh holding = other holding) :
    pool.sumOn number weigh = pool.sumOn number other := by
  apply congrArg List.sum
  apply List.map_congr_left
  intro holding listed
  simp only [same holding (Array.mem_toList_iff.mp listed)]

theorem sumOn_zero (number : Nat) : pool.sumOn number (fun _ => 0) = 0 := by
  simp [sumOn]

include balanced in
/-- Nothing is drawn from an allocator that there is not. -/
theorem sumOn_unused (number : Nat) (weigh : Holding → Nat)
    (unused : pool.allocators.size ≤ number) : pool.sumOn number weigh = 0 := by
  apply List.sum_eq_zero_iff_forall_eq_nat.mpr
  intro summand member
  obtain ⟨holding, listed, rfl⟩ := List.mem_map.mp member
  have inside := balanced.drawn holding (Array.mem_toList_iff.mp listed)
  rw [if_neg (by omega)]

include balanced in
theorem allocatorOf_settled (holding : Holding) (member : holding ∈ pool.holdings) :
    (pool.allocatorOf holding).Settled (pool.sumOn holding.allocator (·.vector.charge))
      (pool.sumOn holding.allocator (·.vector.blocks.size)) := by
  have inside := balanced.drawn holding member
  have found := Array.getElem?_eq_getElem inside
  rw [allocatorOf, Array.getD_eq_getD_getElem?, found]
  exact balanced.ledger _ _ found

include balanced in
theorem putBack_balanced (number : Nat) (holding : Holding)
    (found : pool.holdings[number]? = some holding) (typed : TypedStored)
    (valid : WellFormed typed.stored.vector)
    (balances : (pool.typedOf holding).Balances typed) :
    (pool.putBack number holding typed).Balanced := by
  have member := Array.mem_of_getElem? found
  have cases {other : Holding} (listed : other ∈ (pool.putBack number holding typed).holdings) :
      other ∈ pool.holdings ∨ other = ⟨typed.type, typed.stored.vector, holding.allocator⟩ :=
    Array.mem_or_eq_of_mem_setIfInBounds listed
  have size : (pool.putBack number holding typed).allocators.size = pool.allocators.size :=
    Array.size_setIfInBounds
  refine ⟨?_, ?_, ?_, ?_, ?_⟩
  · intro other listed
    rcases cases listed with earlier | rfl
    · exact balanced.sound other earlier
    · exact valid
  · intro other listed
    rcases cases listed with earlier | rfl
    · exact balanced.itemBytes other earlier
    · exact balances.stored.itemBytes.trans
        ((balanced.itemBytes holding member).trans (by rw [balances.type]; rfl))
  · intro other listed
    rw [size]
    rcases cases listed with earlier | rfl
    · exact balanced.drawn other earlier
    · exact balanced.drawn holding member
  · intro entry listed
    rw [size]
    exact balanced.named entry listed
  · intro place allocator placed
    have inside := balanced.drawn holding member
    have exchanged (weigh : Holding → Nat) := exists_others
      (fun other => if other.allocator = place then weigh other else 0) pool.holdings.toList number
      holding ⟨typed.type, typed.stored.vector, holding.allocator⟩ (by simpa using found)
    have after (weigh : Holding → Nat) : (pool.putBack number holding typed).sumOn place weigh =
        ((pool.holdings.toList.set number
          ⟨typed.type, typed.stored.vector, holding.allocator⟩).map fun other =>
            if other.allocator = place then weigh other else 0).sum := by
      simp only [sumOn, putBack, setAllocator, Array.toList_setIfInBounds]
    obtain ⟨bytes, bytesBefore, bytesAfter⟩ := exchanged (·.vector.charge)
    obtain ⟨blocks, blocksBefore, blocksAfter⟩ := exchanged (·.vector.blocks.size)
    rw [after, after, bytesAfter, blocksAfter]
    simp only [putBack, setAllocator, Array.getElem?_setIfInBounds] at placed
    by_cases same : holding.allocator = place
    · subst same
      have settled := allocatorOf_settled pool balanced holding member
      simp only [if_true, inside, Option.some.injEq] at placed bytesBefore blocksBefore ⊢
      simp only [sumOn, bytesBefore, blocksBefore] at settled
      rw [← placed]
      exact balances.stored.ledger bytes blocks settled
    · simp only [same, if_false] at placed bytesBefore blocksBefore ⊢
      have settled := balanced.ledger place allocator placed
      simpa only [sumOn, bytesBefore, blocksBefore] using settled

include balanced in
theorem changed_balanced (number : Nat) (holding : Holding)
    (found : pool.holdings[number]? = some holding) (reply : PoolReply)
    (outcome : TypedStored.Outcome Unit) (valid : WellFormed outcome.2.stored.vector)
    (balances : (pool.typedOf holding).Balances outcome.2) :
    (pool.changed number holding reply outcome).2.Balanced :=
  putBack_balanced pool balanced number holding found outcome.2 valid balances

include balanced in
/-- A new allocator owes nothing, and no vector draws on it yet. -/
theorem addAllocator_balanced (kind : AllocatorKind) :
    (pool.addAllocator (Allocator.new kind)).1.Balanced := by
  have size : (pool.addAllocator (Allocator.new kind)).1.allocators.size =
      pool.allocators.size + 1 := Array.size_push _
  refine ⟨balanced.sound, balanced.itemBytes, ?_, ?_, ?_⟩
  · intro holding member
    rw [size]
    exact Nat.lt_succ_of_lt (balanced.drawn holding member)
  · intro entry member
    rw [size]
    exact Nat.lt_succ_of_lt (balanced.named entry member)
  · intro place allocator placed
    change (pool.allocators.push (Allocator.new kind))[place]? = some allocator at placed
    change allocator.Settled (pool.sumOn place (·.vector.charge))
      (pool.sumOn place (·.vector.blocks.size))
    by_cases last : place = pool.allocators.size
    · subst last
      rw [sumOn_unused pool balanced _ _ (Nat.le_refl _),
        sumOn_unused pool balanced _ _ (Nat.le_refl _)]
      obtain rfl := Option.some.inj (Array.getElem?_push_size.symm.trans placed)
      exact Allocator.new_settled kind
    · rw [Array.getElem?_push, if_neg last] at placed
      exact balanced.ledger place allocator placed

include balanced in
theorem addHolding_balanced (number : Nat) (allocator : Allocator)
    (found : pool.allocators[number]? = some allocator) (typed : TypedStored)
    (name : Option String) (valid : WellFormed typed.stored.vector)
    (itemBytes : typed.stored.vector.itemBytes = typed.type.itemBytes)
    (draws : Stored.Draws allocator typed.stored) :
    (pool.addHolding number typed name).Balanced := by
  have cases {other : Holding} (listed : other ∈ (pool.addHolding number typed name).holdings) :
      other ∈ pool.holdings ∨ other = ⟨typed.type, typed.stored.vector, number⟩ :=
    Array.mem_push.mp listed
  have size : (pool.addHolding number typed name).allocators.size = pool.allocators.size :=
    Array.size_setIfInBounds
  have inside := (Array.getElem?_eq_some_iff.mp found).1
  refine ⟨?_, ?_, ?_, ?_, ?_⟩
  · intro other listed
    rcases cases listed with earlier | rfl
    · exact balanced.sound other earlier
    · exact valid
  · intro other listed
    rcases cases listed with earlier | rfl
    · exact balanced.itemBytes other earlier
    · exact itemBytes
  · intro other listed
    rw [size]
    rcases cases listed with earlier | rfl
    · exact balanced.drawn other earlier
    · exact inside
  · intro entry listed
    rw [size]
    exact balanced.named entry listed
  · intro place other placed
    have sums (weigh : Holding → Nat) :=
      sumOn_push pool place weigh ⟨typed.type, typed.stored.vector, number⟩
        (pool.addHolding number typed name) rfl
    rw [sums, sums]
    change (pool.allocators.setIfInBounds number typed.stored.allocator)[place]? = some other
      at placed
    rw [Array.getElem?_setIfInBounds] at placed
    by_cases same : number = place
    · subst same
      simp only [if_true, inside, Option.some.injEq] at placed ⊢
      rw [← placed]
      exact draws _ _ (balanced.ledger number allocator found)
    · simp only [same, if_false, Nat.zero_add] at placed ⊢
      exact balanced.ledger place other placed

/-! ### Fresh vectors -/

include balanced in
theorem like_draws (holding : Holding) (member : holding ∈ pool.holdings)
    (items : List Element) :
    Stored.Draws (pool.allocatorOf holding)
        ((pool.typedOf holding).stored.like.extend items).stored ∧
      ((pool.typedOf holding).stored.like.extend items).stored.vector.itemBytes =
        holding.type.itemBytes := by
  have fresh := Stored.new_extendable (pool.allocatorOf holding) holding.vector.capacities
    holding.vector.blank holding.vector.itemBytes
  have extended := Stored.extend_balances _ items fresh.valid
  exact ⟨(Stored.new_draws _ _ _ _).balances extended,
    extended.itemBytes.trans (balanced.itemBytes holding member)⟩

include balanced in
theorem keepSlice_balanced (holding : Holding) (member : holding ∈ pool.holdings)
    (into : Option String) (made : Except Error (Stored.Progress Element))
    (copied : ∀ progress, made = .ok progress →
      ∃ items, progress = (pool.typedOf holding).stored.like.extend items) :
    (pool.keepSlice holding into made).2.Balanced := by
  cases made with
  | error => exact balanced
  | ok progress =>
      obtain ⟨items, rfl⟩ := copied progress rfl
      have inside := balanced.drawn holding member
      have found := Array.getElem?_eq_getElem inside
      obtain ⟨draws, itemBytes⟩ := like_draws pool balanced holding member items
      rw [allocatorOf, Array.getD_eq_getD_getElem?, found] at draws
      rw [keepSlice_made]
      exact addHolding_balanced pool balanced _ _ found _ into
        (extension_ready _ items).valid itemBytes draws

/-! ### Requests -/

include balanced in
theorem withSource_balanced (number : Nat) (holding : Holding) (reply : PoolReply)
    (source : NamedSource) (use : Source → TypedStored.Outcome Unit)
    (kept : ∀ values, (pool.changed number holding reply (use values)).2.Balanced) :
    (pool.withSource number holding reply source use).2.Balanced := by
  unfold withSource
  cases pool.resolve source with
  | error => exact balanced
  | ok values => exact kept values

include balanced in
/-- A request keeps the books whether it is served, refused, or refused half-way. -/
theorem perform_balanced (number : Nat) (holding : Holding)
    (found : pool.holdings[number]? = some holding) (action : VectorAction) :
    (pool.perform number holding action).2.Balanced := by
  have member := Array.mem_of_getElem? found
  have valid : WellFormed (pool.typedOf holding).stored.vector := balanced.sound holding member
  have agreed (reply : PoolReply) {outcome : TypedStored.Outcome Unit} {listed : Listing.Outcome}
      (agrees : Agrees (pool.typedOf holding) outcome listed)
      (balances : (pool.typedOf holding).Balances outcome.2) :=
    changed_balanced pool balanced number holding found reply outcome agrees.valid balances
  have extended (reply : PoolReply) (source : NamedSource) :
      (pool.withSource number holding reply source (pool.typedOf holding).extend).2.Balanced :=
    withSource_balanced pool balanced number holding reply source _ fun values =>
      changed_balanced pool balanced number holding found reply _
        (extend_kept _ valid values).1 (TypedStored.extend_balances _ valid values)
  cases action with
  | append value =>
      exact agreed _ (TypedStored.append_agrees _ valid value)
        (TypedStored.append_balances _ valid value)
  | appendRange start stop =>
      exact agreed _ (TypedStored.appendRange_agrees _ valid start stop)
        ⟨rfl, Stored.appendAll_balances _ _ valid⟩
  | extend source | extendInPlace source => exact extended _ source
  | overwriteLeading source =>
      exact withSource_balanced pool balanced number holding _ source _ fun values =>
        agreed _ (TypedStored.overwriteLeading_agrees _ valid values)
          (TypedStored.change_balances _ _ fun vector =>
            TypedStored.overwrite_retouched _ vector holding.type values valid)
  | set index value =>
      exact agreed _ (TypedStored.set_agrees _ valid index value)
        (TypedStored.change_balances _ _ fun vector =>
          TypedStored.replaced_retouched _ vector index _ valid)
  | addTo index addend =>
      exact agreed _ (TypedStored.addTo_agrees _ valid index addend)
        (TypedStored.change_balances _ _ fun vector =>
          TypedStored.replaced_retouched _ vector index
            (fun place => (holding.vector.read place).plus holding.type addend) valid)
  | reverse =>
      obtain ⟨rewritten, _⟩ := reverse_spec holding.vector valid
      obtain ⟨blocks, frame⟩ := rewritten.frame
      exact agreed _ (TypedStored.reverse_agrees _ valid)
        ⟨rfl, Stored.Balances.rewritten _ _ rewritten.shape ⟨blocks, _, frame⟩⟩
  | clear =>
      exact changed_balanced pool balanced number holding found _ _ (clear_wellFormed _ valid)
        ⟨rfl, Stored.Balances.rewritten _ _ rfl ⟨_, 0, rfl⟩⟩
  | close | useAndClose =>
      exact agreed _ (TypedStored.close_agrees _ valid) ⟨rfl, Stored.close_balances _ valid⟩
  | slice start stop step into =>
      apply keepSlice_balanced pool balanced holding member
      intro progress made
      obtain ⟨first, _, bounded⟩ := bind_ok made
      obtain ⟨last, _, spaced⟩ := bind_ok bounded
      obtain ⟨stride, _, selected⟩ := bind_ok spaced
      exact slice_copied _ ⟨first, last, stride⟩ progress selected
  | copyRange start stop into =>
      apply keepSlice_balanced pool balanced holding member
      intro progress made
      obtain ⟨first, _, bounded⟩ := bind_ok made
      obtain ⟨last, _, selected⟩ := bind_ok bounded
      exact copyRange_copied _ first last progress selected
  | get | refuse | indexOf | contains | count | reversed | elements | elementsAs | norm
  | describe => exact balanced

include balanced in
theorem chooseAllocator_balanced (request : VectorRequest) (stocked : Pool) (number : Nat)
    (chosen : pool.chooseAllocator request = .ok (stocked, number)) :
    stocked.Balanced ∧ number < stocked.allocators.size := by
  have added (kind : AllocatorKind) : (pool.addAllocator (Allocator.new kind)).1.Balanced ∧
      pool.allocators.size < (pool.addAllocator (Allocator.new kind)).1.allocators.size :=
    ⟨addAllocator_balanced pool balanced kind, by simp [addAllocator]⟩
  unfold chooseAllocator at chosen
  extract_lets named at chosen
  split at chosen
  · cases chosen
  · cases chosen
  · cases chosen
    exact added .mapped
  · cases chosen
    rename_i found
    obtain ⟨name, _, entry⟩ := Option.bind_eq_some_iff.mp found
    obtain ⟨front, back, names, _⟩ := List.lookup_eq_some_iff.mp entry
    exact ⟨balanced, balanced.named (name, number) (by simp [names])⟩
  · cases chosen
    exact added .heap

include balanced in
theorem newVector_balanced (name : String) (request : VectorRequest) :
    (pool.newVector name request).2.Balanced := by
  rcases newVector_cases pool name request with
    refused | ⟨stocked, number, capacities, chosen, added⟩
  · rw [refused]
    exact balanced
  · obtain ⟨stockedBalanced, inside⟩ :=
      chooseAllocator_balanced pool balanced request stocked number chosen
    have found := Array.getElem?_eq_getElem inside
    have fresh := Stored.new_extendable stocked.allocators[number] capacities
      (Element.blank request.type) request.type.itemBytes
    have draws := Stored.new_draws stocked.allocators[number] capacities
      (Element.blank request.type) request.type.itemBytes
    simp only [Array.getD_eq_getD_getElem?, found, Option.getD_some] at added
    rcases added with empty | ⟨count, filled⟩
    · rw [empty]
      exact addHolding_balanced stocked stockedBalanced number _ found _ none fresh.valid rfl draws
    · rw [filled]
      have extended := Stored.extend_balances _
        (List.replicate count (Element.blank request.type)) fresh.valid
      exact addHolding_balanced stocked stockedBalanced number _ found _ (some name)
        (Stored.extend_spec _ _ fresh).2.1.valid extended.itemBytes (draws.balances extended)

include balanced in
theorem run_balanced (request : PoolRequest) : (pool.run request).2.Balanced := by
  cases request with
  | newAllocator name kind =>
      simp only [run, newAllocator, Allocator.ofName]
      cases AllocatorKind.ofName? kind with
      | none => exact balanced
      | some kind =>
          have added := addAllocator_balanced pool balanced kind
          refine ⟨added.sound, added.itemBytes, added.drawn, ?_, added.ledger⟩
          intro entry listed
          rcases List.mem_cons.mp listed with rfl | earlier
          · simp [addAllocator]
          · exact added.named entry earlier
  | newVector name request => exact newVector_balanced pool balanced name request
  | act name action =>
      simp only [run]
      split
      · rename_i number holding numbered found
        rw [holding?, numbered, Option.bind_some] at found
        exact perform_balanced pool balanced number holding found action
      · exact balanced

end Steps

/-- Pools that come about by requests, and by requests of vectors that have no name (any more). -/
inductive Reached : Pool → Prop where
  | empty : Reached empty
  | served (pool : Pool) (request : PoolRequest) (reached : Reached pool) :
      Reached (pool.run request).2
  | acted (pool : Pool) (number : Nat) (holding : Holding) (action : VectorAction)
      (reached : Reached pool) (found : pool.holdings[number]? = some holding) :
      Reached (pool.perform number holding action).2

theorem Reached.balanced (pool : Pool) (reached : Reached pool) : pool.Balanced := by
  induction reached with
  | empty =>
      refine ⟨?_, ?_, ?_, ?_, ?_⟩
      · intro holding member
        exact absurd member (Array.not_mem_empty holding)
      · intro holding member
        exact absurd member (Array.not_mem_empty holding)
      · intro holding member
        exact absurd member (Array.not_mem_empty holding)
      · intro entry member
        exact absurd member (List.not_mem_nil)
      · intro number allocator found
        simp [Pool.empty] at found
  | served pool request _ ih => exact run_balanced pool ih request
  | acted pool number holding action _ found ih =>
      exact perform_balanced pool ih number holding found action

/-! ### Closing -/

/-- Closes vectors by their numbers, one after the other. -/
def closeAll (pool : Pool) : List Nat → Pool
  | [] => pool
  | number :: rest =>
    match pool.holdings[number]? with
    | some holding => (pool.perform number holding .close).2.closeAll rest
    | none => pool.closeAll rest

def ClosedAt (pool : Pool) (number : Nat) : Prop :=
  ∀ holding, pool.holdings[number]? = some holding → holding.vector.closed = true

section Closing
variable (pool : Pool) (balanced : pool.Balanced)

theorem close_closedAt (sound : pool.Sound) (number : Nat) (holding : Holding)
    (found : pool.holdings[number]? = some holding) (place : Nat)
    (closed : place = number ∨ pool.ClosedAt place) :
    (pool.perform number holding .close).2.ClosedAt place := by
  intro other listed
  have valid : WellFormed (pool.typedOf holding).stored.vector :=
    sound holding (Array.mem_of_getElem? found)
  have ended := (Stored.close_spec _ valid).2.1
  change (pool.holdings.setIfInBounds number ⟨holding.type,
    (pool.typedOf holding).stored.close.vector, holding.allocator⟩)[place]? = some other at listed
  rw [Array.getElem?_setIfInBounds] at listed
  have inside := (Array.getElem?_eq_some_iff.mp found).1
  by_cases same : number = place
  · subst same
    simp only [if_true, inside, Option.some.injEq] at listed
    rw [← listed]
    exact ended
  · rw [if_neg same] at listed
    rcases closed with rfl | earlier
    · exact absurd rfl same
    · exact earlier other listed

include balanced in
/-- In any order, and as often as one likes: a vector that had its turn is closed. -/
theorem closeAll_closedAt (closing : List Nat) (place : Nat)
    (closed : place ∈ closing ∨ pool.ClosedAt place) :
    (pool.closeAll closing).Balanced ∧ (pool.closeAll closing).ClosedAt place := by
  induction closing generalizing pool with
  | nil => exact ⟨balanced, closed.resolve_left List.not_mem_nil⟩
  | cons number rest ih =>
      unfold closeAll
      cases found : pool.holdings[number]? with
      | none =>
          apply ih pool balanced
          rcases closed with listed | earlier
          · rcases List.mem_cons.mp listed with rfl | later
            · right
              intro holding held
              exact absurd (found.symm.trans held) (by simp)
            · exact .inl later
          · exact .inr earlier
      | some holding =>
          apply ih _ (perform_balanced pool balanced number holding found .close)
          rcases closed with listed | earlier
          · rcases List.mem_cons.mp listed with rfl | later
            · exact .inr (close_closedAt pool balanced.sound _ holding found _ (.inl rfl))
            · exact .inl later
          · exact .inr (close_closedAt pool balanced.sound _ holding found _ (.inr earlier))

include balanced in
/-- Closed vectors have no cells and no blocks, so only the open ones count. -/
theorem sumOn_open (number : Nat) :
    pool.sumOn number (·.vector.charge) = pool.sumOn number Holding.openBytes ∧
      pool.sumOn number (·.vector.blocks.size) = pool.sumOn number Holding.openBlocks := by
  have each (holding : Holding) (member : holding ∈ pool.holdings) :
      holding.vector.charge = holding.openBytes ∧
        holding.vector.blocks.size = holding.openBlocks := by
    unfold Holding.openBytes Holding.openBlocks
    cases closed : holding.vector.closed with
    | true => exact charge_of_closed _ (balanced.sound holding member) closed
    | false =>
        simp only [charge, balanced.itemBytes holding member]
        exact ⟨rfl, rfl⟩
  constructor
  · exact sumOn_congr pool number _ _ fun holding member => (each holding member).1
  · exact sumOn_congr pool number _ _ fun holding member => (each holding member).2

include balanced in
theorem ledger_open (number : Nat) (allocator : Allocator)
    (found : pool.allocators[number]? = some allocator) :
    allocator.liveBytes = pool.sumOn number Holding.openBytes ∧ allocator.retiredMaps = 0 ∧
      allocator.openMaps =
        if allocator.kind = .mapped then pool.sumOn number Holding.openBlocks else 0 := by
  obtain ⟨⟨liveBytes, liveMaps⟩, collected⟩ := balanced.ledger number allocator found
  obtain ⟨bytes, blocks⟩ := sumOn_open pool balanced number
  rw [bytes] at liveBytes
  rw [blocks] at liveMaps
  exact ⟨liveBytes, collected, by rw [Allocator.openMaps, collected, liveMaps, Nat.add_zero]⟩

end Closing

/-- After every request the books of each allocator are those of its open vectors, and closing all
vectors empties them. -/
theorem ledger_of_reached (pool : Pool) (reached : pool.Reached) :
    (∀ (number : Nat) (allocator : Allocator), pool.allocators[number]? = some allocator →
      allocator.liveBytes = pool.sumOn number Holding.openBytes ∧
        (allocator.kind = .mapped → allocator.retiredMaps = 0 ∧
          allocator.openMaps = pool.sumOn number Holding.openBlocks)) ∧
      ∀ closing : List Nat, (∀ number < pool.holdings.size, number ∈ closing) →
        ∀ allocator ∈ (pool.closeAll closing).allocators,
          allocator.liveBytes = 0 ∧ allocator.openMaps = 0 := by
  have balanced := reached.balanced
  constructor
  · intro number allocator found
    obtain ⟨liveBytes, collected, openMaps⟩ := ledger_open pool balanced number allocator found
    refine ⟨liveBytes, fun mapped => ⟨collected, ?_⟩⟩
    rw [openMaps, if_pos mapped]
  · intro closing all allocator member
    obtain ⟨number, found⟩ := Array.mem_iff_getElem?.mp member
    have ended (place : Nat) :
        (pool.closeAll closing).Balanced ∧ (pool.closeAll closing).ClosedAt place := by
      apply closeAll_closedAt pool balanced closing place
      by_cases inside : place < pool.holdings.size
      · exact .inl (all place inside)
      · right
        intro holding held
        exact absurd (Array.getElem?_eq_some_iff.mp held).1 inside
    obtain ⟨liveBytes, _, openMaps⟩ :=
      ledger_open _ (ended 0).1 number allocator found
    have closed (holding : Holding) (held : holding ∈ (pool.closeAll closing).holdings) :
        holding.vector.closed = true := by
      obtain ⟨place, placed⟩ := Array.mem_iff_getElem?.mp held
      exact (ended place).2 holding placed
    have bytes := sumOn_congr (pool.closeAll closing) number Holding.openBytes _
      fun holding held => if_pos (closed holding held)
    have blocks := sumOn_congr (pool.closeAll closing) number Holding.openBlocks _
      fun holding held => if_pos (closed holding held)
    rw [bytes, sumOn_zero] at liveBytes
    rw [blocks, sumOn_zero, ite_self] at openMaps
    exact ⟨liveBytes, openMaps⟩

/-- Two vectors share an allocator of maps. One has grown to three segments and was sliced, the
slice has no name; the other was refused a value when it had made room for it. -/
def sharedMaps : List PoolRequest :=
  [.newAllocator "maps" "mmap",
    .newVector "a" ⟨.integer 2, .integer 1, .int64, some "maps", .plain⟩,
    .newVector "b" ⟨.integer 4, .integer 1, .complex128, some "maps", .plain⟩,
    .act "a" (.extend (.values (.listed (List.replicate 5 (.integer 7))))),
    .act "a" (.slice (.integer 1) (.integer 4) .absent none),
    .act "b" (.append (.integer 1)),
    .act "b" (.append (.text "one"))]

theorem after_reached (history : List PoolRequest) : (after history).Reached := by
  induction history using List.reverseRecOn with
  | nil => exact .empty
  | append_singleton earlier request ih =>
      rw [after_concat]
      exact .served _ request ih

theorem ledger_of_reached_sharedMaps :
    (∃ allocator : Allocator, (after sharedMaps).allocators[0]? = some allocator ∧
      allocator.liveBytes = 112 ∧ allocator.retiredMaps = 0 ∧ allocator.openMaps = 6) ∧
      ∀ allocator ∈ ((after sharedMaps).closeAll [2, 0, 1, 0]).allocators,
        allocator.liveBytes = 0 ∧ allocator.openMaps = 0 := by
  obtain ⟨books, ended⟩ := ledger_of_reached (after sharedMaps) (after_reached sharedMaps)
  have one : (after sharedMaps).allocators[0]? = some ⟨.mapped, 112, 6, 0⟩ := by
    with_unfolding_all rfl
  have bytes : (after sharedMaps).sumOn 0 Holding.openBytes = 112 := by with_unfolding_all rfl
  have blocks : (after sharedMaps).sumOn 0 Holding.openBlocks = 6 := by with_unfolding_all rfl
  have three : (after sharedMaps).holdings.size = 3 := by with_unfolding_all rfl
  obtain ⟨liveBytes, maps⟩ := books 0 _ one
  obtain ⟨collected, openMaps⟩ := maps rfl
  refine ⟨⟨_, one, by rw [liveBytes, bytes]; rfl, collected, openMaps.trans blocks⟩, ?_⟩
  apply ended
  rw [three]
  decide

end Pool
end ConvexQP
