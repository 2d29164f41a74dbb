import ConvexQP.Proofs.Storage.Listing
import Mathlib.Data.List.Induction

/-!
Pools after any requests. Every vector in one is well formed, and as long as no request forgets
elements, all blocks but the last of every vector are in use.
-/
namespace ConvexQP
open SegmentedVector

def VectorAction.forgets : VectorAction → Bool
  | .clear => true
  | _ => false

def PoolRequest.forgets : PoolRequest → Bool
  | .act _ action => action.forgets
  | _ => false

namespace Pool

/-- The pool after a history of requests, whatever their answers were. -/
def after (history : List PoolRequest) : Pool :=
  history.foldl (fun pool request => (pool.run request).2) empty

def Sound (pool : Pool) : Prop := ∀ holding ∈ pool.holdings, WellFormed holding.vector

def Snug (pool : Pool) : Prop := ∀ holding ∈ pool.holdings, Compact holding.vector

/-- What a request owes to the pool it was made of. -/
def Keeps (pool : Pool) (forgets : Bool) (next : Pool) : Prop :=
  ∀ holding ∈ next.holdings,
    WellFormed holding.vector ∧ (forgets = false → pool.Snug → Compact holding.vector)

theorem mem_of_holding (pool : Pool) (name : String) (holding : Holding)
    (found : pool.holding? name = some holding) : holding ∈ pool.holdings := by
  obtain ⟨number, _, listed⟩ := Option.bind_eq_some_iff.mp found
  exact Array.mem_of_getElem? listed

section Requests
variable (pool : Pool) (sound : pool.Sound) (forgets : Bool)

include sound in
theorem same_keeps (next : Pool) (same : next.holdings = pool.holdings) :
    pool.Keeps forgets next := by
  intro holding member
  rw [same] at member
  exact ⟨sound holding member, fun _ snug => snug holding member⟩

include sound in
theorem addHolding_keeps (stocked : Pool) (same : stocked.holdings = pool.holdings) (number : Nat)
    (typed : TypedStored) (name : Option String) (ready : Extendable typed.stored.vector) :
    pool.Keeps forgets (stocked.addHolding number typed name) := by
  intro holding member
  have listed : holding ∈ pool.holdings.push ⟨typed.type, typed.stored.vector, number⟩ := by
    rw [← same]
    exact member
  rcases Array.mem_push.mp listed with earlier | rfl
  · exact same_keeps pool sound forgets pool rfl holding earlier
  · exact ⟨ready.valid, fun _ _ => ready.compact⟩

include sound in
theorem changed_keeps (number : Nat) (before : Holding) (reply : PoolReply)
    (outcome : TypedStored.Outcome Unit) (valid : WellFormed outcome.2.stored.vector)
    (compact : forgets = false → pool.Snug → Compact outcome.2.stored.vector) :
    pool.Keeps forgets (pool.changed number before reply outcome).2 := by
  intro holding member
  rcases Array.mem_or_eq_of_mem_setIfInBounds member with earlier | rfl
  · exact same_keeps pool sound forgets pool rfl holding earlier
  · exact ⟨valid, compact⟩

include sound in
theorem agreed_keeps (number : Nat) (before : Holding) (member : before ∈ pool.holdings)
    (reply : PoolReply) (outcome : TypedStored.Outcome Unit) (listed : Listing.Outcome)
    (agrees : Agrees (pool.typedOf before) outcome listed) :
    pool.Keeps forgets (pool.changed number before reply outcome).2 :=
  changed_keeps pool sound forgets number before reply outcome agrees.valid
    fun _ snug => agrees.compact (snug before member)

include sound in
theorem withSource_keeps (number : Nat) (before : Holding) (reply : PoolReply)
    (source : NamedSource) (use : Source → TypedStored.Outcome Unit)
    (kept : ∀ values, pool.Keeps forgets (pool.changed number before reply (use values)).2) :
    pool.Keeps forgets (pool.withSource number before reply source use).2 := by
  unfold withSource
  cases pool.resolve source with
  | error => exact same_keeps pool sound forgets pool rfl
  | ok values => exact kept values

/-- Also an extension that is refused leaves a sound vector: the one it found. -/
theorem extend_kept (typed : TypedStored) (valid : WellFormed typed.stored.vector)
    (source : Source) : WellFormed (typed.extend source).2.stored.vector ∧
      (Compact typed.stored.vector → Compact (typed.extend source).2.stored.vector) := by
  by_cases spills : ∃ elements, source.toAppend typed.type = .ok elements ∧
      typed.stored.vector.Spills elements.length
  · obtain ⟨elements, offered, past⟩ := spills
    rw [(TypedStored.extend_spilled typed valid source elements offered past).1]
    exact ⟨valid, id⟩
  · have agrees := TypedStored.extend_agrees typed valid source fun elements offered past =>
      spills ⟨elements, offered, past⟩
    exact ⟨agrees.valid, agrees.compact⟩

theorem extension_ready (stored : Stored Element) (items : List Element) :
    Extendable (stored.like.extend items).stored.vector :=
  (Stored.extend_spec _ items (Stored.new_extendable _ _ _ _)).2.1

theorem copyRange_copied (stored : Stored Element) (start stop : Int)
    (progress : Stored.Progress Element) (made : stored.copyRange start stop = .ok progress) :
    ∃ items, progress = stored.like.extend items := by
  simp only [Stored.copyRange] at made
  split at made
  · exact ⟨_, (Except.ok.inj made).symm⟩
  · cases made

/-- A slice that is made is a copy, of a range or of elements that were picked. -/
theorem slice_copied (stored : Stored Element) (slice : Slice)
    (progress : Stored.Progress Element) (made : stored.slice slice = .ok progress) :
    ∃ items, progress = stored.like.extend items := by
  obtain ⟨walk, _, made⟩ := bind_ok made
  split at made
  · exact copyRange_copied stored _ _ progress made
  · exact ⟨_, (Except.ok.inj made).symm⟩

/-- A slice that is made is kept, also if making it stopped on the way. -/
theorem keepSlice_made (parent : Holding) (into : Option String)
    (progress : Stored.Progress Element) : (pool.keepSlice parent into (.ok progress)).2 =
      pool.addHolding parent.allocator ⟨parent.type, progress.stored⟩ into := by
  unfold keepSlice
  cases failure : progress.failure <;> simp [failure]

include sound in
theorem keepSlice_keeps (parent : Holding) (into : Option String)
    (made : Except Error (Stored.Progress Element))
    (ready : ∀ progress, made = .ok progress → Extendable progress.stored.vector) :
    pool.Keeps forgets (pool.keepSlice parent into made).2 := by
  cases made with
  | error => exact same_keeps pool sound forgets pool rfl
  | ok progress =>
      rw [keepSlice_made]
      exact addHolding_keeps pool sound forgets pool rfl _ _ into (ready progress rfl)

include sound in
theorem perform_keeps (number : Nat) (before : Holding) (member : before ∈ pool.holdings)
    (action : VectorAction) :
    pool.Keeps action.forgets (pool.perform number before action).2 := by
  have valid : WellFormed (pool.typedOf before).stored.vector := sound before member
  have agreed := agreed_keeps pool sound action.forgets number before member
  have extended (reply : PoolReply) (source : NamedSource) : pool.Keeps action.forgets
      (pool.withSource number before reply source (pool.typedOf before).extend).2 :=
    withSource_keeps pool sound _ number before reply source _ fun values =>
      changed_keeps pool sound _ number before reply _
        (extend_kept (pool.typedOf before) valid values).1
        fun _ snug => (extend_kept (pool.typedOf before) valid values).2 (snug before member)
  cases action with
  | append value => exact agreed _ _ _ (TypedStored.append_agrees _ valid value)
  | appendRange start stop => exact agreed _ _ _ (TypedStored.appendRange_agrees _ valid start stop)
  | extend source | extendInPlace source => exact extended _ source
  | overwriteLeading source =>
      exact withSource_keeps pool sound _ number before _ source _ fun values =>
        agreed _ _ _ (TypedStored.overwriteLeading_agrees _ valid values)
  | set index value => exact agreed _ _ _ (TypedStored.set_agrees _ valid index value)
  | addTo index addend => exact agreed _ _ _ (TypedStored.addTo_agrees _ valid index addend)
  | reverse => exact agreed _ _ _ (TypedStored.reverse_agrees _ valid)
  | close | useAndClose => exact agreed _ _ _ (TypedStored.close_agrees _ valid)
  | clear =>
      -- The blocks stay while the elements go, so only this request may leave unused ones.
      exact changed_keeps pool sound _ number before _ _ (clear_wellFormed _ valid)
        fun keeps => absurd keeps (by simp [VectorAction.forgets])
  | slice start stop step into =>
      apply keepSlice_keeps pool sound
      intro progress made
      obtain ⟨first, _, bounded⟩ := bind_ok made
      obtain ⟨last, _, spaced⟩ := bind_ok bounded
      obtain ⟨stride, _, selected⟩ := bind_ok spaced
      obtain ⟨items, rfl⟩ := slice_copied _ ⟨first, last, stride⟩ progress selected
      exact extension_ready _ items
  | copyRange start stop into =>
      apply keepSlice_keeps pool sound
      intro progress made
      obtain ⟨first, _, bounded⟩ := bind_ok made
      obtain ⟨last, _, selected⟩ := bind_ok bounded
      obtain ⟨items, rfl⟩ := copyRange_copied _ first last progress selected
      exact extension_ready _ items
  | get | refuse | indexOf | contains | count | reversed | elements | elementsAs | norm
  | describe => exact same_keeps pool sound _ pool rfl

theorem chooseAllocator_holdings (request : VectorRequest) (stocked : Pool) (number : Nat)
    (chosen : pool.chooseAllocator request = .ok (stocked, number)) :
    stocked.holdings = pool.holdings := by
  unfold chooseAllocator at chosen
  extract_lets named at chosen
  split at chosen
  · cases chosen
  · cases chosen
  · cases chosen
    rfl
  · cases chosen
    rfl
  · cases chosen
    rfl

/-- A request for a new vector is refused and changes nothing, or a vector is added. It has no name
and no elements if its zeros are refused. -/
theorem newVector_cases (name : String) (request : VectorRequest) :
    (pool.newVector name request).2 = pool ∨
      ∃ stocked number capacities, pool.chooseAllocator request = .ok (stocked, number) ∧
        let fresh := TypedStored.new (stocked.allocators.getD number (Allocator.new .heap))
          capacities request.type
        (pool.newVector name request).2 = stocked.addHolding number fresh none ∨
          ∃ count, (pool.newVector name request).2 =
            stocked.addHolding number (fresh.extendBlank count).2 (some name) := by
  unfold newVector
  cases chosen : pool.chooseAllocator request with
  | error => exact .inl rfl
  | ok choice =>
      obtain ⟨stocked, number⟩ := choice
      cases capacitiesOf request with
      | error => exact .inl rfl
      | ok capacities =>
          refine .inr ⟨stocked, number, capacities, rfl, ?_⟩
          cases zerosOf request with
          | error => exact .inl rfl
          | ok count => exact .inr ⟨count, rfl⟩

include sound in
theorem newVector_keeps (name : String) (request : VectorRequest) :
    pool.Keeps false (pool.newVector name request).2 := by
  rcases newVector_cases pool name request with
    refused | ⟨stocked, number, capacities, chosen, added⟩
  · exact same_keeps pool sound false _ (congrArg holdings refused)
  · have same := chooseAllocator_holdings pool request stocked number chosen
    have fresh := Stored.new_extendable (stocked.allocators.getD number (Allocator.new .heap))
      capacities (Element.blank request.type) request.type.itemBytes
    rcases added with empty | ⟨count, filled⟩
    · rw [empty]
      exact addHolding_keeps pool sound false stocked same number _ none fresh
    · rw [filled]
      exact addHolding_keeps pool sound false stocked same number _ (some name)
        (Stored.extend_spec _ _ fresh).2.1

include sound in
theorem run_keeps (request : PoolRequest) :
    pool.Keeps request.forgets (pool.run request).2 := by
  cases request with
  | newAllocator name kind =>
      simp only [run, newAllocator]
      cases Allocator.ofName kind with
      | error => exact same_keeps pool sound false pool rfl
      | ok allocator => exact same_keeps pool sound false _ rfl
  | newVector name request => exact newVector_keeps pool sound name request
  | act name action =>
      simp only [run]
      split
      · rename_i number before _ found
        exact perform_keeps pool sound number before (mem_of_holding pool name before found) action
      · exact same_keeps pool sound action.forgets pool rfl

end Requests

theorem after_concat (history : List PoolRequest) (request : PoolRequest) :
    after (history ++ [request]) = ((after history).run request).2 := by
  simp only [after, List.foldl_append, List.foldl_cons, List.foldl_nil]

theorem after_sound (history : List PoolRequest) : (after history).Sound := by
  induction history using List.reverseRecOn with
  | nil => exact fun holding member => absurd member (Array.not_mem_empty holding)
  | append_singleton earlier request ih =>
      rw [after_concat]
      exact fun holding member => (run_keeps _ ih request holding member).1

/-- Without a request that forgets, no vector has blocks behind the one it ends in. -/
theorem after_snug (history : List PoolRequest)
    (keeps : ∀ request ∈ history, request.forgets = false) : (after history).Snug := by
  induction history using List.reverseRecOn with
  | nil => exact fun holding member => absurd member (Array.not_mem_empty holding)
  | append_singleton earlier request ih =>
      rw [after_concat]
      have snug := ih fun request member => keeps request (List.mem_append_left _ member)
      exact fun holding member => (run_keeps _ (after_sound earlier) request holding member).2
        (keeps request (by simp)) snug

end Pool
end ConvexQP
