import ConvexQP.Storage.TypedVector

/-!
Named vectors over named allocators, and the requests one can make of them. Several vectors may
share an allocator; slices share the one of their parent and stay in the pool even when nothing
names them.
-/
namespace ConvexQP

structure Holding where
  type : ElementType
  vector : SegmentedVector Element
  allocator : Nat

structure Pool where
  allocators : Array Allocator
  allocatorNames : List (String × Nat)
  holdings : Array Holding
  holdingNames : List (String × Nat)

/-- How a new vector gets its allocator and its first elements. -/
inductive Origin where
  | plain
  | ownHeap
  | ownMaps
  | zeros (count : Datum)

structure VectorRequest where
  segment : Datum
  initial : Datum
  type : ElementType
  allocator : Option String
  origin : Origin

/-- A source whose values may come from another vector of the pool. -/
inductive NamedSource where
  | values (source : Source)
  | vector (name : String)

inductive VectorAction where
  | append (value : Datum)
  | appendRange (start stop : Int)
  | extend (source : NamedSource)
  | extendInPlace (source : NamedSource)
  | overwriteLeading (source : NamedSource)
  | get (index : Datum)
  | set (index value : Datum)
  | addTo (index addend : Datum)
  | slice (start stop step : Datum) (into : Option String)
  | copyRange (start stop : Datum) (into : Option String)
  | refuse (operation : String)
  | indexOf (value start stop : Datum)
  | contains (value : Datum)
  | count (value : Datum)
  | reversed
  | elements
  | reverse
  | elementsAs (type : Option ElementType)
  | norm
  | describe
  | clear
  | close
  | useAndClose

inductive PoolRequest where
  | newAllocator (name : String) (kind : String)
  | newVector (name : String) (request : VectorRequest)
  | act (name : String) (action : VectorAction)

/-- What a slice shows of itself. -/
structure SliceReport where
  elements : List Datum
  capacity : Nat
  segmented : Bool
  sharesAllocator : Bool

inductive PoolReply where
  | done
  | missing
  | value (datum : Datum)
  | values (items : List Datum)
  | flag (answer : Bool)
  | number (count : Int)
  | text (line : String)
  | length (root : Float)
  | slice (report : SliceReport)
  | closedAfter (length : Nat)

namespace Pool

def empty : Pool := ⟨#[], [], #[], []⟩

def holdingNumber? (pool : Pool) (name : String) : Option Nat := pool.holdingNames.lookup name

def holding? (pool : Pool) (name : String) : Option Holding :=
  (pool.holdingNumber? name).bind fun number => pool.holdings[number]?

def allocatorOf (pool : Pool) (holding : Holding) : Allocator :=
  pool.allocators.getD holding.allocator (Allocator.new .heap)

def typedOf (pool : Pool) (holding : Holding) : TypedStored :=
  ⟨holding.type, pool.allocatorOf holding, holding.vector⟩

def addAllocator (pool : Pool) (allocator : Allocator) : Pool × Nat :=
  ({ pool with allocators := pool.allocators.push allocator }, pool.allocators.size)

def setAllocator (pool : Pool) (number : Nat) (allocator : Allocator) : Pool :=
  { pool with allocators := pool.allocators.setIfInBounds number allocator }

def addHolding (pool : Pool) (number : Nat) (typed : TypedStored) (name : Option String) : Pool :=
  let stocked := pool.setAllocator number typed.stored.allocator
  let names := match name with
    | some name => (name, stocked.holdings.size) :: stocked.holdingNames
    | none => stocked.holdingNames
  { stocked with
    holdings := stocked.holdings.push ⟨typed.type, typed.stored.vector, number⟩
    holdingNames := names }

def putBack (pool : Pool) (number : Nat) (holding : Holding) (typed : TypedStored) : Pool :=
  let stocked := pool.setAllocator holding.allocator typed.stored.allocator
  { stocked with
    holdings := stocked.holdings.setIfInBounds number
      ⟨typed.type, typed.stored.vector, holding.allocator⟩ }

def newAllocator (pool : Pool) (name kind : String) : Except Error PoolReply × Pool :=
  match Allocator.ofName kind with
  | .error cause => (.error cause, pool)
  | .ok allocator =>
    let (stocked, number) := pool.addAllocator allocator
    (.ok (.number allocator.liveBytes),
      { stocked with allocatorNames := (name, number) :: stocked.allocatorNames })

/-- The allocator a new vector draws on; asking for one of its own beside a named one is refused. -/
def chooseAllocator (pool : Pool) (request : VectorRequest) : Except Error (Pool × Nat) :=
  let named := request.allocator.bind fun name => pool.allocatorNames.lookup name
  match request.origin, named with
  | .ownHeap, some _ | .ownMaps, some _ => .error .wrongKind
  | .ownMaps, none => .ok (pool.addAllocator (Allocator.new .mapped))
  | _, some number => .ok (pool, number)
  | _, none => .ok (pool.addAllocator (Allocator.new .heap))

def capacitiesOf (request : VectorRequest) : Except Error Capacities := do
  let segment ← request.segment.toInteger
  let initial ← request.initial.toInteger
  Capacities.check segment initial

/-- How many zeros a new vector starts with. -/
def zerosOf (request : VectorRequest) : Except Error Nat :=
  match request.origin with
  | .zeros count => do
    let number ← count.toInteger
    if number < 0 then .error .negativeExtent else .ok number.toNat
  | _ => .ok 0

/-- A vector whose zeros are refused has drawn its first block all the same. -/
def newVector (pool : Pool) (name : String) (request : VectorRequest) :
    Except Error PoolReply × Pool :=
  match pool.chooseAllocator request, capacitiesOf request with
  | .error cause, _ | _, .error cause => (.error cause, pool)
  | .ok (stocked, number), .ok capacities =>
    let allocator := stocked.allocators.getD number (Allocator.new .heap)
    let typed := TypedStored.new allocator capacities request.type
    match zerosOf request with
    | .error cause => (.error cause, stocked.addHolding number typed none)
    | .ok count =>
      (.ok .done, stocked.addHolding number (typed.extendBlank count).2 (some name))

/-- The values a request names, as they are now. -/
def resolve (pool : Pool) : NamedSource → Except Error Source
  | .values source => .ok source
  | .vector name => match pool.holding? name with
    | some holding => .ok (.elements holding.vector.toList)
    | none => .error .wrongKind

def boundOf : Datum → Except Error (Option Int)
  | .absent => .ok none
  | datum => datum.toIndex.map some

/-- Keeps a fresh vector that draws on the allocator of its parent, and reports it. -/
def keepSlice (pool : Pool) (parent : Holding) (into : Option String)
    (made : Except Error (Stored.Progress Element)) : Except Error PoolReply × Pool :=
  match made with
  | .error cause => (.error cause, pool)
  | .ok progress =>
    let typed : TypedStored := ⟨parent.type, progress.stored⟩
    let kept := pool.addHolding parent.allocator typed into
    match progress.failure with
    | some cause => (.error cause, kept)
    | none =>
      let vector := progress.stored.vector
      (.ok (.slice ⟨typed.toList, vector.capacity, vector.segmented, true⟩), kept)

/-- A request that changes one vector and answers with `reply`. -/
def changed (pool : Pool) (number : Nat) (holding : Holding) (reply : PoolReply)
    (outcome : TypedStored.Outcome Unit) : Except Error PoolReply × Pool :=
  (outcome.1.map fun _ => reply, pool.putBack number holding outcome.2)

def withSource (pool : Pool) (number : Nat) (holding : Holding) (reply : PoolReply)
    (source : NamedSource) (use : Source → TypedStored.Outcome Unit) :
    Except Error PoolReply × Pool :=
  match pool.resolve source with
  | .error cause => (.error cause, pool)
  | .ok values => pool.changed number holding reply (use values)

/-- A vector after its blocks went back. -/
def closed (typed : TypedStored) : TypedStored := { typed with stored := typed.stored.close }

def perform (pool : Pool) (number : Nat) (holding : Holding) :
    VectorAction → Except Error PoolReply × Pool :=
  let typed := pool.typedOf holding
  let vector := typed.stored.vector
  let keep (updated : SegmentedVector Element) : TypedStored :=
    { typed with stored := { typed.stored with vector := updated } }
  fun
  | .append value => pool.changed number holding .done (typed.append value)
  | .appendRange start stop => pool.changed number holding .done (typed.appendRange start stop)
  | .extend source => pool.withSource number holding .done source typed.extend
  | .extendInPlace source => pool.withSource number holding (.flag true) source typed.extend
  | .overwriteLeading source => pool.withSource number holding .done source typed.overwriteLeading
  | .get index => ((typed.get index).map .value, pool)
  | .set index value => pool.changed number holding .done (typed.set index value)
  | .addTo index addend => pool.changed number holding .done (typed.addTo index addend)
  | .slice start stop step into =>
    pool.keepSlice holding into do
      let bounds : Slice := ⟨← boundOf start, ← boundOf stop, ← boundOf step⟩
      typed.stored.slice bounds
  | .copyRange start stop into =>
    pool.keepSlice holding into do
      typed.stored.copyRange (← start.toIndex) (← stop.toIndex)
  | .refuse operation => (.error (.unsupported operation), pool)
  | .indexOf value start stop =>
    (do
      let first := (← boundOf start).getD 0
      let position ← typed.indexOf value first (← boundOf stop)
      return .number position, pool)
  | .contains value => (.ok (.flag (typed.contains value)), pool)
  | .count value => (.ok (.number (typed.count value)), pool)
  | .reversed => (.ok (.values typed.toList.reverse), pool)
  | .elements => (.ok (.values typed.toList), pool)
  | .reverse => pool.changed number holding .done (.ok (), keep vector.reverse)
  | .elementsAs type => (.ok (.values (typed.toListAs (type.getD typed.type))), pool)
  | .norm => (.ok (.length typed.norm), pool)
  | .describe => (.ok (.text typed.describe), pool)
  | .clear => pool.changed number holding .done (.ok (), keep vector.clear)
  | .close => pool.changed number holding .done (.ok (), closed typed)
  | .useAndClose =>
    pool.changed number holding (.closedAfter vector.length) (.ok (), closed typed)

def run (pool : Pool) : PoolRequest → Except Error PoolReply × Pool
  | .newAllocator name kind => pool.newAllocator name kind
  | .newVector name request => pool.newVector name request
  | .act name action =>
    match pool.holdingNumber? name, pool.holding? name with
    | some number, some holding => pool.perform number holding action
    | _, _ => (.ok .missing, pool)

end Pool
end ConvexQP
