import ConvexQP.Datum.Nested
import ConvexQP.Storage.Element
import ConvexQP.Storage.Slice

/-!
Vectors of typed elements: storing loose values, whole sources of values, and the reads that
compare elements with loose values.
-/
namespace ConvexQP

/-- Where the values of a bulk operation come from. -/
inductive Source where
  | listed (items : List Datum)
  /-- A stream of values, drawn once. -/
  | drawn (items : List Datum)
  | single (value : Datum)
  /-- Numbers that are in an array already. -/
  | array (values : List Float)
  | elements (items : List Element)

namespace Source

def fit (type : ElementType) (items : List Datum) : Except Error (List Element) := do
  let leaves ← (Datum.list items).evenLeaves
  leaves.mapM (Element.ofDatum type)

/-- The values that are appended. A text is a list of its characters; any other single value is
none. -/
def toAppend (type : ElementType) : Source → Except Error (List Element)
  | listed items | drawn items => fit type items
  | single (.text value) => fit type (value.toList.map fun char => .text (String.singleton char))
  | single _ => .error .wrongKind
  | array values => .ok (values.map fun value => Element.cast type (.real value))
  | elements items => .ok (items.map (Element.cast type))

/-- The values that overwrite. A single value is a list of one; a stream is no array. -/
def toOverwrite (type : ElementType) : Source → Except Error (List Element)
  | listed items => fit type items
  | drawn _ => .error .wrongKind
  | single value => (Element.ofDatum type value).map ([·])
  | array values => .ok (values.map fun value => Element.cast type (.real value))
  | elements items => .ok (items.map (Element.cast type))

end Source

structure TypedVector where
  type : ElementType
  vector : SegmentedVector Element

structure TypedStored where
  type : ElementType
  stored : Stored Element

namespace TypedStored

/-- What a request on a typed vector left behind, and its outcome. -/
abbrev Outcome (Value : Type) := Except Error Value × TypedStored

def ofProgress (typed : TypedStored) (progress : Stored.Progress Element) : Outcome Unit :=
  (match progress.failure with
    | some cause => .error cause
    | none => .ok (), { typed with stored := progress.stored })

def new (allocator : Allocator) (capacities : Capacities) (type : ElementType) : TypedStored :=
  ⟨type, Stored.new allocator capacities (Element.blank type) type.itemBytes⟩

/-- Room is made before the value is looked at, so a refused value may leave a larger vector. -/
def append (typed : TypedStored) (value : Datum) : Outcome Unit :=
  match typed.stored.reserve with
  | .error cause => (.error cause, typed)
  | .ok roomy =>
    match Element.ofDatum typed.type value with
    | .error cause => (.error cause, { typed with stored := roomy })
    | .ok element =>
      match roomy.append element with
      | .ok longer => (.ok (), { typed with stored := longer })
      | .error cause => (.error cause, { typed with stored := roomy })

/-- Appends whole numbers from `start` up to, and without, `stop`. -/
def appendRange (typed : TypedStored) (start stop : Int) : Outcome Unit :=
  typed.ofProgress (typed.stored.appendAll ((List.range (stop - start).toNat).map
    fun (offset : Nat) =>
      Element.cast typed.type (.real (Element.realOfWhole (Int64.ofInt (start + offset))))))

def extend (typed : TypedStored) (source : Source) : Outcome Unit :=
  match source.toAppend typed.type with
  | .error cause => (.error cause, typed)
  | .ok elements => typed.ofProgress (typed.stored.extend elements)

def extendBlank (typed : TypedStored) (count : Nat) : Outcome Unit :=
  typed.ofProgress (typed.stored.extend (List.replicate count (Element.blank typed.type)))

def change (typed : TypedStored)
    (update : SegmentedVector Element → Except Error (SegmentedVector Element)) : Outcome Unit :=
  match update typed.stored.vector with
  | .error cause => (.error cause, typed)
  | .ok vector => (.ok (), { typed with stored := { typed.stored with vector } })

def overwriteLeading (typed : TypedStored) (source : Source) : Outcome Unit :=
  typed.change fun vector => do
    vector.overwriteLeading (← source.toOverwrite typed.type)

def set (typed : TypedStored) (index value : Datum) : Outcome Unit :=
  typed.change fun vector => do
    let place ← vector.position (← index.toIndex)
    return vector.write place (← Element.ofDatum typed.type value)

def addTo (typed : TypedStored) (index addend : Datum) : Outcome Unit :=
  typed.change fun vector => do
    let place ← vector.position (← index.toIndex)
    return vector.write place (← (vector.read place).plus typed.type addend)

def get (typed : TypedStored) (index : Datum) : Except Error Datum := do
  return (← typed.stored.vector.get (← index.toIndex)).toDatum

def toList (typed : TypedStored) : List Datum := typed.stored.vector.toList.map Element.toDatum

/-- The elements as they read in another type. -/
def toListAs (typed : TypedStored) (type : ElementType) : List Datum :=
  typed.stored.vector.toList.map fun element => (Element.cast type element).toDatum

def contains (typed : TypedStored) (value : Datum) : Bool := typed.toList.any (· == value)

def count (typed : TypedStored) (value : Datum) : Nat := typed.toList.countP (· == value)

/-- The first position from `start` on, and before `stop`, with an equal element. -/
def indexOf (typed : TypedStored) (value : Datum) (start : Int) (stop : Option Int) :
    Except Error Nat :=
  let length : Int := typed.stored.vector.length
  let first := if start < 0 then max (length + start) 0 else start
  let last := match stop with
    | some bound => if bound < 0 then bound + length else bound
    | none => length
  let range := (typed.toList.take last.toNat).drop first.toNat
  match range.findIdx? (· == value) with
  | some offset => .ok (first.toNat + offset)
  | none => .error .valueNotFound

/-- What stands under the root of the norm: what the parts of the blocks add, one by one. -/
def normSquare {R : Type} [Scalar R] (reading : Reading R) (typed : TypedStored) : R :=
  (typed.stored.vector.views.map (typed.type.partSquares reading)).foldl (· + ·) 0

def norm (typed : TypedStored) : Float := squareRoot (typed.normSquare .floating)

def describe (typed : TypedStored) : String :=
  let vector := typed.stored.vector
  let segmented := if vector.segmented then "True" else "False"
  let capacity := vector.capacity
  s!"SegmentedVector(len={vector.length}, capacity={capacity}, segmented={segmented}, " ++
    s!"dtype={typed.type.name})"

end TypedStored
end ConvexQP
