/-!
Every way a request can be refused, as a cause, and the wording of those causes that have one.
Outcomes of a solve are verdicts and not errors.
-/
namespace ConvexQP

inductive ConstraintKind where
  | equality
  | inequality
  deriving Repr, DecidableEq

def ConstraintKind.text : ConstraintKind → String
  | .equality => "equality"
  | .inequality => "inequality"

/-- A shape as a bracketed list; a single extent keeps a comma behind it. -/
def shapeText : List Nat → String
  | [extent] => "(" ++ toString extent ++ ",)"
  | shape => "(" ++ String.intercalate ", " (shape.map toString) ++ ")"

inductive Error where
  | undefinedInteger
  | infiniteInteger
  | integerTooLarge
  | unreadableText
  /-- A value of a kind that the place does not take. -/
  | wrongKind
  | sequenceForNumber
  | unevenLists
  | shapesDiffer
  | noSuchRow
  | negativeExtent
  | readOnly
  | valueNotFound
  | zeroStep
  | chunkPastBlock
  /-- The abstract set of operations has no definitions. -/
  | notImplemented
  | outOfBounds (index : Int) (length : Nat)
  | unsupported (operation : String)
  | closedVector
  | capacityOrder (initial segment : Int)
  | capacityRatio
  | sourceTooLong (source target : Nat)
  | unknownAllocatorKind (kind : String)
  | unknownAllocatorSetting (name : String)
  | negativeSelector (size : Int)
  | quadraticNotSquare (shape : List Nat)
  | quadraticNotSymmetric
  | linearSize (size expected : Nat)
  | incompleteConstraints (kind : ConstraintKind)
  | constraintShape (kind : ConstraintKind) (shape : List Nat) (columns : Nat)
  | boundsSize (kind : ConstraintKind) (size expected : Nat)
  | systemShape (matrix rhs : List Nat)
  | programShape (shape : List Nat) (rows columns : Nat)
  | kickStartSize (size expected : Nat)
  deriving Repr, DecidableEq

/-- The wording of a cause, for those that are worded. -/
def Error.message : Error → Option String
  | .undefinedInteger | .infiniteInteger | .integerTooLarge | .unreadableText | .wrongKind
  | .sequenceForNumber | .unevenLists | .shapesDiffer | .noSuchRow | .negativeExtent | .readOnly
  | .valueNotFound | .zeroStep | .chunkPastBlock => none
  | .notImplemented => some ""
  | .outOfBounds index length => some s!"index {index} out of bounds for length {length}"
  | .unsupported operation =>
    some ("SegmentedVector does not support '" ++ operation ++ "'")
  | .closedVector => some "operation on a closed SegmentedVector"
  | .capacityOrder initial segment =>
    some ("Need 0 < initial_capacity < segment_capacity, got " ++
      s!"{initial} and {segment}")
  | .capacityRatio => some "segment_capacity must be initial_capacity times a power of two"
  | .sourceTooLong source target =>
    some s!"fill_matching source has length {source}, target only {target}"
  | .unknownAllocatorKind kind =>
    some ("Unknown allocator '" ++ kind ++ "'. Use one of ['heap', 'mmap'].")
  | .unknownAllocatorSetting name =>
    some ("Unknown allocator '" ++ name ++ "'. Use 'heap' or 'mmap'.")
  | .negativeSelector size => some s!"IndexSelector size must be non-negative, got {size}"
  | .quadraticNotSquare shape =>
    some ("Q must be a non-empty square matrix, got shape " ++ shapeText shape)
  | .quadraticNotSymmetric => some "Q must be symmetric"
  | .linearSize size expected => some s!"c has size {size}, expected {expected}"
  | .incompleteConstraints kind => some (kind.text ++ " constraints need both A and b")
  | .constraintShape kind shape columns =>
    some (kind.text ++ " matrix has shape " ++ shapeText shape ++ s!", expected (m, {columns})")
  | .boundsSize kind size expected =>
    some (kind.text ++ s!" rhs has size {size}, expected {expected}")
  | .systemShape matrix rhs =>
    some ("KKT shape mismatch: K " ++ shapeText matrix ++ ", rhs " ++ shapeText rhs)
  | .programShape shape rows columns =>
    some ("LP equality block has shape " ++ shapeText shape ++ s!", expected ({rows}, {columns})")
  | .kickStartSize size expected => some s!"kick start has size {size}, expected {expected}"

end ConvexQP
