import ConvexQP.Elimination
import ConvexQP.Error

/-!
Solving systems with a memory of one. The factors of the last matrix are kept under its key and
used again while the key stays the same; a matrix without a key is never used again. A matrix whose
least pivot is small beside the greatest counts as rank deficient, and a solution with entries that
are not finite counts as none.
-/
namespace ConvexQP

/-- Why a system has no solution to offer. -/
inductive FactorNote (R : Type) where
  | matrixNotFinite
  | rankDeficient (least greatest : R)
  | solutionNotFinite
  deriving Repr

structure FactorCache (R Key : Type) where
  key : Option Key
  factors : Option (List (ClearedColumn R))
  hits : Nat
  misses : Nat

/-- A solution with one list per right-hand side, if there is one, and what is to be said. -/
structure SystemAnswer (R : Type) where
  solution : Except Error (Option (List (List R)))
  notes : List (FactorNote R)

section Factor
variable {R : Type} [Scalar R]

/-- The lesser of two values; undefined if either is. -/
def lesser (left right : R) : R :=
  if left ≤ right then left else if right ≤ left then right else left + right

/-- The greater of two values; undefined if either is. -/
def greater (left right : R) : R :=
  if right ≤ left then left else if left ≤ right then right else left + right

/-- The factors of a matrix, unless it holds entries that are not finite or its pivots say that it
is rank deficient. -/
def factorise (pivotTolerance : R) (matrix : List (List R)) :
    Except (FactorNote R) (List (ClearedColumn R)) :=
  if matrix.all Linear.allFinite then
    let columns := Elimination.clear matrix.length matrix
    match (Elimination.pivots columns).map magnitude with
    | [] => .ok columns
    | first :: rest =>
      let least := rest.foldl lesser first
      let greatest := rest.foldl greater first
      if least ≤ pivotTolerance * larger greatest 1 then .error (.rankDeficient least greatest)
      else .ok columns
  else .error .matrixNotFinite

def solveWith (factors : Option (List (ClearedColumn R))) (sides : List (List R)) :
    SystemAnswer R :=
  match factors with
  | none => ⟨.ok none, []⟩
  | some columns =>
    if sides.all fun side => side.length == columns.length then
      let solutions := sides.map (Elimination.solve columns)
      if solutions.all Linear.allFinite then ⟨.ok (some solutions), []⟩
      else ⟨.ok none, [.solutionNotFinite]⟩
    else ⟨.error .shapesDiffer, []⟩

end Factor

namespace FactorCache
variable {R Key : Type} [Scalar R]

def empty : FactorCache R Key := ⟨none, none, 0, 0⟩

def forget (cache : FactorCache R Key) : FactorCache R Key :=
  { cache with key := none, factors := none }

/-- The factors under this key, taken from memory or made, and what was said in making them. -/
def factorsFor [BEq Key] (cache : FactorCache R Key) (pivotTolerance : R)
    (matrix : List (List R)) (key : Option Key) : List (FactorNote R) × FactorCache R Key :=
  if key.isSome && cache.key == key then ([], { cache with hits := cache.hits + 1 })
  else
    let missed := { cache with key := key, misses := cache.misses + 1 }
    match factorise pivotTolerance matrix with
    | .ok columns => ([], { missed with factors := some columns })
    | .error note => ([note], { missed with factors := none })

def solve [BEq Key] (cache : FactorCache R Key) (pivotTolerance : R) (matrix : List (List R))
    (sides : List (List R)) (key : Option Key) : SystemAnswer R × FactorCache R Key :=
  let (notes, next) := cache.factorsFor pivotTolerance matrix key
  let answer := solveWith next.factors sides
  (⟨answer.solution, notes ++ answer.notes⟩, next)

end FactorCache
end ConvexQP
