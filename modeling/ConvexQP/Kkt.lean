import ConvexQP.Problem.Build

/-!
The equality-constrained subproblem of a set of included rows, as one linear system in the point
and the multipliers, and the residuals that vanish at its solutions. Multipliers are signed so that
those of active upper bounds are not negative at an optimum.
-/
namespace ConvexQP

namespace Constraints
variable {R : Type} {size : Nat} [Scalar R]

def rowsAt (block : Constraints R size) (numbers : List Nat) : List (List R) :=
  Linear.pick block.rows numbers

def boundsAt (block : Constraints R size) (numbers : List Nat) : List R :=
  Linear.pick block.bounds numbers

def slackAt (block : Constraints R size) (point : List R) (numbers : List Nat) : List R :=
  Linear.subtract (block.boundsAt numbers) (Linear.apply (block.rowsAt numbers) point)

def slack (block : Constraints R size) (point : List R) : List R :=
  Linear.subtract block.bounds (Linear.apply block.rows point)

end Constraints

namespace Kkt
variable {R : Type} [Scalar R]

/-- The equality rows above the included inequality rows. -/
def rows (problem : Problem R) (included : List Nat) : List (List R) :=
  problem.equalities.rows ++ problem.inequalities.rowsAt included

def bounds (problem : Problem R) (included : List Nat) : List R :=
  problem.equalities.bounds ++ problem.inequalities.boundsAt included

/-- The quadratic beside the transposed rows, above the rows beside zeros. -/
def matrixOf (problem : Problem R) (active : List (List R)) : List (List R) :=
  problem.quadratic.zipWith (· ++ ·) (Linear.transpose problem.size active) ++
    active.map (· ++ Linear.zeros active.length)

def matrix (problem : Problem R) (included : List Nat) : List (List R) :=
  matrixOf problem (rows problem included)

def rhs (problem : Problem R) (included : List Nat) : List R :=
  problem.linear ++ bounds problem included

/-- `Q x - c` plus the active rows weighted with the multipliers. -/
def reducedGradient (problem : Problem R) (point : List R) (included : List Nat)
    (multipliers : List R) : List R :=
  let active := rows problem included
  let gradient := problem.gradient point
  if active.isEmpty then gradient
  else Linear.addScaled 1 (Linear.apply (Linear.transpose problem.size active) multipliers) gradient

end Kkt

/-! The same views for row numbers that may be bad and for points of any shape. -/
namespace Kkt.Arrays
variable {R : Type} [Scalar R]

/-- The rows of the inequality block that integers name. -/
def numbers (problem : Problem R) (included : List Int) : Except Error (List Nat) :=
  included.mapM (Tensor.rowNumber problem.inequalities.count)

def rows (problem : Problem R) (included : List Int) : Except Error (Tensor R) := do
  return Tensor.ofRows problem.size (Kkt.rows problem (← numbers problem included))

def bounds (problem : Problem R) (included : List Int) : Except Error (Tensor R) := do
  return Tensor.ofList (Kkt.bounds problem (← numbers problem included))

def linear (problem : Problem R) : Tensor R := Tensor.ofList problem.linear

def matrix (problem : Problem R) (included : List Int) : Except Error (Tensor R) := do
  let chosen ← numbers problem included
  return Tensor.ofRows (problem.size + (Kkt.rows problem chosen).length)
    (Kkt.matrix problem chosen)

def rhs (problem : Problem R) (included : List Int) : Except Error (Tensor R) := do
  return Tensor.ofList (Kkt.rhs problem (← numbers problem included))

/-- A point with as many entries as the problem has variables. -/
def point? (problem : Problem R) (point : Tensor R) : Option (List R) :=
  if point.shape = [problem.size] then some point.toList else none

def equalitySlack (problem : Problem R) (point : Tensor R) : Except Error (Tensor R) :=
  match point? problem point with
  | some entries => .ok (Tensor.ofList (problem.equalities.slack entries))
  | none => do
    let body ← Tensor.multiply (Problem.rowsTensor problem.equalities) point
    Tensor.entrywise (· - ·) (Tensor.ofList problem.equalities.bounds) body

def inequalityBody (problem : Problem R) (point : Tensor R) (included : List Int) :
    Except Error (Tensor R) := do
  let chosen ← numbers problem included
  let active := problem.inequalities.rowsAt chosen
  match point? problem point with
  | some entries => return Tensor.ofList (Linear.apply active entries)
  | none => Tensor.multiply (Tensor.ofRows problem.size active) point

def inequalitySlack (problem : Problem R) (point : Tensor R) (included : List Int) :
    Except Error (Tensor R) := do
  let chosen ← numbers problem included
  match point? problem point with
  | some entries => return Tensor.ofList (problem.inequalities.slackAt entries chosen)
  | none =>
    let body ← inequalityBody problem point included
    Tensor.entrywise (· - ·) (Tensor.ofList (problem.inequalities.boundsAt chosen)) body

def gradient (problem : Problem R) (point : Tensor R) : Except Error (Tensor R) :=
  match point? problem point with
  | some entries => .ok (Tensor.ofList (problem.gradient entries))
  | none => do
    Tensor.entrywise (· - ·) (← Tensor.multiply problem.quadraticTensor point) (linear problem)

def reducedGradient (problem : Problem R) (point : Tensor R) (included : List Int)
    (multipliers : Tensor R) : Except Error (Tensor R) := do
  let chosen ← numbers problem included
  let active := Kkt.rows problem chosen
  match point? problem point, decide (multipliers.shape = [active.length]) with
  | some entries, true =>
    return Tensor.ofList (Kkt.reducedGradient problem entries chosen multipliers.toList)
  | _, _ =>
    let slope ← gradient problem point
    if active.isEmpty then return slope
    else
      let weights ← Tensor.multiply (Tensor.ofRows problem.size active).transpose multipliers
      Tensor.addScaled 1 weights slope

end Kkt.Arrays
end ConvexQP
