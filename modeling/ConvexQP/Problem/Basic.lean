import ConvexQP.Linear

/-!
Convex quadratic programmes: minimise half of `xᵀ Q x` less `cᵀ x`, subject to equality rows and to
inequality rows with upper bounds. The shapes fit by construction.
-/
namespace ConvexQP

structure Constraints (R : Type) (size : Nat) where
  rows : List (List R)
  bounds : List R
  row_length : ∀ row ∈ rows, row.length = size
  bounds_length : bounds.length = rows.length

namespace Constraints
variable {R : Type} {size : Nat}

def none : Constraints R size := ⟨[], [], by simp, rfl⟩

def count (constraints : Constraints R size) : Nat := constraints.rows.length

end Constraints

structure Problem (R : Type) where
  size : Nat
  quadratic : List (List R)
  linear : List R
  equalities : Constraints R size
  inequalities : Constraints R size
  size_pos : 0 < size
  quadratic_height : quadratic.length = size
  quadratic_width : ∀ row ∈ quadratic, row.length = size
  linear_length : linear.length = size

namespace Problem
variable {R : Type} [Scalar R]

/-- Half of `xᵀ Q x` less `cᵀ x`; the half goes to the left factor. -/
def objective (problem : Problem R) (point : List R) : R :=
  Linear.dot (Linear.scale 0.5 point) (Linear.apply problem.quadratic point) -
    Linear.dot problem.linear point

/-- `Q x - c`. -/
def gradient (problem : Problem R) (point : List R) : List R :=
  Linear.subtract (Linear.apply problem.quadratic point) problem.linear

end Problem
end ConvexQP
