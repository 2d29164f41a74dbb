import ConvexQP.Proofs.Exact.Widening
import Mathlib.LinearAlgebra.LinearIndependent.Lemmas

/-!
Subproblems that are well posed. Regularity of a system, which is felt in directions, is linear
independence of its rows together with a positive curvature along them. The subproblem then has
one minimiser with one vector of multipliers, and an accepted system solves for these.
-/
namespace ConvexQP
open scoped Exact
variable {K : Type} [Field K] [LinearOrder K] [IsStrictOrderedRing K] [Rooted K]

namespace Linear

/-- Rows of a matrix as vectors. -/
def vectors (width : Nat) (rows : List (List K)) : Fin rows.length → Fin width → K :=
  fun row place => rows[row].getD place 0

theorem apply_transpose_ofFn (width : Nat) (rows : List (List K)) (weights : Fin rows.length → K) :
    apply (transpose width rows) (List.ofFn weights) =
      List.ofFn (∑ row, weights row • vectors width rows row) := by
  apply List.ext_getElem
  · rw [length_apply, length_transpose, List.length_ofFn]
  · intro place first second
    have body (place : Nat) : dot (column rows place) (List.ofFn weights) =
        ∑ row, weights row * rows[row].getD place 0 := by
      rw [column, ← List.ofFn_getElem_eq_map, dot_ofFn, dotProduct]
      exact Finset.sum_congr rfl fun row _ => mul_comm _ _
    simp [apply, transpose, body, vectors]

/-- Rows are independent if weights that are felt in no direction are zero. -/
theorem linearIndependent_iff (width : Nat) (rows : List (List K))
    (widths : ∀ row ∈ rows, row.length = width) :
    LinearIndependent K (vectors width rows) ↔ ∀ weights : List K, weights.length = rows.length →
      (∀ vector : List K, vector.length = width → dot weights (apply rows vector) = 0) →
      weights = zeros rows.length := by
  rw [Fintype.linearIndependent_iff]
  constructor
  · intro independent weights length weightless
    have combined := dot_apply_transpose width rows weights (apply (transpose width rows) weights)
      widths length
    rw [weightless _ (by rw [length_apply, length_transpose])] at combined
    have none := eq_zeros_of_dot_self _ combined
    rw [length_apply, length_transpose] at none
    obtain ⟨entries, rfl⟩ : ∃ entries : Fin rows.length → K, weights = List.ofFn entries :=
      ⟨fun row => weights[row], List.ext_getElem (by simp [length]) (by simp)⟩
    rw [apply_transpose_ofFn, zeros, ← List.ofFn_const] at none
    have zero := independent entries (List.ofFn_injective none)
    rw [zeros, ← List.ofFn_const]
    exact congrArg List.ofFn (funext zero)
  · intro felt weights cancelled row
    have zero := felt (List.ofFn weights) List.length_ofFn fun vector _ => by
      rw [← dot_apply_transpose width rows _ vector widths List.length_ofFn, apply_transpose_ofFn,
        cancelled]
      have flat : List.ofFn (0 : Fin width → K) = zeros width := List.ofFn_const width 0
      rw [flat, dot_zeros]
    rw [zeros, ← List.ofFn_const] at zero
    exact congrFun (List.ofFn_injective zero) row

end Linear

namespace Kkt
variable (problem : Problem K) (included : List Nat)

/-- The active rows are independent; the point is the only minimiser on them, and the multipliers
are the only ones that make it stationary. -/
structure WellPosed (point multipliers : List K) : Prop where
  independent : LinearIndependent K (Linear.vectors problem.size (rows problem included))
  fits : problem.equalities.count + included.length ≤ problem.size
  size : point.length = problem.size
  counts : multipliers.length = problem.equalities.count + included.length
  tight : Linear.apply (rows problem included) point = bounds problem included
  least : ∀ other : List K, other.length = problem.size →
    Linear.apply (rows problem included) other = bounds problem included → other ≠ point →
    problem.objective point < problem.objective other
  stationary : reducedGradient problem point included multipliers = Linear.zeros problem.size
  alone : ∀ others : List K, others.length = problem.equalities.count + included.length →
    reducedGradient problem point included others = Linear.zeros problem.size →
    others = multipliers

/-- The objective is curved in every direction along the active rows. -/
def DefiniteAlong : Prop :=
  ∀ direction : List K, direction.length = problem.size →
    Linear.apply (rows problem included) direction =
      Linear.zeros (problem.equalities.count + included.length) →
    direction ≠ Linear.zeros problem.size →
    0 < Linear.dot direction (Linear.apply problem.quadratic direction)

variable (inside : Inside problem included)

include inside in
theorem independent_iff :
    LinearIndependent K (Linear.vectors problem.size (rows problem included)) ↔
      ∀ weights : List K, weights.length = problem.equalities.count + included.length →
        (∀ vector : List K, vector.length = problem.size →
          Linear.dot weights (Linear.apply (rows problem included) vector) = 0) →
        weights = Linear.zeros (problem.equalities.count + included.length) := by
  rw [← length_rows problem included inside]
  exact Linear.linearIndependent_iff problem.size _ (row_width problem included)

include inside in
theorem regular_iff (convex : problem.Convex) : Regular problem included ↔
    LinearIndependent K (Linear.vectors problem.size (rows problem included)) ∧
      DefiniteAlong problem included := by
  rw [independent_iff problem included inside]
  constructor
  · intro regular
    refine ⟨regular.independent, fun direction size along nonzero => ?_⟩
    apply lt_of_le_of_ne (convex.semidefinite direction size)
    intro flat
    exact nonzero (regular.curved direction size along flat.symm)
  · rintro ⟨independent, definite⟩
    refine ⟨fun direction size along flat => ?_, independent⟩
    by_contra nonzero
    exact absurd flat (definite direction size along nonzero).ne'

include inside in
/-- What a system that is accepted solves for. -/
theorem wellPosed_of_accepted (convex : problem.Convex) (tolerance : K)
    (columns : List (ClearedColumn K)) (valid : 0 ≤ tolerance)
    (accepted : factorise tolerance (matrix problem included) = .ok columns) :
    WellPosed problem included
      ((Elimination.solve columns (rhs problem included)).take problem.size)
      ((Elimination.solve columns (rhs problem included)).drop problem.size) := by
  obtain ⟨system, count⟩ := factorise_solves tolerance _ _ (rhs problem included) columns valid
    (matrix_square problem included inside) (length_rhs problem included inside) accepted
  have solution := solution_of_system problem included _ count system
  have regular := regular_of_accepted problem included inside convex tolerance columns valid
    accepted
  obtain ⟨independent, definite⟩ := (regular_iff problem included inside convex).mp regular
  generalize (Elimination.solve columns (rhs problem included)).take problem.size = point
    at solution ⊢
  generalize (Elimination.solve columns (rhs problem included)).drop problem.size = multipliers
    at solution ⊢
  refine ⟨independent, regular.fits inside, solution.size, solution.counts, solution.tight, ?_,
    solution.stationary, ?_⟩
  · intro other size tight distinct
    have sizes : other.length = point.length := size.trans solution.size.symm
    have grows := solution.objective_on_active problem included inside convex.symmetric other size
      tight
    have along : Linear.apply (rows problem included) (Linear.subtract other point) =
        Linear.zeros (problem.equalities.count + included.length) := by
      rw [Linear.apply_subtract _ _ _ sizes, tight, solution.tight, Linear.subtract_self,
        length_bounds problem included inside]
    have apart : Linear.subtract other point ≠ Linear.zeros problem.size := by
      intro zero
      rw [← size] at zero
      exact distinct (Linear.eq_of_subtract_eq_zeros other point sizes zero)
    have curved := definite _ (by rw [Linear.length_subtract, size, solution.size, Nat.min_self])
      along apart
    linarith
  · intro others counts stationary
    exact (solution.unique ⟨solution.size, counts, stationary, solution.tight⟩ inside convex
      tolerance columns valid accepted).2

include inside in
/-- Without a margin for pivots every well-posed system is accepted. -/
theorem accepted_of_definite (convex : problem.Convex)
    (independent : LinearIndependent K (Linear.vectors problem.size (rows problem included)))
    (definite : DefiniteAlong problem included) :
    ∃ columns, factorise 0 (matrix problem included) = .ok columns := by
  have regular := (regular_iff problem included inside convex).mpr ⟨independent, definite⟩
  exact ⟨_, factorise_nonsingular _ _ (matrix_square problem included inside)
    ((nonsingular_iff problem included inside convex).mpr regular)⟩

end Kkt
end ConvexQP
