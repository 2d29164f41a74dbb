import ConvexQP.Proofs.Exact.Descent
import Mathlib.LinearAlgebra.FiniteDimensional.Lemmas
import Mathlib.LinearAlgebra.Matrix.ToLin

/-!
Solutions over more rows. At a point where more rows are tight than a solution takes in, it is a
solution over all of them, with multiplier zero for the rows beside its own; and a system that is
accepted has no other. Its rows are no more than the unknowns.
-/
namespace ConvexQP
open scoped Exact
variable {K : Type} [Field K] [LinearOrder K] [IsStrictOrderedRing K] [Rooted K]

namespace Linear

/-- Rows that are added with weight zero are not felt. -/
theorem exists_padded (inner outer : List Nat) (within : inner.Sublist outer) (weights : List K)
    (fits : weights.length = inner.length) :
    ∃ padded : List K, padded.length = outer.length ∧
      (∀ body : Nat → K, dot padded (outer.map body) = dot weights (inner.map body)) ∧
      ∀ weight ∈ padded, weight = 0 ∨ weight ∈ weights := by
  induction within generalizing weights with
  | slnil => exact ⟨[], rfl, fun _ => by rw [List.length_eq_zero_iff.mp fits], by simp⟩
  | cons row within ih =>
      obtain ⟨padded, length, same, values⟩ := ih weights fits
      refine ⟨0 :: padded, congrArg (· + 1) length, ?_, ?_⟩
      · intro body
        rw [List.map_cons, dot_cons, zero_mul, zero_add, same]
      · intro weight member
        rcases List.mem_cons.mp member with rfl | later
        · exact Or.inl rfl
        · exact values weight later
  | cons_cons row within ih =>
      cases weights with
      | nil => simp at fits
      | cons lead weights =>
          obtain ⟨padded, length, same, values⟩ := ih weights (Nat.succ.inj fits)
          refine ⟨lead :: padded, congrArg (· + 1) length, ?_, ?_⟩
          · intro body
            rw [List.map_cons, List.map_cons, dot_cons, dot_cons, same]
          · intro weight member
            rcases List.mem_cons.mp member with rfl | later
            · exact Or.inr List.mem_cons_self
            · exact (values weight later).imp_right (List.mem_cons_of_mem lead)

theorem dot_ofFn {size : Nat} (left right : Fin size → K) :
    dot (List.ofFn left) (List.ofFn right) = left ⬝ᵥ right := by
  induction size with
  | zero => rfl
  | succ size ih =>
      rw [List.ofFn_succ, List.ofFn_succ, dot_cons, ih, dotProduct, dotProduct,
        Fin.sum_univ_succ]

/-- Some weights, not all of them zero, cancel more rows than there are columns. -/
theorem exists_dependence (width : Nat) (rows : List (List K)) (more : width < rows.length) :
    ∃ weights : List K, weights.length = rows.length ∧ weights ≠ zeros rows.length ∧
      apply (transpose width rows) weights = zeros width := by
  have kernel : LinearMap.ker (Matrix.of fun (place : Fin width) (row : Fin rows.length) =>
      rows[row].getD place 0).mulVecLin ≠ ⊥ :=
    LinearMap.ker_ne_bot_of_finrank_lt (by simpa using more)
  obtain ⟨weights, cancelled, nonzero⟩ := Submodule.exists_mem_ne_zero_of_ne_bot kernel
  refine ⟨List.ofFn weights, List.length_ofFn, ?_, ?_⟩
  · intro zero
    rw [zeros, ← List.ofFn_const] at zero
    exact nonzero (List.ofFn_injective zero)
  · have flat := (apply_eq_zeros_iff (transpose width rows) (List.ofFn weights)).mpr ?_
    · rwa [length_transpose] at flat
    · intro body member
      obtain ⟨place, bound, rfl⟩ := List.mem_map.mp member
      have here := congrFun (LinearMap.mem_ker.mp cancelled) ⟨place, List.mem_range.mp bound⟩
      rw [column, ← List.ofFn_getElem_eq_map, dot_ofFn]
      exact here

end Linear

/-- Independent rows are no more than the unknowns. -/
theorem Kkt.Regular.fits {problem : Problem K} {included : List Nat}
    (regular : Regular problem included) (inside : Inside problem included) :
    problem.equalities.count + included.length ≤ problem.size := by
  have height := length_rows problem included inside
  by_contra more
  obtain ⟨weights, length, nonzero, cancelled⟩ :=
    Linear.exists_dependence problem.size (rows problem included) (by omega)
  rw [height] at length nonzero
  refine nonzero (regular.independent weights length fun vector size => ?_)
  rw [← Linear.dot_apply_transpose problem.size _ _ _ (row_width problem included)
    (length.trans height.symm), cancelled, Linear.dot_zeros]

namespace Kkt.Solution
variable {problem : Problem K}

/-- A solution solves over further rows that are tight at its point. -/
theorem widen {inner outer : List Nat} {point multipliers : List K}
    (solution : Solution problem inner point multipliers) (within : inner.Sublist outer)
    (inside : Inside problem outer)
    (tight : Tight problem outer point) :
    ∃ others, Solution problem outer point others ∧
      ∀ multiplier ∈ others.drop problem.equalities.count,
        multiplier = 0 ∨ multiplier ∈ multipliers.drop problem.equalities.count := by
  have narrow : Inside problem inner := fun row member => inside row (within.subset member)
  have counts := solution.counts
  have leading : (multipliers.take problem.equalities.count).length = problem.equalities.count := by
    rw [List.length_take, counts]
    exact Nat.min_eq_left (Nat.le_add_right _ _)
  obtain ⟨padded, length, same, values⟩ := Linear.exists_padded inner outer within
    (multipliers.drop problem.equalities.count) (by rw [List.length_drop, counts]; omega)
  have total : (multipliers.take problem.equalities.count ++ padded).length =
      problem.equalities.count + outer.length := by
    rw [List.length_append, leading, length]
  have upper : (multipliers.take problem.equalities.count ++ padded).take
      problem.equalities.count = multipliers.take problem.equalities.count :=
    List.take_left' leading
  have lower : (multipliers.take problem.equalities.count ++ padded).drop
      problem.equalities.count = padded := List.drop_left' leading
  refine ⟨multipliers.take problem.equalities.count ++ padded,
    ⟨solution.size, total, ?_, tight⟩, by rw [lower]; exact values⟩
  have height : (reducedGradient problem point outer
      (multipliers.take problem.equalities.count ++ padded)).length = problem.size := by
    rw [reducedGradient_eq, Linear.length_addScaled, Linear.length_apply, Linear.length_transpose,
      Problem.length_gradient, Nat.min_self]
  -- In every direction, its own among them, the reduced gradient is that of the solution.
  have felt (vector : List K) : Linear.dot (reducedGradient problem point outer
      (multipliers.take problem.equalities.count ++ padded)) vector = 0 := by
    have balanced := solution.balance narrow vector
    rw [dot_rows problem inner narrow multipliers vector counts] at balanced
    rw [dot_reducedGradient problem outer point _ vector inside total,
      dot_rows problem outer inside _ vector total, upper, lower, same]
    exact balanced
  have zero := Linear.eq_zeros_of_dot_self _ (felt _)
  rwa [height] at zero

/-- A system that is accepted has one solution. -/
theorem unique {included : List Nat} {point other multipliers others : List K}
    (solution : Solution problem included point multipliers)
    (second : Solution problem included other others) (inside : Inside problem included)
    (convex : problem.Convex) (tolerance : K) (columns : List (ClearedColumn K))
    (valid : 0 ≤ tolerance)
    (accepted : factorise tolerance (matrix problem included) = .ok columns) :
    other = point ∧ others = multipliers := by
  have regular := regular_of_accepted problem included inside convex tolerance columns valid
    accepted
  obtain ⟨sizes, size⟩ := second.heading_sizes solution.size
  have along := heading_along second inside solution.size solution.tight
  -- Along the rows both gradients are flat, so between the points there is no curvature.
  have flat : Linear.dot (Linear.subtract other point)
      (Linear.apply problem.quadratic (Linear.subtract other point)) = 0 := by
    rw [← problem.dot_gradient_subtract point other _ sizes,
      second.dot_gradient_eq_zero inside _ along, solution.dot_gradient_eq_zero inside _ along,
      sub_zero]
  have still := regular.curved _ size along flat
  rw [← second.size] at still
  obtain rfl : other = point := Linear.eq_of_subtract_eq_zeros other point sizes still
  have counts : others.length = multipliers.length := second.counts.trans solution.counts.symm
  have weightless := regular.independent (Linear.subtract others multipliers)
    (by rw [Linear.length_subtract, counts, Nat.min_self, solution.counts]) fun vector _ => by
      have one := solution.balance inside vector
      have two := second.balance inside vector
      rw [Linear.subtract_dot _ _ _ counts]
      linarith
  rw [← second.counts] at weightless
  exact ⟨rfl, Linear.eq_of_subtract_eq_zeros others multipliers counts weightless⟩

end Kkt.Solution
end ConvexQP
