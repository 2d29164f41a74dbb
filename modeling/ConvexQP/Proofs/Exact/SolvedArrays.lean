import ConvexQP.Kkt
import ConvexQP.Proofs.Exact.Independence
import ConvexQP.Proofs.Solver.Blocking
import ConvexQP.Proofs.Tensor.Rows
import ConvexQP.Tensor.DenseAlgebra

/-!
Subproblems through the operations on arrays. The system of a working set, assembled and solved as
arrays, is answered only where the subproblem is well posed, and then with its minimiser and its
multipliers; without a margin for pivots it is answered wherever rows and curvature allow.
-/
namespace ConvexQP
open scoped Exact

namespace Kkt.Arrays
variable {R : Type} (problem : Problem R)

theorem numbers_inside (working : List Int) (included : List Nat)
    (named : numbers problem working = .ok included) : Inside problem included :=
  (Tensor.rowNumbers_inside _ working included named).2

/-- Row numbers name themselves. -/
theorem numbers_ofNat (included : List Nat) (inside : Inside problem included) :
    numbers problem (included.map Int.ofNat) = .ok included := by
  unfold numbers
  induction included with
  | nil => rfl
  | cons row rest ih =>
      have bound := inside row List.mem_cons_self
      have first : Tensor.rowNumber problem.inequalities.count (Int.ofNat row) = .ok row := by
        simp only [Tensor.rowNumber, Int.ofNat_eq_natCast]
        rw [if_neg (by omega), if_neg (by omega), Int.toNat_natCast]
      rw [List.map_cons, List.mapM_cons, first,
        ih fun other member => inside other (List.mem_cons_of_mem row member)]
      rfl

end Kkt.Arrays

variable {K Key : Type} [Field K] [LinearOrder K] [IsStrictOrderedRing K] [Rooted K]
variable [BEq Key]

/-- A square matrix and a list of fitting length are solved as they are. -/
theorem FactorCache.solveArrays_lists (cache : FactorCache K Key) (tolerance : K) (size : Nat)
    (matrix : List (List K)) (rhs : List K) (key : Option Key) (square : Square size matrix)
    (sides : rhs.length = size) :
    (cache.solveArrays tolerance (Tensor.ofRows size matrix) (Tensor.ofList rhs) key).1 =
      (cache.solve tolerance matrix [rhs] key).1.solution.map fun found =>
        found.map fun solutions => Tensor.ofList solutions.flatten := by
  have read := Tensor.rows_ofRows size matrix square.2
  unfold solveArrays
  simp only [Tensor.ofRows, Tensor.ofList, sidesOf, Tensor.toList, square.1, sides, ne_eq,
    not_true_eq_false, if_false]
  rw [Tensor.ofRows, square.1] at read
  rw [read]
  rfl

namespace DenseAlgebra
variable [LawfulBEq Key] (problem : Problem K) (algebra : DenseAlgebra K Key)

/-- The system of a working set is solved only if the subproblem is well posed; without a margin for
pivots, whenever its rows are independent and the objective is curved along them. -/
theorem solves_wellPosed (convex : problem.Convex) (valid : 0 ≤ algebra.pivotTolerance)
    (working : List Int) (included : List Nat)
    (named : Kkt.Arrays.numbers problem working = .ok included) (key : Option Key)
    (faithful : algebra.cache.Faithful algebra.pivotTolerance (Kkt.matrix problem included) key) :
    ∃ matrix rhs found, Kkt.Arrays.matrix problem working = .ok matrix ∧
      Kkt.Arrays.rhs problem working = .ok rhs ∧
      (algebra.run (.solve matrix rhs key)).1 = .ok (.solution found) ∧
      (∀ solution, found = some solution → ∃ point multipliers,
        solution = Tensor.ofList (point ++ multipliers) ∧
        Kkt.WellPosed problem included point multipliers) ∧
      (algebra.pivotTolerance = 0 →
        LinearIndependent K (Linear.vectors problem.size (Kkt.rows problem included)) →
        Kkt.DefiniteAlong problem included → ∃ solution, found = some solution) := by
  have inside := Kkt.Arrays.numbers_inside problem working included named
  have square := Kkt.matrix_square problem included inside
  have sides := Kkt.length_rhs problem included inside
  have width : problem.size + (Kkt.rows problem included).length =
      problem.size + (problem.equalities.count + included.length) := by
    rw [Kkt.length_rows problem included inside]
  have answered := algebra.cache.solveArrays_lists algebra.pivotTolerance _ _ _ key square sides
  rw [algebra.cache.solve_exact algebra.pivotTolerance _ _ _ key valid square sides faithful]
    at answered
  refine ⟨Tensor.ofRows (problem.size + (problem.equalities.count + included.length))
      (Kkt.matrix problem included), Tensor.ofList (Kkt.rhs problem included),
    (factorise algebra.pivotTolerance (Kkt.matrix problem included)).toOption.map fun columns =>
      Tensor.ofList (Elimination.solve columns (Kkt.rhs problem included)), ?_, ?_, ?_, ?_, ?_⟩
  · rw [← width, Kkt.Arrays.matrix, named]
    rfl
  · rw [Kkt.Arrays.rhs, named]
    rfl
  · simp only [run, answered]
    cases factorise algebra.pivotTolerance (Kkt.matrix problem included) with
    | error note => rfl
    | ok columns => simp [Except.toOption, Except.map]
  · intro solution found
    cases made : factorise algebra.pivotTolerance (Kkt.matrix problem included) with
    | error note => simp [made, Except.toOption] at found
    | ok columns =>
        simp only [made, Except.toOption, Option.map_some, Option.some.injEq] at found
        refine ⟨_, _, ?_, Kkt.wellPosed_of_accepted problem included inside convex _ columns valid
          made⟩
        rw [← found, List.take_append_drop]
  · intro marginless independent definite
    obtain ⟨columns, accepted⟩ :=
      Kkt.accepted_of_definite problem included inside convex independent definite
    rw [marginless, accepted]
    exact ⟨_, rfl⟩

end DenseAlgebra

theorem valley_inside : Kkt.Inside valley [0] := by
  intro row member
  rw [List.mem_singleton.mp member]
  decide

theorem valley_independent :
    LinearIndependent ℚ (Linear.vectors valley.size (Kkt.rows valley [0])) := by
  rw [Kkt.independent_iff valley [0] valley_inside]
  intro weights length weightless
  obtain ⟨weight, rfl⟩ := List.length_eq_one_iff.mp length
  have felt := weightless [0, 1] rfl
  have zero : weight = 0 := by
    simpa [Kkt.rows, valley, Constraints.none, Constraints.rowsAt, Linear.pick, Linear.apply] using
      felt
  rw [zero]
  rfl

theorem valley_definiteAlong : Kkt.DefiniteAlong valley [0] := by
  intro direction size along nonzero
  obtain ⟨first, second, rfl⟩ := List.length_eq_two.mp size
  have level : second = 0 := by
    simpa [Kkt.rows, valley, Constraints.none, Constraints.rowsAt, Linear.pick, Linear.apply,
      Linear.zeros, Constraints.count] using along
  have moving : first ≠ 0 := by
    rintro rfl
    exact nonzero (by rw [level]; rfl)
  have curved : 0 < first * (2 * first) := by
    rw [mul_left_comm]
    exact mul_pos zero_lt_two (mul_self_pos.mpr moving)
  simpa [valley, level] using curved

/-- Along its first row the valley is curved, so it has one lowest point there. -/
theorem solves_wellPosed_valley : ∃ matrix rhs point multipliers,
    Kkt.Arrays.matrix valley [0] = .ok matrix ∧ Kkt.Arrays.rhs valley [0] = .ok rhs ∧
      ((DenseAlgebra.new 0 : DenseAlgebra ℚ (List Nat)).run (.solve matrix rhs none)).1 =
        .ok (.solution (some (Tensor.ofList (point ++ multipliers)))) ∧
      Kkt.WellPosed valley [0] point multipliers := by
  have named : Kkt.Arrays.numbers valley [0] = .ok [0] :=
    Kkt.Arrays.numbers_ofNat valley [0] valley_inside
  obtain ⟨matrix, rhs, found, assembled, stacked, answered, posed, solvable⟩ :=
    DenseAlgebra.solves_wellPosed valley (DenseAlgebra.new 0 : DenseAlgebra ℚ (List Nat))
      valley_convex le_rfl [0] [0] named none (fun _ none => by cases none)
  obtain ⟨solution, rfl⟩ := solvable rfl valley_independent valley_definiteAlong
  obtain ⟨point, multipliers, rfl, wellPosed⟩ := posed solution rfl
  exact ⟨matrix, rhs, point, multipliers, assembled, stacked, answered, wellPosed⟩

end ConvexQP
