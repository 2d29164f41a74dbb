import ConvexQP.Proofs.Exact.Nonsingular
import ConvexQP.Proofs.Exact.Steps

/-!
Systems with one solution. The system of a working set of a convex problem sends only zero to zero
if and only if its rows are independent and the objective is curved along them; a system that was
accepted is one of these. A row that is crossed along the others may be added to them.
-/
namespace ConvexQP
open scoped Exact
variable {K : Type} [Field K] [LinearOrder K] [IsStrictOrderedRing K] [Rooted K]

namespace Linear

theorem map_eq_zeros_iff {Item : Type} (items : List Item) (body : Item → K) :
    items.map body = zeros items.length ↔ ∀ item ∈ items, body item = 0 := by
  unfold zeros
  rw [List.eq_replicate_iff, List.length_map]
  simp

theorem zeros_add (first second : Nat) :
    (zeros (first + second) : List K) = zeros first ++ zeros second :=
  List.replicate_add first second 0

theorem subtract_self (vector : List K) : subtract vector vector = zeros vector.length := by
  apply List.ext_getElem
  · simp [subtract]
  · intro place _ _
    simp [subtract, zeros]

theorem zipWith_add_eq (left right : List K) :
    left.zipWith (· + ·) right = addScaled 1 right left := by
  unfold addScaled
  congr 1
  funext first other
  exact congrArg (first + ·) (one_mul other).symm

/-- The weight of one of several rows beside those of the others. -/
theorem dot_map_erase (rows : List Nat) (weights : List K) (distinct : rows.Nodup)
    (fits : weights.length = rows.length) (row : Nat) (weight : K)
    (pair : (row, weight) ∈ rows.zip weights) :
    ∃ others : List K, others.length = (rows.erase row).length ∧
      (∀ body : Nat → K, dot weights (rows.map body) =
        weight * body row + dot others ((rows.erase row).map body)) ∧
      (weight = 0 → others = zeros (rows.erase row).length → weights = zeros rows.length) := by
  induction rows generalizing weights with
  | nil => simp at pair
  | cons first rows ih =>
      cases weights with
      | nil => simp at pair
      | cons lead weights =>
          obtain ⟨fresh, distinct⟩ := List.nodup_cons.mp distinct
          simp only [List.length_cons, Nat.add_right_cancel_iff] at fits
          rw [List.zip_cons_cons, List.mem_cons, Prod.mk.injEq] at pair
          by_cases same : row = first
          · have here : weight = lead := by
              rcases pair with ⟨_, here⟩ | later
              · exact here
              · exact absurd (same ▸ (List.of_mem_zip later).1) fresh
            rw [same, here, List.erase_cons_head]
            refine ⟨weights, fits, fun body => dot_cons _ _ _ _, ?_⟩
            intro zero others
            rw [zero, others]
            rfl
          · have later : (row, weight) ∈ rows.zip weights := by
              rcases pair with ⟨here, _⟩ | later
              · exact absurd here same
              · exact later
            obtain ⟨others, count, parted, zero⟩ := ih weights distinct fits later
            rw [List.erase_cons_tail (by simpa using Ne.symm same)]
            refine ⟨lead :: others, congrArg (· + 1) count, ?_, ?_⟩
            · intro body
              rw [List.map_cons, dot_cons, parted body, List.map_cons, dot_cons]
              ring
            · intro none rest
              obtain ⟨head, tail⟩ := List.cons.inj rest
              rw [head, zero none tail]
              rfl

end Linear

namespace Problem
variable {problem : Problem K} (convex : problem.Convex)

include convex in
theorem Convex.curvature_addScaled (vector direction : List K) (factor : K)
    (size : vector.length = problem.size) (along : direction.length = problem.size) :
    Linear.dot (Linear.addScaled factor direction vector)
        (Linear.apply problem.quadratic (Linear.addScaled factor direction vector)) =
      Linear.dot vector (Linear.apply problem.quadratic vector) +
        2 * factor * Linear.dot direction (Linear.apply problem.quadratic vector) +
        factor ^ 2 * Linear.dot direction (Linear.apply problem.quadratic direction) := by
  have fits : vector.length = direction.length := size.trans along.symm
  have images : (Linear.apply problem.quadratic vector).length =
      (Linear.apply problem.quadratic direction).length := by simp
  have swap := dot_quadratic_comm problem convex.symmetric vector direction size
  rw [Linear.apply_addScaled _ _ _ _ fits, Linear.dot_addScaled _ _ _ _ images,
    Linear.dot_comm (Linear.addScaled factor direction vector),
    Linear.dot_comm (Linear.addScaled factor direction vector),
    Linear.dot_addScaled _ _ _ _ fits, Linear.dot_addScaled _ _ _ _ fits,
    Linear.dot_comm _ vector, Linear.dot_comm _ direction, Linear.dot_comm _ vector,
    Linear.dot_comm _ direction, swap]
  ring

include convex in
/-- Where a convex objective is not curved, its quadratic vanishes. -/
theorem Convex.apply_eq_zeros (vector : List K) (size : vector.length = problem.size)
    (flat : Linear.dot vector (Linear.apply problem.quadratic vector) = 0) :
    Linear.apply problem.quadratic vector = Linear.zeros problem.size := by
  -- A short step against the image would lower the form by more than the image bends it.
  let image := Linear.apply problem.quadratic vector
  let square := Linear.dot image image
  let bend := Linear.dot image (Linear.apply problem.quadratic image)
  let step := square / (bend + 1)
  have height : image.length = problem.size := by
    rw [Linear.length_apply, problem.quadratic_height]
  have bent : 0 ≤ bend := convex.semidefinite image height
  have whole : square = step * (bend + 1) := (div_mul_cancel₀ square (by positivity)).symm
  have lengths : (Linear.addScaled (-step) image vector).length = problem.size := by
    rw [Linear.length_addScaled, size, height, Nat.min_self]
  have lower := convex.semidefinite _ lengths
  rw [convex.curvature_addScaled vector image (-step) size height, flat] at lower
  change 0 ≤ 0 + 2 * -step * square + (-step) ^ 2 * bend at lower
  rw [whole] at lower
  have stopped : step ^ 2 * (bend + 2) ≤ 0 := by linarith
  have still : step = 0 := by
    by_contra moving
    have further : 0 < step ^ 2 * (bend + 2) := by positivity
    exact absurd stopped (not_le.mpr further)
  have none : square = 0 := by rw [whole, still, zero_mul]
  have zero := Linear.eq_zeros_of_dot_self image none
  rw [height] at zero
  exact zero

end Problem

namespace Kkt

/-! ### Rows at a point -/

section Rows
variable (problem : Problem K) (included : List Nat) (inside : Inside problem included)
variable (weights vector : List K)

include inside in
theorem apply_rows : Linear.apply (rows problem included) vector =
    Linear.apply problem.equalities.rows vector ++
      included.map (problem.inequalities.bodyOf vector) := by
  unfold rows
  rw [Linear.apply_append, Constraints.apply_rowsAt _ _ _ inside]

include inside in
theorem apply_rows_eq_zeros_iff : Linear.apply (rows problem included) vector =
      Linear.zeros (problem.equalities.count + included.length) ↔
    Linear.apply problem.equalities.rows vector = Linear.zeros problem.equalities.count ∧
      ∀ row ∈ included, problem.inequalities.bodyOf vector row = 0 := by
  rw [apply_rows problem included inside, Linear.zeros_add,
    ← Linear.map_eq_zeros_iff included (problem.inequalities.bodyOf vector)]
  constructor
  · intro whole
    exact List.append_inj whole (by rw [Linear.length_apply, Linear.length_zeros]; rfl)
  · rintro ⟨upper, lower⟩
    rw [upper, lower]

variable (counts : weights.length = problem.equalities.count + included.length)

include inside counts in
theorem dot_rows : Linear.dot weights (Linear.apply (rows problem included) vector) =
    Linear.dot (weights.take problem.equalities.count)
        (Linear.apply problem.equalities.rows vector) +
      Linear.dot (weights.drop problem.equalities.count)
        (included.map (problem.inequalities.bodyOf vector)) := by
  have leading : (weights.take problem.equalities.count).length =
      (Linear.apply problem.equalities.rows vector).length := by
    rw [List.length_take, counts, Linear.length_apply]
    exact Nat.min_eq_left (Nat.le_add_right _ _)
  rw [apply_rows problem included inside, ← Linear.dot_append _ _ _ _ leading,
    List.take_append_drop]

include inside counts in
/-- Along the other rows, weighted rows are felt through one of them only. -/
theorem dot_rows_of_erase (distinct : included.Nodup) (row : Nat) (weight : K)
    (pair : (row, weight) ∈ included.zip (weights.drop problem.equalities.count))
    (along : Linear.apply (rows problem (included.erase row)) vector =
      Linear.zeros (problem.equalities.count + (included.erase row).length)) :
    Linear.dot weights (Linear.apply (rows problem included) vector) =
      weight * problem.inequalities.bodyOf vector row := by
  obtain ⟨equalities, others⟩ :=
    (apply_rows_eq_zeros_iff problem _ (inside.erase row) vector).mp along
  obtain ⟨rest, _, parted, _⟩ := Linear.dot_map_erase included
    (weights.drop problem.equalities.count) distinct
    (by rw [List.length_drop, counts]; omega) row weight pair
  rw [dot_rows problem included inside weights vector counts, equalities, parted,
    (Linear.map_eq_zeros_iff _ _).mpr others, Linear.dot_zeros_right, Linear.dot_zeros_right,
    zero_add, add_zero]

include inside in
/-- One row more to follow. -/
theorem apply_rows_eq_zeros_of_erase (row : Nat)
    (along : Linear.apply (rows problem (included.erase row)) vector =
      Linear.zeros (problem.equalities.count + (included.erase row).length))
    (uncrossed : problem.inequalities.bodyOf vector row = 0) :
    Linear.apply (rows problem included) vector =
      Linear.zeros (problem.equalities.count + included.length) := by
  obtain ⟨equalities, bodies⟩ :=
    (apply_rows_eq_zeros_iff problem _ (inside.erase row) vector).mp along
  refine (apply_rows_eq_zeros_iff problem included inside vector).mpr ⟨equalities, ?_⟩
  intro other member
  by_cases same : other = row
  · rw [same]
    exact uncrossed
  · exact bodies other ((List.mem_erase_of_ne same).mpr member)

end Rows

/-! ### Regular systems -/

/-- The rows are independent, and the objective is curved along them. -/
structure Regular (problem : Problem K) (included : List Nat) : Prop where
  curved : ∀ vector : List K, vector.length = problem.size →
    Linear.apply (rows problem included) vector =
      Linear.zeros (problem.equalities.count + included.length) →
    Linear.dot vector (Linear.apply problem.quadratic vector) = 0 →
    vector = Linear.zeros problem.size
  independent : ∀ weights : List K,
    weights.length = problem.equalities.count + included.length →
    (∀ vector : List K, vector.length = problem.size →
      Linear.dot weights (Linear.apply (rows problem included) vector) = 0) →
    weights = Linear.zeros (problem.equalities.count + included.length)

section System
variable (problem : Problem K) (included : List Nat) (inside : Inside problem included)

/-- The upper half of the system, in every direction. -/
theorem dot_stationarity (point multipliers vector : List K) (inside : Inside problem included)
    (counts : multipliers.length = problem.equalities.count + included.length) :
    Linear.dot vector ((Linear.apply problem.quadratic point).zipWith (· + ·)
        (Linear.apply (Linear.transpose problem.size (rows problem included)) multipliers)) =
      Linear.dot vector (Linear.apply problem.quadratic point) +
        Linear.dot multipliers (Linear.apply (rows problem included) vector) := by
  have weighted : multipliers.length = (rows problem included).length :=
    counts.trans (length_rows problem included inside).symm
  rw [Linear.zipWith_add_eq, Linear.dot_addScaled, one_mul, Linear.dot_comm vector (Linear.apply
    (Linear.transpose _ _) _), Linear.dot_apply_transpose problem.size _ _ _
      (row_width problem included) weighted]
  rw [Linear.length_apply, Linear.length_apply, Linear.length_transpose, problem.quadratic_height]

omit [Field K] [LinearOrder K] [IsStrictOrderedRing K] [Rooted K] in
theorem halves (entries : List K)
    (length : entries.length = problem.size + (problem.equalities.count + included.length)) :
    (entries.take problem.size).length = problem.size ∧
      (entries.drop problem.size).length = problem.equalities.count + included.length := by
  rw [List.length_take, List.length_drop]
  omega

include inside in
/-- What the system sends to zero. -/
theorem apply_matrix_eq_zeros_iff (point multipliers : List K)
    (size : point.length = problem.size)
    (counts : multipliers.length = problem.equalities.count + included.length) :
    Linear.apply (matrix problem included) (point ++ multipliers) =
        Linear.zeros (problem.size + (problem.equalities.count + included.length)) ↔
      Linear.apply (rows problem included) point =
          Linear.zeros (problem.equalities.count + included.length) ∧
        ∀ vector : List K, vector.length = problem.size →
          Linear.dot vector (Linear.apply problem.quadratic point) +
            Linear.dot multipliers (Linear.apply (rows problem included) vector) = 0 := by
  have felt := fun vector => dot_stationarity problem included point multipliers vector inside
    counts
  have height : ((Linear.apply problem.quadratic point).zipWith (· + ·)
      (Linear.apply (Linear.transpose problem.size (rows problem included)) multipliers)).length =
        problem.size := by
    simp [problem.quadratic_height]
  rw [apply_matrix problem included point multipliers size, Linear.zeros_add]
  generalize (Linear.apply problem.quadratic point).zipWith (· + ·)
    (Linear.apply (Linear.transpose problem.size (rows problem included)) multipliers) = upper
    at felt height
  constructor
  · intro whole
    obtain ⟨stationary, tight⟩ := List.append_inj whole (by rw [height, Linear.length_zeros])
    refine ⟨tight, fun vector _ => ?_⟩
    rw [← felt vector, stationary, Linear.dot_zeros_right]
  · rintro ⟨tight, balanced⟩
    have square := (felt upper).trans (balanced upper height)
    rw [tight, Linear.eq_zeros_of_dot_self upper square, height]

include inside in
/-- A system sends only zero to zero just if it is regular. -/
theorem nonsingular_iff (convex : problem.Convex) :
    Nonsingular (problem.size + (problem.equalities.count + included.length))
        (matrix problem included) ↔ Regular problem included := by
  have none : Linear.apply (rows problem included) (Linear.zeros problem.size) =
      Linear.zeros (problem.equalities.count + included.length) := by
    rw [Linear.apply_zeros, length_rows problem included inside]
  have kernel := apply_matrix_eq_zeros_iff problem included inside
  constructor
  · intro nonsingular
    constructor
    · intro vector size along flat
      have image := convex.apply_eq_zeros vector size flat
      have whole := (kernel vector (Linear.zeros _) size (Linear.length_zeros _)).mpr
        ⟨along, fun other _ => by rw [image, Linear.dot_zeros_right, Linear.dot_zeros, zero_add]⟩
      have zero := nonsingular _ (by rw [List.length_append, size, Linear.length_zeros]) whole
      rw [Linear.zeros_add problem.size] at zero
      exact (List.append_inj zero (by rw [size, Linear.length_zeros])).1
    · intro weights counts weightless
      have whole := (kernel (Linear.zeros _) weights (Linear.length_zeros _) counts).mpr
        ⟨none, fun vector size => by
          rw [Linear.apply_zeros, Linear.dot_zeros_right, weightless vector size, zero_add]⟩
      have zero := nonsingular _ (by rw [List.length_append, counts, Linear.length_zeros]) whole
      rw [Linear.zeros_add problem.size] at zero
      exact (List.append_inj zero rfl).2
  · intro regular entries length whole
    obtain ⟨size, counts⟩ := halves problem included entries length
    rw [← List.take_append_drop problem.size entries] at whole ⊢
    generalize entries.take problem.size = point at size whole ⊢
    generalize entries.drop problem.size = multipliers at counts whole ⊢
    obtain ⟨tight, balanced⟩ := (kernel point multipliers size counts).mp whole
    have flat := balanced point size
    rw [tight, Linear.dot_zeros_right, add_zero] at flat
    have still := regular.curved point size tight flat
    have weightless := regular.independent multipliers counts fun vector fits => by
      have felt := balanced vector fits
      rwa [still, Linear.apply_zeros, Linear.dot_zeros_right, zero_add] at felt
    rw [still, weightless, ← Linear.zeros_add]

include inside in
/-- A system that is accepted is regular. -/
theorem regular_of_accepted (convex : problem.Convex) (tolerance : K)
    (columns : List (ClearedColumn K)) (valid : 0 ≤ tolerance)
    (accepted : factorise tolerance (matrix problem included) = .ok columns) :
    Regular problem included := by
  refine (nonsingular_iff problem included inside convex).mp ?_
  intro entries length whole
  -- The entries are what the system makes of a solution, and by symmetry orthogonal to all that.
  obtain ⟨system, count⟩ := factorise_solves tolerance _ _ entries columns valid
    (matrix_square problem included inside) length accepted
  generalize Elimination.solve columns entries = solved at system count
  obtain ⟨size, counts⟩ := halves problem included entries length
  obtain ⟨solvedSize, solvedCounts⟩ := halves problem included solved count
  have square : Linear.dot entries entries = 0 := by
    nth_rewrite 2 [← system]
    rw [← List.take_append_drop problem.size entries] at whole ⊢
    rw [← List.take_append_drop problem.size solved]
    generalize entries.take problem.size = point at size whole ⊢
    generalize entries.drop problem.size = multipliers at counts whole ⊢
    generalize solved.take problem.size = other at solvedSize ⊢
    generalize solved.drop problem.size = others at solvedCounts ⊢
    obtain ⟨tight, balanced⟩ :=
      (apply_matrix_eq_zeros_iff problem included inside point multipliers size counts).mp whole
    have felt := balanced other solvedSize
    rw [apply_matrix problem included other others solvedSize, Linear.dot_append,
      dot_stationarity problem included other others point inside solvedCounts, tight,
      Linear.dot_zeros_right, Problem.dot_quadratic_comm problem convex.symmetric point other size]
    · linarith
    · simp [size, problem.quadratic_height]
  have zero := Linear.eq_zeros_of_dot_self entries square
  rwa [length] at zero

end System

/-! ### A row more -/

section Extend
variable {problem : Problem K} {included : List Nat} (inside : Inside problem included)
variable {row : Nat} {direction : List K}
variable (along : Linear.apply (rows problem (included.erase row)) direction =
  Linear.zeros (problem.equalities.count + (included.erase row).length))
variable (crosses : problem.inequalities.bodyOf direction row ≠ 0)

include inside along crosses in
/-- A row that is crossed along the others may be added to them. -/
theorem Regular.extend (regular : Regular problem (included.erase row))
    (distinct : included.Nodup) (listed : row ∈ included) (size : direction.length = problem.size) :
    Regular problem included := by
  have outer := inside.erase row
  constructor
  · intro vector fits vanishes flat
    obtain ⟨equalities, bodies⟩ :=
      (apply_rows_eq_zeros_iff problem included inside vector).mp vanishes
    refine regular.curved vector fits ?_ flat
    exact (apply_rows_eq_zeros_iff problem _ outer vector).mpr
      ⟨equalities, fun other member => bodies other (List.mem_of_mem_erase member)⟩
  · intro weights counts weightless
    have fits : (weights.drop problem.equalities.count).length = included.length := by
      rw [List.length_drop, counts]
      omega
    have leading : (weights.take problem.equalities.count).length = problem.equalities.count := by
      rw [List.length_take, counts]
      omega
    obtain ⟨place, bound, here⟩ := List.mem_iff_getElem.mp listed
    have pair : (row, (weights.drop problem.equalities.count)[place]) ∈
        included.zip (weights.drop problem.equalities.count) := by
      rw [← here]
      exact List.mem_iff_getElem.mpr
        ⟨place, by rw [List.length_zip]; omega, by rw [List.getElem_zip]⟩
    generalize (weights.drop problem.equalities.count)[place] = weight at pair
    -- The direction feels the weight of the row alone, so this weight is zero.
    have felt := weightless direction size
    rw [dot_rows_of_erase problem included inside weights direction counts distinct row weight pair
      along] at felt
    have weightZero := (mul_eq_zero.mp felt).resolve_right crosses
    obtain ⟨others, count, parted, zero⟩ := Linear.dot_map_erase included
      (weights.drop problem.equalities.count) distinct fits row weight pair
    have others_zero := regular.independent (weights.take problem.equalities.count ++ others)
      (by rw [List.length_append, leading, count]) fun vector sizes => by
        have balance := weightless vector sizes
        rw [dot_rows problem included inside weights vector counts, parted, weightZero, zero_mul,
          zero_add] at balance
        rw [apply_rows problem _ outer, Linear.dot_append]
        · exact balance
        · rw [leading, Linear.length_apply]
          rfl
    rw [Linear.zeros_add] at others_zero
    obtain ⟨equalities, rest⟩ := List.append_inj others_zero (by rw [leading, Linear.length_zeros])
    rw [← List.take_append_drop problem.equalities.count weights, equalities,
      zero weightZero rest, Linear.zeros_add]

include along crosses in
/-- A row that is crossed along the others is no weighted sum of them. -/
theorem not_weighted_sum (outer : Inside problem (included.erase row)) (weights : List K)
    (counts : weights.length = problem.equalities.count + (included.erase row).length) :
    Linear.apply (Linear.transpose problem.size (rows problem (included.erase row))) weights ≠
      problem.inequalities.rows.getD row [] := by
  intro sum
  have moved := Linear.dot_apply_transpose problem.size (rows problem (included.erase row)) weights
    direction (row_width problem _) (counts.trans (length_rows problem _ outer).symm)
  rw [sum, along, Linear.dot_zeros_right] at moved
  exact crosses moved

end Extend

end Kkt
end ConvexQP
