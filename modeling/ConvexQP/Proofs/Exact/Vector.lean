import ConvexQP.Proofs.Exact.Arithmetic
import Mathlib.Tactic.Linarith
import Mathlib.Tactic.Ring

/-!
Vectors and matrices in exact arithmetic. The product of vectors is linear in both of them, and a
matrix moves from one side of it to the other as its transpose.
-/
namespace ConvexQP.Linear
open scoped Exact
variable {K : Type} [Field K] [LinearOrder K] [IsStrictOrderedRing K] [Rooted K]

theorem sum_eq (values : List K) : sum values = values.sum := List.sum_eq_foldl.symm

@[simp] theorem dot_nil (right : List K) : dot [] right = 0 := rfl

@[simp] theorem dot_nil_right (left : List K) : dot left [] = 0 := by
  cases left <;> rfl

@[simp] theorem dot_cons (first other : K) (left right : List K) :
    dot (first :: left) (other :: right) = first * other + dot left right := by
  unfold dot
  rw [sum_eq, sum_eq, List.zipWith_cons_cons, List.sum_cons]

theorem dot_comm (left right : List K) : dot left right = dot right left := by
  induction left generalizing right with
  | nil => simp
  | cons first left ih =>
      cases right with
      | nil => simp
      | cons other right => rw [dot_cons, dot_cons, ih right, mul_comm]

theorem dot_append (left right other rest : List K) (fits : left.length = other.length) :
    dot (left ++ right) (other ++ rest) = dot left other + dot right rest := by
  induction left generalizing other with
  | nil =>
      rw [List.length_eq_zero_iff.mp fits.symm]
      simp
  | cons first left ih =>
      cases other with
      | nil => simp at fits
      | cons entry other =>
          simp only [List.length_cons, Nat.add_right_cancel_iff] at fits
          rw [List.cons_append, List.cons_append, dot_cons, dot_cons, ih other fits]
          ring

@[simp] theorem dot_zeros (size : Nat) (right : List K) : dot (zeros size) right = 0 := by
  induction size generalizing right with
  | zero => simp [zeros]
  | succ size ih =>
      cases right with
      | nil => simp
      | cons entry right =>
          have rest := ih right
          unfold zeros at rest ⊢
          rw [List.replicate_succ, dot_cons, rest]
          ring

theorem dot_zeros_right (left : List K) (size : Nat) : dot left (zeros size) = 0 := by
  rw [dot_comm, dot_zeros]

theorem dot_subtract (weights left right : List K) (fits : left.length = right.length) :
    dot weights (subtract left right) = dot weights left - dot weights right := by
  induction left generalizing weights right with
  | nil =>
      rw [List.length_eq_zero_iff.mp fits.symm]
      simp [subtract]
  | cons first left ih =>
      cases right with
      | nil => simp at fits
      | cons other right =>
          cases weights with
          | nil => simp
          | cons weight weights =>
              simp only [List.length_cons, Nat.add_right_cancel_iff] at fits
              have rest := ih weights right fits
              unfold subtract at rest ⊢
              rw [List.zipWith_cons_cons, dot_cons, dot_cons, dot_cons, rest]
              ring

theorem subtract_dot (left right weights : List K) (fits : left.length = right.length) :
    dot (subtract left right) weights = dot left weights - dot right weights := by
  rw [dot_comm, dot_subtract weights left right fits, dot_comm weights, dot_comm weights]

theorem negate_dot (left right : List K) : dot (negate left) right = -dot left right := by
  induction left generalizing right with
  | nil => simp [negate]
  | cons first left ih =>
      cases right with
      | nil => simp
      | cons other right =>
          have rest := ih right
          simp only [negate, List.map_cons, dot_cons] at rest ⊢
          rw [rest]
          ring

theorem dot_addScaled (weights direction base : List K) (factor : K)
    (fits : base.length = direction.length) :
    dot weights (addScaled factor direction base) =
      dot weights base + factor * dot weights direction := by
  induction base generalizing weights direction with
  | nil =>
      rw [List.length_eq_zero_iff.mp fits.symm]
      simp [addScaled]
  | cons start base ih =>
      cases direction with
      | nil => simp at fits
      | cons along direction =>
          cases weights with
          | nil => simp
          | cons weight weights =>
              simp only [List.length_cons, Nat.add_right_cancel_iff] at fits
              have rest := ih weights direction fits
              unfold addScaled at rest ⊢
              rw [List.zipWith_cons_cons, dot_cons, dot_cons, dot_cons, rest]
              ring

theorem addScaled_zeros (factor : K) (base : List K) (size : Nat) (fits : base.length = size) :
    addScaled factor (zeros size) base = base := by
  apply List.ext_getElem
  · simp [addScaled, zeros, fits]
  · intro place _ _
    simp [addScaled, zeros]

theorem dot_scale (factor : K) (left right : List K) :
    dot (scale factor left) right = factor * dot left right := by
  induction left generalizing right with
  | nil => simp [scale]
  | cons first left ih =>
      cases right with
      | nil => simp
      | cons other right =>
          have rest := ih right
          unfold scale at rest ⊢
          rw [List.map_cons, dot_cons, dot_cons, rest]
          ring

theorem dot_self_nonneg (vector : List K) : 0 ≤ dot vector vector := by
  induction vector with
  | nil => simp
  | cons entry rest ih =>
      rw [dot_cons]
      exact add_nonneg (mul_self_nonneg entry) ih

theorem eq_zeros_of_dot_self (vector : List K) (zero : dot vector vector = 0) :
    vector = zeros vector.length := by
  induction vector with
  | nil => rfl
  | cons entry rest ih =>
      rw [dot_cons] at zero
      have square := mul_self_nonneg entry
      have others := dot_self_nonneg rest
      have entryZero : entry = 0 := mul_self_eq_zero.mp (by linarith)
      have restZero := ih (by linarith)
      unfold zeros at restZero ⊢
      rw [List.length_cons, List.replicate_succ, ← restZero, entryZero]

/-- Weights that are not far below zero, on entries that are not negative. -/
theorem dot_lower (weights entries : List K) (tolerance : K)
    (fits : weights.length = entries.length) (floor : ∀ weight ∈ weights, -tolerance ≤ weight)
    (nonneg : ∀ entry ∈ entries, 0 ≤ entry) :
    -(tolerance * entries.sum) ≤ dot weights entries := by
  induction weights generalizing entries with
  | nil =>
      rw [List.length_eq_zero_iff.mp fits.symm]
      simp
  | cons weight weights ih =>
      cases entries with
      | nil => simp at fits
      | cons entry entries =>
          simp only [List.length_cons, Nat.add_right_cancel_iff] at fits
          have rest := ih entries fits
            (fun other member => floor other (List.mem_cons_of_mem weight member))
            (fun other member => nonneg other (List.mem_cons_of_mem entry member))
          have here := mul_le_mul_of_nonneg_right (floor weight List.mem_cons_self)
            (nonneg entry List.mem_cons_self)
          rw [dot_cons, List.sum_cons]
          linarith

theorem eq_of_subtract_eq_zeros (left right : List K) (fits : left.length = right.length)
    (zero : subtract left right = zeros left.length) : left = right := by
  apply List.ext_getElem fits
  intro place first second
  have bound : place < (subtract left right).length := by
    simp only [subtract, List.length_zipWith]
    omega
  have entry := List.getElem_of_eq zero bound
  simp only [subtract, zeros, List.getElem_zipWith, List.getElem_replicate] at entry
  exact sub_eq_zero.mp entry

theorem addScaled_zero (direction base : List K) (fits : base.length = direction.length) :
    addScaled 0 direction base = base := by
  apply List.ext_getElem
  · simp [addScaled, fits]
  · intro place _ _
    simp [addScaled]

theorem addScaled_one_subtract (target start : List K) (fits : target.length = start.length) :
    addScaled 1 (subtract target start) start = target := by
  apply List.ext_getElem
  · simp [addScaled, subtract, fits]
  · intro place _ _
    simp [addScaled, subtract]

theorem addScaled_subtract_self (factor : K) (base : List K) :
    addScaled factor (subtract base base) base = base := by
  apply List.ext_getElem
  · simp [addScaled, subtract]
  · intro place _ _
    simp [addScaled, subtract]

theorem norm_nonneg (vector : List K) : 0 ≤ norm vector := Rooted.root_nonneg _

/-! ### Lengths -/

section Lengths
variable {R : Type} [Scalar R]

@[simp] theorem length_zeros (size : Nat) : (zeros size : List R).length = size := by
  simp [zeros]

@[simp] theorem length_subtract (left right : List R) :
    (subtract left right).length = min left.length right.length := by
  simp [subtract]

@[simp] theorem length_addScaled (factor : R) (direction base : List R) :
    (addScaled factor direction base).length = min base.length direction.length := by
  simp [addScaled]

@[simp] theorem length_apply (rows : List (List R)) (vector : List R) :
    (apply rows vector).length = rows.length := by
  simp [apply]

@[simp] theorem length_transpose (width : Nat) (rows : List (List R)) :
    (transpose width rows).length = width := by
  simp [transpose]

end Lengths

/-! ### Matrices -/

@[simp] theorem apply_nil (vector : List K) : apply [] vector = [] := rfl

@[simp] theorem apply_cons (row : List K) (rows : List (List K)) (vector : List K) :
    apply (row :: rows) vector = dot row vector :: apply rows vector := rfl

@[simp] theorem apply_append (rows others : List (List K)) (vector : List K) :
    apply (rows ++ others) vector = apply rows vector ++ apply others vector :=
  List.map_append

theorem apply_zeros (rows : List (List K)) (size : Nat) :
    apply rows (zeros size) = zeros rows.length := by
  induction rows with
  | nil => rfl
  | cons row rows ih =>
      rw [apply_cons, ih, dot_zeros_right]
      rfl

theorem apply_subtract (rows : List (List K)) (left right : List K)
    (fits : left.length = right.length) :
    apply rows (subtract left right) = subtract (apply rows left) (apply rows right) := by
  induction rows with
  | nil => rfl
  | cons row rows ih =>
      rw [apply_cons, apply_cons, apply_cons, ih, dot_subtract row left right fits]
      rfl

theorem apply_addScaled (rows : List (List K)) (factor : K) (direction base : List K)
    (fits : base.length = direction.length) :
    apply rows (addScaled factor direction base) =
      addScaled factor (apply rows direction) (apply rows base) := by
  induction rows with
  | nil => rfl
  | cons row rows ih =>
      rw [apply_cons, apply_cons, apply_cons, ih, dot_addScaled row direction base factor fits]
      rfl

theorem apply_transpose_nil (width : Nat) (weights : List K) :
    apply (transpose width []) weights = zeros width := by
  unfold apply transpose zeros
  rw [List.map_map]
  apply List.ext_getElem
  · simp
  · intro place _ _
    simp [column]

theorem apply_transpose_cons (width : Nat) (row : List K) (rows : List (List K)) (weight : K)
    (weights : List K) (fits : row.length = width) :
    apply (transpose width (row :: rows)) (weight :: weights) =
      addScaled weight row (apply (transpose width rows) weights) := by
  apply List.ext_getElem
  · simp [fits]
  · intro place first second
    have inside : place < row.length := by
      rw [length_apply, length_transpose] at first
      omega
    simp only [apply, transpose, addScaled, column, List.getElem_map, List.getElem_zipWith,
      List.getElem_range, List.map_cons, dot_cons, List.getD_eq_getElem?_getD,
      List.getElem?_eq_getElem inside, Option.getD_some]
    ring

theorem dot_apply_transpose (width : Nat) (rows : List (List K)) (weights vector : List K)
    (widths : ∀ row ∈ rows, row.length = width) (weighted : weights.length = rows.length) :
    dot (apply (transpose width rows) weights) vector = dot weights (apply rows vector) := by
  induction rows generalizing weights with
  | nil => rw [apply_transpose_nil, List.length_eq_zero_iff.mp weighted, dot_zeros, dot_nil]
  | cons row rows ih =>
      cases weights with
      | nil => simp at weighted
      | cons weight weights =>
          simp only [List.length_cons, Nat.add_right_cancel_iff] at weighted
          have here := widths row List.mem_cons_self
          have rest := ih weights (fun other member => widths other (List.mem_cons_of_mem row member))
            weighted
          have sizes : (apply (transpose width rows) weights).length = row.length := by
            rw [length_apply, length_transpose, here]
          rw [apply_transpose_cons width row rows weight weights here, dot_comm,
            dot_addScaled vector row _ weight sizes, dot_comm vector, rest, apply_cons, dot_cons,
            dot_comm vector]
          ring

end ConvexQP.Linear
