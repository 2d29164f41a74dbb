import ConvexQP.Proofs.Exact.SolvedArrays
import ConvexQP.Proofs.PhaseOne.Reformulation
import ConvexQP.Proofs.Tensor.Stacking

/-!
The assembled system of a working set beside the views of its parts. The system is symmetric with
the quadratic, and it holds at a point with multipliers exactly if the reduced gradient and the
slacks of the active rows vanish there.
-/
namespace ConvexQP
open scoped Exact

/-! ### Mirror images -/

namespace Linear
variable {R : Type} [Scalar R]

theorem column_append (rows others : List (List R)) (place : Nat) :
    column (rows ++ others) place = column rows place ++ column others place :=
  List.map_append

theorem column_transpose (width : Nat) (rows : List (List R)) (row : Nat)
    (inside : row < rows.length) (fits : rows[row].length = width) :
    column (transpose width rows) row = rows[row] := by
  apply List.ext_getElem
  · simp [column, fits]
  · intro place first second
    simp [column, transpose, List.getD_eq_getElem?_getD, inside, second]

theorem column_beside_left (left right : List (List R)) (width : Nat)
    (widths : ∀ row ∈ left, row.length = width) (heights : left.length = right.length)
    (place : Nat) (within : place < width) :
    column (left.zipWith (· ++ ·) right) place = column left place := by
  apply List.ext_getElem
  · simp [column, heights]
  · intro row first second
    have inside : row < left.length := by simpa [column] using second
    have length := widths left[row] (List.getElem_mem inside)
    simp [column, List.getD_eq_getElem?_getD, List.getElem?_append_left, length, within]

theorem column_beside_right (left right : List (List R)) (width : Nat)
    (widths : ∀ row ∈ left, row.length = width) (heights : left.length = right.length)
    (place : Nat) : column (left.zipWith (· ++ ·) right) (width + place) = column right place := by
  apply List.ext_getElem
  · simp [column, heights]
  · intro row first second
    have inside : row < left.length := by
      rw [heights]
      simpa [column] using second
    have length := widths left[row] (List.getElem_mem inside)
    simp [column, List.getD_eq_getElem?_getD, List.getElem?_append_right, length]

theorem beside_width {Item : Type} (left right : Nat) (rows others : List (List Item))
    (widths : ∀ row ∈ rows, row.length = left) (otherWidths : ∀ row ∈ others, row.length = right) :
    ∀ row ∈ rows.zipWith (· ++ ·) others, row.length = left + right := by
  intro row member
  obtain ⟨place, inside, rfl⟩ := List.getElem_of_mem member
  rw [List.getElem_zipWith, List.length_append, widths _ (List.getElem_mem _),
    otherWidths _ (List.getElem_mem _)]

theorem map_append_eq_beside {Item : Type} (rows : List (List Item)) (right : List Item) :
    rows.map (· ++ right) = rows.zipWith (· ++ ·) (List.replicate rows.length right) := by
  apply List.ext_getElem <;> simp

theorem column_replicate_zeros (count size place : Nat) :
    column (List.replicate count (zeros size) : List (List R)) place = zeros count := by
  have none : (zeros size : List R).getD place 0 = 0 := by
    simp [zeros, List.getD_eq_getElem?_getD, List.getElem?_replicate]
    split <;> rfl
  simp only [column, List.map_replicate, none]
  rfl

theorem transpose_width (width : Nat) (rows : List (List R)) :
    ∀ row ∈ transpose width rows, row.length = rows.length := by
  simp [transpose, column]

/-- A matrix is symmetric if its rows are its columns. -/
theorem transpose_eq_of_columns (width : Nat) (rows : List (List R)) (height : rows.length = width)
    (columns : ∀ place (inside : place < rows.length), column rows place = rows[place]) :
    transpose width rows = rows := by
  apply List.ext_getElem
  · simp [height]
  · intro place first second
    simp only [transpose, List.getElem_map, List.getElem_range, columns place second]

theorem columns_of_transpose_eq (width : Nat) (rows : List (List R))
    (symmetric : transpose width rows = rows) (place : Nat) (inside : place < rows.length) :
    column rows place = rows[place] := by
  have mirrored := List.getElem_of_eq symmetric (by rwa [symmetric])
  simpa only [transpose, List.getElem_map, List.getElem_range] using mirrored

end Linear

namespace Kkt
variable {R : Type} [Scalar R] (problem : Problem R)

/-- A symmetric block, beside and above the same rows and with nothing opposite to it, stays
symmetric. -/
theorem matrixOf_symmetric (active : List (List R))
    (widths : ∀ row ∈ active, row.length = problem.size)
    (symmetric : Linear.transpose problem.size problem.quadratic = problem.quadratic) :
    Linear.transpose (problem.size + active.length) (matrixOf problem active) =
      matrixOf problem active := by
  have height := problem.quadratic_height
  have beside : problem.quadratic.length = (Linear.transpose problem.size active).length := by
    rw [height, Linear.length_transpose]
  have below : active.length = (List.replicate active.length (Linear.zeros active.length) :
      List (List R)).length := List.length_replicate.symm
  have upper : (problem.quadratic.zipWith (· ++ ·) (Linear.transpose problem.size active)).length =
      problem.size := by
    rw [List.length_zipWith, ← beside, height, Nat.min_self]
  unfold matrixOf
  rw [Linear.map_append_eq_beside]
  apply Linear.transpose_eq_of_columns
  · rw [List.length_append, upper, List.length_zipWith, ← below, Nat.min_self]
  · intro place inside
    rw [Linear.column_append]
    rcases Nat.lt_or_ge place problem.size with left | right
    · have listed : place < problem.quadratic.length := height.symm ▸ left
      rw [Linear.column_beside_left _ _ _ problem.quadratic_width beside place left,
        Linear.column_beside_left _ _ _ widths below place left,
        Linear.columns_of_transpose_eq _ _ symmetric place listed,
        List.getElem_append_left (upper.symm ▸ left), List.getElem_zipWith]
      simp [Linear.transpose]
    · obtain ⟨row, rfl⟩ := Nat.exists_eq_add_of_le right
      have listed : row < active.length := by
        rw [List.length_append, upper, List.length_zipWith, ← below, Nat.min_self] at inside
        omega
      rw [Linear.column_beside_right _ _ _ problem.quadratic_width beside row,
        Linear.column_beside_right _ _ _ widths below row,
        Linear.column_transpose _ _ row listed (widths _ (List.getElem_mem listed)),
        Linear.column_replicate_zeros, List.getElem_append_right (by omega)]
      simp [upper]

end Kkt

/-! ### Stacked blocks -/

namespace Kkt.Arrays
variable {R : Type} [Scalar R] (problem : Problem R) (working : List Int)

/-- The equality rows with the working rows stacked below. -/
def stackedRows : Except Error (Tensor R) := do
  let picked ← (Problem.rowsTensor problem.inequalities).pickRows ⟨[working.length], working⟩
  Tensor.appendRows (Problem.rowsTensor problem.equalities) picked

def stackedBounds : Except Error (Tensor R) := do
  let picked ← (Tensor.ofList problem.inequalities.bounds).pickRows ⟨[working.length], working⟩
  Tensor.appendRows (Tensor.ofList problem.equalities.bounds) picked

/-- The quadratic beside the transposed rows, stacked on the rows beside zeros. -/
def stackedMatrix : Except Error (Tensor R) := do
  let active ← stackedRows problem working
  let height := active.shape.headD 0
  let top ← Tensor.appendColumns problem.quadraticTensor active.transpose
  let bottom ← Tensor.appendColumns active (Tensor.zeros [height, height])
  Tensor.appendRows top bottom

def stackedRhs : Except Error (Tensor R) := do
  Tensor.appendRows (linear problem) (← stackedBounds problem working)

theorem stackedRows_eq : stackedRows problem working = rows problem working := by
  have picked := Tensor.pickRows_matrix working problem.size problem.inequalities.rows
    problem.inequalities.row_length
  unfold stackedRows rows numbers Problem.rowsTensor
  rw [picked, Constraints.count]
  cases working.mapM (Tensor.rowNumber problem.inequalities.rows.length) with
  | error refusal => rfl
  | ok chosen =>
      exact Tensor.appendRows_matrices problem.size _ _ problem.equalities.row_length
        (fun row member => problem.inequalities.row_length row
          (Linear.mem_of_mem_pick _ chosen row member)) problem.size_pos

theorem stackedBounds_eq : stackedBounds problem working = bounds problem working := by
  have picked := Tensor.pickRows_list working problem.inequalities.bounds
  unfold stackedBounds bounds numbers
  rw [picked, problem.inequalities.bounds_length, Constraints.count]
  cases working.mapM (Tensor.rowNumber problem.inequalities.rows.length) with
  | error refusal => rfl
  | ok chosen => exact Tensor.appendRows_lists _ _

theorem stackedRhs_eq : stackedRhs problem working = rhs problem working := by
  rw [stackedRhs, stackedBounds_eq, bounds, rhs]
  cases numbers problem working with
  | error refusal => rfl
  | ok chosen => exact Tensor.appendRows_lists _ _

/-- Rows of the size of the problem, stacked into its system. -/
theorem stacked_system (active : List (List R))
    (widths : ∀ row ∈ active, row.length = problem.size) :
    (do
      let top ← Tensor.appendColumns problem.quadraticTensor
        (Tensor.ofRows problem.size active).transpose
      let bottom ← Tensor.appendColumns (Tensor.ofRows problem.size active)
        (Tensor.zeros [active.length, active.length])
      Tensor.appendRows top bottom) =
    .ok (Tensor.ofRows (problem.size + active.length) (matrixOf problem active)) := by
  have across := Linear.transpose_width problem.size active
  have zeroWidths : ∀ row ∈ List.replicate active.length (Linear.zeros active.length : List R),
      row.length = active.length := by
    intro row member
    rw [List.eq_of_mem_replicate member, Linear.zeros, List.length_replicate]
  have top := Tensor.appendColumns_matrices problem.size active.length problem.quadratic
    (Linear.transpose problem.size active)
    (by rw [problem.quadratic_height, Linear.length_transpose]) problem.quadratic_width across
  have bottom := Tensor.appendColumns_matrices problem.size active.length active
    (List.replicate active.length (Linear.zeros active.length)) List.length_replicate.symm
    widths zeroWidths
  rw [Tensor.transpose_ofRows problem.size active widths, Tensor.zeros_square,
    Problem.quadraticTensor, top, bottom, matrixOf, Linear.map_append_eq_beside]
  exact Tensor.appendRows_matrices (problem.size + active.length) _ _
    (Linear.beside_width _ _ _ _ problem.quadratic_width across)
    (Linear.beside_width _ _ _ _ widths zeroWidths) (Nat.add_pos_left problem.size_pos _)

theorem stackedMatrix_eq : stackedMatrix problem working = matrix problem working := by
  rw [stackedMatrix, stackedRows_eq, rows, matrix]
  cases numbers problem working with
  | error refusal => rfl
  | ok chosen => exact stacked_system problem _ (row_width problem chosen)

end Kkt.Arrays

/-! ### Solutions -/

variable {K : Type} [Field K] [LinearOrder K] [IsStrictOrderedRing K] [Rooted K]

namespace Linear

theorem subtract_eq_zeros_iff (left right : List K) (fits : left.length = right.length) :
    subtract left right = zeros left.length ↔ left = right := by
  refine ⟨eq_of_subtract_eq_zeros left right fits, ?_⟩
  rintro rfl
  apply List.ext_getElem
  · simp
  · simp [subtract, zeros]

theorem addScaled_subtract_eq_zeros_iff (image total weighted : List K)
    (fits : image.length = total.length) (sizes : weighted.length = total.length) :
    addScaled 1 weighted (subtract image total) = zeros total.length ↔
      image.zipWith (· + ·) weighted = total := by
  have length : (image.zipWith (· + ·) weighted).length = total.length := by
    rw [List.length_zipWith, fits, sizes, Nat.min_self]
  have gathered : addScaled 1 weighted (subtract image total) =
      subtract (image.zipWith (· + ·) weighted) total := by
    apply List.ext_getElem
    · simp [fits, sizes]
    · intro place _ _
      simp only [addScaled, subtract, List.getElem_zipWith]
      ring
  rw [gathered, ← length, subtract_eq_zeros_iff _ _ length]

end Linear

namespace Kkt
variable (problem : Problem K) (included : List Nat)

/-- The system holds exactly at stationary points of the active rows, with their multipliers. -/
theorem system_iff (inside : Inside problem included) (point multipliers : List K)
    (size : point.length = problem.size) :
    Linear.apply (matrix problem included) (point ++ multipliers) = rhs problem included ↔
      reducedGradient problem point included multipliers = Linear.zeros problem.size ∧
      problem.equalities.slack point = Linear.zeros problem.equalities.count ∧
      problem.inequalities.slackAt point included = Linear.zeros included.length := by
  have images : (Linear.apply problem.quadratic point).length = problem.linear.length := by
    rw [Linear.length_apply, problem.quadratic_height, problem.linear_length]
  have weights : (Linear.apply (Linear.transpose problem.size (rows problem included))
      multipliers).length = problem.linear.length := by
    rw [Linear.length_apply, Linear.length_transpose, problem.linear_length]
  have upper : ((Linear.apply problem.quadratic point).zipWith (· + ·)
      (Linear.apply (Linear.transpose problem.size (rows problem included)) multipliers)).length =
      problem.linear.length := by
    rw [List.length_zipWith, images, weights, Nat.min_self]
  have equalities : (Linear.apply problem.equalities.rows point).length =
      problem.equalities.bounds.length := by
    rw [Linear.length_apply, problem.equalities.bounds_length]
  have picked : (problem.inequalities.boundsAt included).length = included.length := by
    rw [Constraints.boundsAt_eq_map _ _ inside, List.length_map]
  have bodies : (problem.inequalities.boundsAt included).length =
      (Linear.apply (problem.inequalities.rowsAt included) point).length := by
    rw [picked, Constraints.apply_rowsAt _ _ _ inside, List.length_map]
  have stationary : (Linear.apply problem.quadratic point).zipWith (· + ·)
      (Linear.apply (Linear.transpose problem.size (rows problem included)) multipliers) =
        problem.linear ↔
      reducedGradient problem point included multipliers = Linear.zeros problem.size := by
    have balance := Linear.addScaled_subtract_eq_zeros_iff _ _ _ images weights
    rw [problem.linear_length] at balance
    rw [reducedGradient_eq, Problem.gradient, balance]
  have level : Linear.apply problem.equalities.rows point = problem.equalities.bounds ↔
      problem.equalities.slack point = Linear.zeros problem.equalities.count := by
    have count : problem.equalities.count = problem.equalities.bounds.length :=
      problem.equalities.bounds_length.symm
    rw [Constraints.slack, count, Linear.subtract_eq_zeros_iff _ _ equalities.symm, eq_comm]
  have tight : Linear.apply (problem.inequalities.rowsAt included) point =
        problem.inequalities.boundsAt included ↔
      problem.inequalities.slackAt point included = Linear.zeros included.length := by
    rw [Constraints.slackAt, ← picked, Linear.subtract_eq_zeros_iff _ _ bodies, eq_comm]
  rw [apply_matrix problem included point multipliers size, rhs, rows, bounds,
    Linear.apply_append, ← stationary, ← level, ← tight, rows]
  constructor
  · intro same
    obtain ⟨first, others⟩ := List.append_inj same upper
    exact ⟨first, List.append_inj others equalities⟩
  · rintro ⟨first, second, third⟩
    rw [first, second, third]

namespace Arrays

theorem numbers_listed {R : Type} (problem : Problem R) (working : List Int)
    (listed : ∀ number ∈ working, -(problem.inequalities.count : Int) ≤ number ∧
      number < problem.inequalities.count) :
    ∃ included, numbers problem working = .ok included ∧ included.length = working.length := by
  obtain ⟨included, named⟩ := mapM_total (Tensor.rowNumber problem.inequalities.count) working
    fun number member => by
      obtain ⟨low, high⟩ := listed number member
      unfold Tensor.rowNumber
      extract_lets shifted
      rw [if_neg (by omega)]
      exact ⟨_, rfl⟩
  exact ⟨included, named, length_of_mapM_ok _ working included named⟩

/-- The system of a working set is what stacking its blocks makes, whichever of them are empty. It
is square, and symmetric with the quadratic. A point with multipliers solves it exactly if the
reduced gradient vanishes, and so do the slacks of the equality rows and of the included rows. -/
theorem solves_iff_views_vanish (problem : Problem K) (working : List Int)
    (listed : ∀ number ∈ working, -(problem.inequalities.count : Int) ≤ number ∧
      number < problem.inequalities.count)
    (point multipliers : List K) (size : point.length = problem.size)
    (counts : multipliers.length = problem.equalities.count + working.length) :
    ∃ system sides, matrix problem working = .ok system ∧ rhs problem working = .ok sides ∧
      stackedMatrix problem working = .ok system ∧ stackedRhs problem working = .ok sides ∧
      system.shape = [problem.size + (problem.equalities.count + working.length),
        problem.size + (problem.equalities.count + working.length)] ∧
      (Linear.transpose problem.size problem.quadratic = problem.quadratic →
        system.transpose = system) ∧
      (Tensor.multiply system (Tensor.ofList (point ++ multipliers)) = .ok sides ↔
        reducedGradient problem (Tensor.ofList point) working (Tensor.ofList multipliers) =
            .ok (Tensor.ofList (Linear.zeros problem.size)) ∧
          equalitySlack problem (Tensor.ofList point) =
            .ok (Tensor.ofList (Linear.zeros problem.equalities.count)) ∧
          inequalitySlack problem (Tensor.ofList point) working =
            .ok (Tensor.ofList (Linear.zeros working.length))) := by
  obtain ⟨included, named, count⟩ := numbers_listed problem working listed
  have inside := numbers_inside problem working included named
  have active := length_rows problem included inside
  rw [count] at active
  obtain ⟨height, widths⟩ := matrix_square problem included inside
  rw [count] at height widths
  have length : (point ++ multipliers).length =
      problem.size + (problem.equalities.count + working.length) := by
    rw [List.length_append, size, counts]
  have fits : point? problem (Tensor.ofList point) = some point := by
    rw [point?, Tensor.ofList, if_pos (by rw [size])]
    rfl
  have weighted : (Tensor.ofList multipliers).shape = [(Kkt.rows problem included).length] := by
    rw [active, ← counts]
    rfl
  have assembled : matrix problem working = .ok (Tensor.ofRows
      (problem.size + (problem.equalities.count + working.length))
      (Kkt.matrix problem included)) := by
    rw [matrix, named, ← active]
    rfl
  have balanced : rhs problem working = .ok (Tensor.ofList (Kkt.rhs problem included)) := by
    rw [rhs, named]
    rfl
  refine ⟨_, _, assembled, balanced, (stackedMatrix_eq problem working).trans assembled,
    (stackedRhs_eq problem working).trans balanced, ?_, fun symmetric => ?_, ?_⟩
  · rw [Tensor.ofRows, height]
  · rw [Tensor.transpose_ofRows _ _ widths, height]
    have mirrored := matrixOf_symmetric problem _ (row_width problem included) symmetric
    rw [active] at mirrored
    exact congrArg (Tensor.ofRows _) mirrored
  · have views := system_iff problem included inside point multipliers size
    rw [count] at views
    rw [Tensor.multiply_ofRows _ _ _ widths length]
    simp only [reducedGradient, equalitySlack, inequalitySlack, named, fits, weighted, bind,
      Except.bind, pure, Except.pure, decide_true, Except.ok.injEq, Tensor.ofList_inj]
    exact views

/-- In the valley, with the first of its two rows named from the end. -/
theorem solves_iff_views_vanish_valley : ∃ system sides, matrix valley [-2] = .ok system ∧
    rhs valley [-2] = .ok sides ∧ system.shape = [3, 3] ∧ system.transpose = system ∧
    Tensor.multiply system (Tensor.ofList [1 / 2, 1, 1]) = .ok sides := by
  obtain ⟨system, sides, assembled, balanced, _, _, square, symmetric, solves⟩ :=
    solves_iff_views_vanish valley [-2] (by decide) [1 / 2, 1] [1] rfl rfl
  have stationary : reducedGradient valley (Tensor.ofList [1 / 2, 1]) [-2] (Tensor.ofList [1]) =
      .ok (Tensor.ofList (Linear.zeros 2)) := by with_unfolding_all rfl
  have tight : inequalitySlack valley (Tensor.ofList [1 / 2, 1]) [-2] =
      .ok (Tensor.ofList (Linear.zeros 1)) := by with_unfolding_all rfl
  exact ⟨system, sides, assembled, balanced, square, symmetric valley_convex.symmetric,
    solves.mpr ⟨stationary, rfl, tight⟩⟩

end Arrays
end Kkt
end ConvexQP
