import ConvexQP.Proofs.Attempts
import ConvexQP.Proofs.Exact.Vector
import ConvexQP.Tensor.Operations

/-!
Arrays that are made of rows or of a list. Their entries are read back from the row-major order, and
products and transposes of them are those of the rows.
-/
namespace ConvexQP.Tensor

theorem flatten_getElem?_of_width {Item : Type} (width : Nat) (rows : List (List Item))
    (widths : ∀ row ∈ rows, row.length = width) (row place : Nat) (inside : place < width) :
    rows.flatten[row * width + place]? = rows[row]?.bind (·[place]?) := by
  induction rows generalizing row with
  | nil => simp
  | cons first rest ih =>
      obtain ⟨length, others⟩ := List.forall_mem_cons.mp widths
      rw [List.flatten_cons]
      cases row with
      | zero =>
          rw [Nat.zero_mul, Nat.zero_add, List.getElem?_append_left (by omega)]
          rfl
      | succ row =>
          rw [Nat.succ_mul, List.getElem?_append_right (by omega), List.getElem?_cons_succ,
            ← ih others row]
          congr 1
          omega

theorem ofList_inj {Item : Type} (values others : List Item) :
    ofList values = ofList others ↔ values = others := by
  refine ⟨fun same => ?_, congrArg ofList⟩
  simpa [ofList] using congrArg Tensor.data same

variable {R : Type} [Scalar R]

theorem entry_ofRows (width : Nat) (rows : List (List R))
    (widths : ∀ row ∈ rows, row.length = width)
    (row place : Nat) (inside : row < rows.length) (within : place < width) :
    (ofRows width rows).entry [row, place] = rows[row].getD place 0 := by
  have read := flatten_getElem?_of_width width rows widths row place within
  rw [List.getElem?_eq_getElem inside, Option.bind_some] at read
  simp [entry, ofRows, offset, Array.getD_eq_getD_getElem?, read]

theorem entry_ofColumn (values : List R) (place : Nat) :
    (⟨[values.length, 1], values.toArray⟩ : Tensor R).entry [place, 0] = values.getD place 0 := by
  simp [entry, offset, Array.getD_eq_getD_getElem?]

/-- Rows of one width are read back from their row-major order. -/
theorem rows_ofRows (width : Nat) (rows : List (List R))
    (widths : ∀ row ∈ rows, row.length = width) : (ofRows width rows).rows = rows := by
  apply List.ext_getElem
  · simp [Tensor.rows, ofRows]
  · intro row first second
    have length := widths rows[row] (List.getElem_mem second)
    apply List.ext_getElem
    · simp [Tensor.rows, ofRows, length]
    · intro place third fourth
      have read := entry_ofRows width rows widths row place second (by omega)
      rw [List.getD_eq_getElem?_getD, List.getElem?_eq_getElem fourth, Option.getD_some] at read
      simpa [Tensor.rows, ofRows] using read

theorem ofFn_matrix {Item : Type} (height width : Nat) (entry : List Nat → Item) :
    ofFn [height, width] entry = ofRows width ((List.range height).map fun row =>
      (List.range width).map fun place => entry [row, place]) := by
  have inner : indices [width] = (List.range width).map ([·]) := by
    simp only [indices, List.map_cons, List.map_nil, ← List.map_eq_flatMap]
  have outer : indices [height, width] = (List.range height).flatMap fun row =>
      (indices [width]).map (row :: ·) := rfl
  simp only [ofFn, ofRows, outer, inner, List.map_map, Function.comp_def, List.length_map,
    List.length_range, List.flatMap_def, List.map_flatten]

theorem ofFn_column {Item : Type} (height : Nat) (entry : List Nat → Item) :
    ofFn [height, 1] entry =
      ⟨[height, 1], ((List.range height).map fun row => entry [row, 0]).toArray⟩ := by
  rw [ofFn_matrix]
  simp only [ofRows, List.length_map, List.length_range, List.range_one, List.map_cons,
    List.map_nil, ← List.flatMap_def, ← List.map_eq_flatMap]

theorem transpose_ofRows (width : Nat) (rows : List (List R))
    (widths : ∀ row ∈ rows, row.length = width) :
    (ofRows width rows).transpose = ofRows rows.length (Linear.transpose width rows) := by
  have turned : (ofRows width rows).transpose = ofFn [width, rows.length] fun index =>
      (ofRows width rows).entry index.reverse := rfl
  rw [turned, ofFn_matrix]
  congr 1
  apply List.map_congr_left
  intro place member
  apply List.ext_getElem
  · simp [Linear.column]
  · intro row first second
    have inside : row < rows.length := by simpa using first
    have read := entry_ofRows width rows widths row place inside (List.mem_range.mp member)
    simpa [Linear.column] using read

/-- The product of a matrix with a list. -/
theorem multiply_ofRows (width : Nat) (rows : List (List R)) (vector : List R)
    (widths : ∀ row ∈ rows, row.length = width) (fits : vector.length = width) :
    multiply (ofRows width rows) (ofList vector) = .ok (ofList (Linear.apply rows vector)) := by
  have bodies (row : Nat) (inside : row < rows.length) :
      (List.range width).map (fun step => (ofRows width rows).entry [row, step] *
        (⟨[vector.length, 1], vector.toArray⟩ : Tensor R).entry [step, 0]) =
      rows[row].zipWith (· * ·) vector := by
    have length := widths rows[row] (List.getElem_mem inside)
    apply List.ext_getElem
    · simp [length, fits]
    · intro step first second
      have within : step < width := by simpa using first
      simp only [List.getElem_map, List.getElem_range, List.getElem_zipWith,
        entry_ofRows width rows widths row step inside within, entry_ofColumn]
      simp [length, fits, within]
  have column : ofFn [rows.length, 1] (fun index => Linear.sum ((List.range width).map fun step =>
      (ofRows width rows).entry [index.getD 0 0, step] *
        (⟨[vector.length, 1], vector.toArray⟩ : Tensor R).entry [step, index.getD 1 0])) =
      ⟨[rows.length, 1], (Linear.apply rows vector).toArray⟩ := by
    rw [ofFn_column]
    congr 2
    apply List.ext_getElem
    · simp [Linear.apply]
    · intro row first second
      have inside : row < rows.length := by simpa using first
      simp only [List.getElem_map, List.getElem_range, Linear.apply]
      exact congrArg Linear.sum (bodies row inside)
  have product : multiply (ofRows width rows) (ofList vector) = .ok ⟨[rows.length],
      (ofFn [rows.length, 1] fun index => Linear.sum ((List.range width).map fun step =>
        (ofRows width rows).entry [index.getD 0 0, step] *
          (⟨[vector.length, 1], vector.toArray⟩ : Tensor R).entry
            [step, index.getD 1 0])).data⟩ := by
    simp [multiply, ofRows, ofList, rank, atLeastMatrix, matrixPart, fit, fitReversed, fits]
  rw [product, column, ofList, Linear.length_apply]

/-! ### Row numbers -/

theorem rowNumber_inside (count : Nat) (number : Int) (row : Nat)
    (named : rowNumber count number = .ok row) : row < count := by
  unfold rowNumber at named
  extract_lets shifted at named
  split at named
  · cases named
  · have same := Except.ok.inj named
    omega

/-- Rows that integers name are as many as the integers, and lie inside. -/
theorem rowNumbers_inside (count : Nat) (numbers : List Int) (chosen : List Nat)
    (named : numbers.mapM (rowNumber count) = .ok chosen) :
    chosen.length = numbers.length ∧ ∀ row ∈ chosen, row < count := by
  refine ⟨length_of_mapM_ok _ numbers chosen named, fun row member => ?_⟩
  obtain ⟨number, _, read⟩ := mem_of_mapM_ok _ numbers chosen named row member
  exact rowNumber_inside count number row read

end ConvexQP.Tensor
