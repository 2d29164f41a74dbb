import ConvexQP.Proofs.Exact.Kkt
import ConvexQP.Proofs.Tensor.Rows

/-!
Stacking and picking of arrays that are made of rows or of a list. The outcome is made of the rows
joined or picked, also where an operand has no rows and vanishes from the stack.
-/
namespace ConvexQP.Tensor
variable {R : Type} [Scalar R]

theorem ofFn_list {Item : Type} (size : Nat) (entry : List Nat → Item) :
    ofFn [size] entry = ofList ((List.range size).map fun place => entry [place]) := by
  have single : indices [size] = (List.range size).map ([·]) := by
    simp only [indices, List.map_cons, List.map_nil, ← List.map_eq_flatMap]
  rw [ofFn, single, List.map_map, ofList, List.length_map, List.length_range]
  rfl

theorem entry_ofList (values : List R) (place : Nat) :
    (ofList values).entry [place] = values.getD place 0 := by
  simp [entry, ofList, offset, Array.getD_eq_getD_getElem?]

/-! ### Joining -/

theorem join_lists (values others : List R) :
    join 0 (ofList values) (ofList others) = .ok (ofList (values ++ others)) := by
  have joined : join 0 (ofList values) (ofList others) =
      .ok (ofFn [values.length + others.length] fun index =>
        if index.getD 0 0 < values.length then (ofList values).entry index
        else (ofList others).entry (index.set 0 (index.getD 0 0 - values.length))) := by
    simp [join, ofList, rank]
  rw [joined, ofFn_list]
  congr 2
  apply List.ext_getElem
  · simp
  · intro place first second
    simp only [List.getElem_map, List.getElem_range, List.getD_cons_zero, List.set_cons_zero,
      entry_ofList, List.getElem_append]
    split
    · rename_i inside
      simp [inside]
    · rename_i outside
      have within : place - values.length < others.length := by
        rw [List.length_append] at second
        omega
      simp [within]

theorem join_below (width : Nat) (rows others : List (List R))
    (widths : ∀ row ∈ rows, row.length = width) (otherWidths : ∀ row ∈ others, row.length = width) :
    join 0 (ofRows width rows) (ofRows width others) = .ok (ofRows width (rows ++ others)) := by
  have joined : join 0 (ofRows width rows) (ofRows width others) =
      .ok (ofFn [rows.length + others.length, width] fun index =>
        if index.getD 0 0 < rows.length then (ofRows width rows).entry index
        else (ofRows width others).entry (index.set 0 (index.getD 0 0 - rows.length))) := by
    simp [join, ofRows, rank]
  have upper := rows_ofRows width rows widths
  have lower := rows_ofRows width others otherWidths
  rw [joined, ofFn_matrix, List.range_add, List.map_append, List.map_map]
  congr 3
  · refine Eq.trans (List.map_congr_left fun row member => ?_) upper
    simp [List.mem_range.mp member]
  · refine Eq.trans (List.map_congr_left fun row member => ?_) lower
    simp

theorem join_beside (left right : Nat) (rows others : List (List R))
    (heights : rows.length = others.length) (widths : ∀ row ∈ rows, row.length = left)
    (otherWidths : ∀ row ∈ others, row.length = right) :
    join 1 (ofRows left rows) (ofRows right others) =
      .ok (ofRows (left + right) (rows.zipWith (· ++ ·) others)) := by
  have joined : join 1 (ofRows left rows) (ofRows right others) =
      .ok (ofFn [rows.length, left + right] fun index =>
        if index.getD 1 0 < left then (ofRows left rows).entry index
        else (ofRows right others).entry (index.set 1 (index.getD 1 0 - left))) := by
    simp [join, ofRows, rank, heights]
  -- Both matrices are made of their entries, row by row of the first one.
  have first : ((List.range rows.length).map fun row => (List.range left).map fun place =>
      (ofRows left rows).entry [row, place]) = rows := rows_ofRows left rows widths
  have second : ((List.range rows.length).map fun row => (List.range right).map fun place =>
      (ofRows right others).entry [row, place]) = others := by
    rw [heights]
    exact rows_ofRows right others otherWidths
  rw [joined, ofFn_matrix]
  nth_rewrite 3 [← first]
  nth_rewrite 2 [← second]
  rw [List.zipWith_map, List.zipWith_self]
  congr 2
  apply List.map_congr_left
  intro row _
  rw [List.range_add, List.map_append, List.map_map]
  congr 1
  · apply List.map_congr_left
    intro place member
    simp [List.mem_range.mp member]
  · apply List.map_congr_left
    intro place member
    simp

/-! ### Stacking -/

theorem size_ofRows {Item : Type} (width : Nat) (rows : List (List Item))
    (widths : ∀ row ∈ rows, row.length = width) :
    (ofRows width rows).size = rows.length * width := by
  rw [size, ofRows, List.size_toArray, List.length_flatten, List.map_congr_left widths,
    List.map_const', List.sum_replicate_nat]

theorem appendRows_matrices (width : Nat) (rows others : List (List R))
    (widths : ∀ row ∈ rows, row.length = width) (otherWidths : ∀ row ∈ others, row.length = width)
    (wide : 0 < width) :
    appendRows (ofRows width rows) (ofRows width others) = .ok (ofRows width (rows ++ others)) := by
  have sizes := size_ofRows width rows widths
  have otherSizes := size_ofRows width others otherWidths
  unfold appendRows
  by_cases none : rows = []
  · rw [if_pos (by rw [sizes, none]; simp), none, List.nil_append]
  · have some : rows.length ≠ 0 := fun empty => none (List.length_eq_zero_iff.mp empty)
    rw [if_neg (by rw [sizes]; exact Nat.mul_ne_zero some wide.ne')]
    by_cases last : others = []
    · rw [if_pos (by rw [otherSizes, last]; simp), last, List.append_nil]
    · have more : others.length ≠ 0 := fun empty => last (List.length_eq_zero_iff.mp empty)
      rw [if_neg (by rw [otherSizes]; exact Nat.mul_ne_zero more wide.ne')]
      exact join_below width rows others widths otherWidths

theorem appendRows_lists (values others : List R) :
    appendRows (ofList values) (ofList others) = .ok (ofList (values ++ others)) := by
  unfold appendRows
  cases values with
  | nil => rfl
  | cons value rest =>
      rw [if_neg (by simp [size, ofList])]
      cases others with
      | nil => simp [size, ofList]
      | cons other more =>
          rw [if_neg (by simp [size, ofList])]
          exact join_lists (value :: rest) (other :: more)

theorem appendColumns_matrices (left right : Nat) (rows others : List (List R))
    (heights : rows.length = others.length) (widths : ∀ row ∈ rows, row.length = left)
    (otherWidths : ∀ row ∈ others, row.length = right) :
    appendColumns (ofRows left rows) (ofRows right others) =
      .ok (ofRows (left + right) (rows.zipWith (· ++ ·) others)) :=
  join_beside left right rows others heights widths otherWidths

theorem zeros_square (size : Nat) :
    (zeros [size, size] : Tensor R) =
      ofRows size (List.replicate size (Linear.zeros size)) := by
  rw [zeros, ofFn_matrix]
  congr 1
  simp [Linear.zeros, List.map_const']

/-! ### Picking -/

theorem extract_row {Item : Type} (width : Nat) (rows : List (List Item))
    (widths : ∀ row ∈ rows, row.length = width) (row : Nat) (inside : row < rows.length) :
    ((ofRows width rows).data.extract (row * width) ((row + 1) * width)).toList = rows[row] := by
  have length := widths rows[row] (List.getElem_mem inside)
  have stretch : (row + 1) * width - row * width = width := by
    rw [Nat.succ_mul, Nat.add_sub_cancel_left]
  apply List.ext_getElem?
  intro place
  rw [Array.toList_extract, List.extract_eq_take_drop, stretch]
  rcases Nat.lt_or_ge place width with within | past
  · have read := flatten_getElem?_of_width width rows widths row place within
    rw [List.getElem?_eq_getElem inside, Option.bind_some] at read
    rw [List.getElem?_take_of_lt within, List.getElem?_drop]
    exact read
  · rw [List.getElem?_take_eq_none past, List.getElem?_eq_none (length.symm ▸ past)]

theorem pickRows_eq {Item : Type} (tensor : Tensor Item) (count : Nat) (rest : List Nat)
    (shape : tensor.shape = count :: rest) (picked : RowNumbers) :
    tensor.pickRows picked = (picked.numbers.mapM (rowNumber count)).map fun chosen =>
      ⟨picked.shape ++ rest, (chosen.flatMap fun row => (tensor.data.extract
        (row * volume rest) ((row + 1) * volume rest)).toList).toArray⟩ := by
  obtain ⟨extents, data⟩ := tensor
  cases shape
  cases named : picked.numbers.mapM (rowNumber count) <;>
    simp [pickRows, named, bind, Except.bind, Except.map, pure, Except.pure]

section Picking
variable {Item : Type} (numbers : List Int)

theorem pickRows_matrix (width : Nat) (rows : List (List Item))
    (widths : ∀ row ∈ rows, row.length = width) :
    (ofRows width rows).pickRows ⟨[numbers.length], numbers⟩ =
      (numbers.mapM (rowNumber rows.length)).map fun chosen =>
        ofRows width (Linear.pick rows chosen) := by
  have single : volume [width] = width := Nat.one_mul width
  rw [pickRows_eq _ rows.length [width] rfl, single]
  cases named : numbers.mapM (rowNumber rows.length) with
  | error refusal => rfl
  | ok chosen =>
      obtain ⟨count, inside⟩ := rowNumbers_inside rows.length numbers chosen named
      have copied : (chosen.flatMap fun row => ((ofRows width rows).data.extract (row * width)
          ((row + 1) * width)).toList) = (Linear.pick rows chosen).flatten := by
        rw [Linear.pick_eq_map rows chosen [] inside, ← List.flatMap_def]
        refine List.flatMap_congr fun row member => ?_
        rw [extract_row width rows widths row (inside row member), List.getD_eq_getElem?_getD,
          List.getElem?_eq_getElem (inside row member), Option.getD_some]
      simp only [Except.map, copied, List.singleton_append]
      rw [ofRows, Linear.length_pick rows chosen inside, count]

theorem pickRows_list (values : List Item) :
    (ofList values).pickRows ⟨[numbers.length], numbers⟩ =
      (numbers.mapM (rowNumber values.length)).map fun chosen =>
        ofList (Linear.pick values chosen) := by
  have single : volume [] = 1 := rfl
  rw [pickRows_eq _ values.length [] rfl, single]
  cases named : numbers.mapM (rowNumber values.length) with
  | error refusal => rfl
  | ok chosen =>
      obtain ⟨count, inside⟩ := rowNumbers_inside values.length numbers chosen named
      have copied : (chosen.flatMap fun row => (values.toArray.extract (row * 1)
          ((row + 1) * 1)).toList) = Linear.pick values chosen := by
        rw [Linear.pick, List.filterMap_eq_flatMap_toList]
        refine List.flatMap_congr fun row member => ?_
        have read := inside row member
        rw [List.getElem?_eq_getElem read, Option.toList_some, Array.toList_extract,
          List.extract_eq_take_drop, Nat.mul_one, Nat.mul_one, Nat.add_sub_cancel_left,
          List.drop_eq_getElem_cons read]
        rfl
      simp only [Except.map, copied, List.append_nil, ofList]
      rw [Linear.length_pick values chosen inside, count]

end Picking
end ConvexQP.Tensor
