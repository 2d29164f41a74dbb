import ConvexQP.Proofs.Exact.Systems

/-!
Matrices that send no vector but zero to zero. Elimination meets no zero pivot in them: the pivot is
the largest leading entry that is left, so a zero pivot would top a column of zeros. If no margin is
asked of the pivots, all of these matrices are accepted.
-/
namespace ConvexQP
open scoped Exact
variable {K : Type} [Field K] [LinearOrder K] [IsStrictOrderedRing K] [Rooted K]

/-- No vector of this size but zero is sent to zero. -/
def Nonsingular (size : Nat) (matrix : List (List K)) : Prop :=
  ∀ vector : List K, vector.length = size → Linear.apply matrix vector = Linear.zeros size →
    vector = Linear.zeros size

namespace Linear

theorem apply_eq_zeros_iff (rows : List (List K)) (vector : List K) :
    apply rows vector = zeros rows.length ↔ ∀ row ∈ rows, dot row vector = 0 := by
  unfold apply zeros
  rw [List.eq_replicate_iff, List.length_map]
  simp

end Linear

namespace Elimination

/-! ### The choice of the pivot -/

theorem exchange_chosen {Item : Type} (position : Nat) (items rest : List Item) (chosen : Item)
    (split : exchange position items = some (chosen, rest)) : items[position]? = some chosen := by
  cases items with
  | nil => simp [exchange] at split
  | cons first others =>
      cases position with
      | zero =>
          simp only [exchange, Option.some.injEq, Prod.mk.injEq] at split
          rw [split.1, List.getElem?_cons_zero]
      | succ place =>
          simp only [exchange, Option.map_eq_some_iff, Prod.mk.injEq] at split
          obtain ⟨_, found, rfl, _⟩ := split
          rw [List.getElem?_cons_succ, found]

theorem foldl_keepLargest_le (entries : List (Nat × K)) (best : Nat × K) :
    ∀ entry ∈ best :: entries, entry.2 ≤ (entries.foldl keepLargest best).2 := by
  induction entries generalizing best with
  | nil => simp
  | cons next rest ih =>
      have largest : best.2 ≤ (keepLargest best next).2 ∧ next.2 ≤ (keepLargest best next).2 := by
        unfold keepLargest
        split
        · rename_i larger
          exact ⟨le_of_lt larger, le_refl _⟩
        · rename_i smaller
          exact ⟨le_refl _, not_lt.mp smaller⟩
      have kept := ih (keepLargest best next) _ List.mem_cons_self
      intro entry member
      rw [List.foldl_cons]
      rcases List.mem_cons.mp member with rfl | later
      · exact largest.1.trans kept
      · rcases List.mem_cons.mp later with rfl | inner
        · exact largest.2.trans kept
        · exact ih _ entry (List.mem_cons_of_mem _ inner)

/-- The magnitudes that the rows lead with, numbered. -/
def leading (rows : List (List K)) : List (Nat × K) :=
  (rows.map fun row => magnitude (row.headD 0)).zipIdx.map Prod.swap

theorem mem_leading (rows : List (List K)) (place : Nat) (value : K) :
    (place, value) ∈ leading rows ↔ ∃ row, rows[place]? = some row ∧ |row.headD 0| = value := by
  simp [leading, List.mem_zipIdx_iff_getElem?, Exact.magnitude_eq]

/-- The pivot is the first of the largest among them. -/
theorem pivotPosition_eq (rows : List (List K)) : pivotPosition rows =
    match leading rows with
    | [] => 0
    | first :: rest => (rest.foldl keepLargest first).1 := rfl

/-- No remaining row leads with a larger magnitude than the pivot row. -/
theorem le_pivot (rows rest : List (List K)) (pivotRow : List K)
    (split : exchange (pivotPosition rows) rows = some (pivotRow, rest)) :
    ∀ row ∈ rows, |row.headD 0| ≤ |pivotRow.headD 0| := by
  intro row member
  obtain ⟨place, found⟩ := List.mem_iff_getElem?.mp member
  have entry := (mem_leading rows place _).mpr ⟨row, found, rfl⟩
  have chosen := exchange_chosen _ _ _ _ split
  rw [pivotPosition_eq] at chosen
  cases listed : leading rows with
  | nil => simp [listed] at entry
  | cons first others =>
      rw [listed] at entry chosen
      have least := foldl_keepLargest_le others first _ entry
      have kept := foldl_keepLargest_mem others first
      rw [← listed] at kept
      obtain ⟨other, there, value⟩ := (mem_leading rows _ _).mp kept
      simp only at chosen
      rw [there, Option.some.injEq] at chosen
      rw [← chosen, value]
      exact least

/-! ### Pivots -/

theorem exchange_zeros (position : Nat) (rows rest : List (List K)) (pivotRow : List K)
    (split : exchange position rows = some (pivotRow, rest)) :
    exchange position (Linear.zeros rows.length : List K) =
      some (0, Linear.zeros rest.length) := by
  have image := exchange_map (fun _ : List K => (0 : K)) position rows
  rw [split, Option.map_some, List.map_const', List.map_const'] at image
  exact image

/-- What remains of a nonsingular matrix once a column is cleared is nonsingular. -/
theorem remaining_nonsingular (columns position : Nat) (rows rest : List (List K))
    (pivotRow : List K) (split : exchange position rows = some (pivotRow, rest))
    (count : rows.length = columns + 1) (widths : ∀ row ∈ rows, row.length = columns + 1)
    (nonzero : pivotRow.headD 0 ≠ 0) (nonsingular : Nonsingular (columns + 1) rows) :
    Nonsingular columns (remaining pivotRow rest) := by
  intro below size zero
  have restCount := exchange_length _ _ _ _ split
  obtain ⟨pivotMember, restMember⟩ := exchange_mem _ _ _ _ split
  have restWidths : ∀ row ∈ rest, row.length = columns + 1 :=
    fun row member => widths row (restMember row member)
  have few : rest.length = columns := by omega
  have sides : lowered pivotRow rest 0 (Linear.zeros columns) = Linear.zeros columns := by
    apply List.ext_getElem
    · simp [lowered, few]
    · intro place _ _
      simp [lowered, Linear.zeros]
  -- The leading entry that goes with the entries below is the one that the pivot row asks for.
  have lead := dot_pivotRow pivotRow below 0 nonzero
  have others := apply_of_remaining pivotRow below (Linear.zeros columns) rest 0 nonzero
    (by rw [Linear.length_zeros, few]) columns (widths pivotRow pivotMember) restWidths
    (zero.trans sides.symm)
  generalize (0 - Linear.dot pivotRow.tail below) / pivotRow.headD 0 = first at lead others
  have vanishes : Linear.apply rows (first :: below) = Linear.zeros (columns + 1) := by
    have parted := exchange_zeros position rows rest pivotRow split
    rw [count, few] at parted
    apply exchange_injective position _ _ (0, Linear.zeros columns) _ parted
    unfold Linear.apply at others ⊢
    rw [exchange_map, split, Option.map_some, others, lead]
  have whole := nonsingular (first :: below) (by rw [List.length_cons, size]) vanishes
  exact (List.cons.inj whole).2

/-- Elimination meets no zero pivot in a nonsingular matrix. -/
theorem pivots_ne_zero (columns : Nat) (rows : List (List K)) (count : rows.length = columns)
    (widths : ∀ row ∈ rows, row.length = columns) (nonsingular : Nonsingular columns rows) :
    ∀ pivot ∈ pivots (clear columns rows), pivot ≠ 0 := by
  induction columns generalizing rows with
  | zero => simp [clear, pivots]
  | succ columns ih =>
      obtain ⟨pivotRow, rest, split⟩ := exchange_isSome (pivotPosition rows) rows
        (pivotPosition_lt rows (by omega))
      have restCount := exchange_length _ _ _ _ split
      obtain ⟨pivotMember, restMember⟩ := exchange_mem _ _ _ _ split
      have nonzero : pivotRow.headD 0 ≠ 0 := by
        intro zero
        -- Otherwise every row would lead with zero, and the first unit vector be sent to zero.
        have largest := le_pivot rows rest pivotRow split
        have unit : Linear.apply rows (1 :: Linear.zeros columns) = Linear.zeros (columns + 1) := by
          rw [← count]
          refine (Linear.apply_eq_zeros_iff rows _).mpr ?_
          intro row member
          have small := largest row member
          rw [zero, abs_zero, abs_nonpos_iff] at small
          cases row with
          | nil => rfl
          | cons lead tail =>
              rw [List.headD_cons] at small
              rw [Linear.dot_cons, Linear.dot_zeros_right, small]
              ring
        have impossible := nonsingular _ (by simp) unit
        exact one_ne_zero (List.cons.inj impossible).1
      obtain ⟨square, squareWidths⟩ := remaining_square columns pivotRow rest (by omega)
        (widths pivotRow pivotMember) fun row member => widths row (restMember row member)
      have later := ih (remaining pivotRow rest) square squareWidths
        (remaining_nonsingular columns _ rows rest pivotRow split count widths nonzero nonsingular)
      rw [clear_succ columns rows rest pivotRow split]
      intro pivot member
      rcases List.mem_cons.mp member with rfl | below
      · exact nonzero
      · exact later pivot below

end Elimination

theorem foldl_lesser_pos (values : List K) (first : K)
    (positive : ∀ value ∈ first :: values, 0 < value) : 0 < values.foldl lesser first := by
  induction values generalizing first with
  | nil => exact positive first List.mem_cons_self
  | cons next rest ih =>
      apply ih
      obtain ⟨here, others⟩ := List.forall_mem_cons.mp positive
      obtain ⟨there, others⟩ := List.forall_mem_cons.mp others
      refine List.forall_mem_cons.mpr ⟨?_, others⟩
      rw [lesser_eq]
      exact lt_min here there

/-- Without a margin every nonsingular matrix is accepted. -/
theorem factorise_nonsingular (size : Nat) (matrix : List (List K)) (square : Square size matrix)
    (nonsingular : Nonsingular size matrix) :
    factorise 0 matrix = .ok (Elimination.clear size matrix) := by
  have nonzero := Elimination.pivots_ne_zero size matrix square.1 square.2 nonsingular
  unfold factorise
  rw [if_pos (List.all_eq_true.mpr fun row _ => Exact.allFinite row), square.1]
  simp only
  split
  · rfl
  · rename_i first rest listed
    have positive : ∀ value ∈ first :: rest, 0 < value := by
      rw [← listed]
      intro value member
      obtain ⟨pivot, here, rfl⟩ := List.mem_map.mp member
      rw [Exact.magnitude_eq]
      exact abs_pos.mpr (nonzero pivot here)
    have least := foldl_lesser_pos rest first positive
    rw [if_neg]
    rw [zero_mul]
    exact not_le.mpr least

end ConvexQP
