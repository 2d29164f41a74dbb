import ConvexQP.FactorCache
import ConvexQP.Proofs.Exact.Vector
import Mathlib.Tactic.FieldSimp

/-!
Elimination in exact arithmetic. When no pivot is zero, the record of the cleared columns solves
every system with the matrix; a matrix that is accepted by its pivots has none.
-/
namespace ConvexQP
open scoped Exact
namespace Elimination

/-! ### Exchanging rows -/

section Exchange
variable {Item Image : Type}

theorem exchange_isSome (position : Nat) (items : List Item) (inside : position < items.length) :
    ∃ chosen rest, exchange position items = some (chosen, rest) := by
  cases items with
  | nil => simp at inside
  | cons first rest =>
      cases position with
      | zero => exact ⟨first, rest, rfl⟩
      | succ place =>
          simp only [List.length_cons, Nat.add_lt_add_iff_right] at inside
          exact ⟨rest[place], rest.set place first, by
            simp [exchange, List.getElem?_eq_getElem inside]⟩

theorem exchange_map (image : Item → Image) (position : Nat) (items : List Item) :
    exchange position (items.map image) =
      (exchange position items).map fun parts => (image parts.1, parts.2.map image) := by
  cases items with
  | nil => rfl
  | cons first rest =>
      cases position with
      | zero => rfl
      | succ place => cases found : rest[place]? <;> simp [exchange, found]

/-- Nothing is lost by an exchange. -/
theorem exchange_injective (position : Nat) (left right : List Item) (parts : Item × List Item)
    (one : exchange position left = some parts) (other : exchange position right = some parts) :
    left = right := by
  cases left with
  | nil => simp [exchange] at one
  | cons first rest =>
      cases right with
      | nil => simp [exchange] at other
      | cons second others =>
          cases position with
          | zero =>
              simp only [exchange, Option.some.injEq] at one other
              rw [← one, Prod.mk.injEq] at other
              rw [other.1, other.2]
          | succ place =>
              simp only [exchange, Option.map_eq_some_iff] at one other
              obtain ⟨chosen, found, split⟩ := one
              obtain ⟨picked, seen, parted⟩ := other
              rw [← split, Prod.mk.injEq] at parted
              obtain ⟨bound, here⟩ := List.getElem?_eq_some_iff.mp found
              obtain ⟨limit, there⟩ := List.getElem?_eq_some_iff.mp seen
              have heads : second = first := by
                have entries := congrArg (fun items : List Item => items[place]?) parted.2
                simpa [List.getElem?_set_self bound, List.getElem?_set_self limit] using entries
              have tails : others = rest := by
                have restored := congrArg (fun items : List Item => items.set place chosen) parted.2
                rw [List.set_set, List.set_set, ← here, List.set_getElem_self, here,
                  ← parted.1, ← there, List.set_getElem_self] at restored
                exact restored
              rw [heads, tails]

theorem exchange_length (position : Nat) (items rest : List Item) (chosen : Item)
    (split : exchange position items = some (chosen, rest)) : rest.length + 1 = items.length := by
  cases items with
  | nil => simp [exchange] at split
  | cons first others =>
      cases position with
      | zero =>
          simp only [exchange, Option.some.injEq, Prod.mk.injEq] at split
          rw [← split.2, List.length_cons]
      | succ place =>
          simp only [exchange, Option.map_eq_some_iff, Prod.mk.injEq] at split
          obtain ⟨_, _, _, same⟩ := split
          rw [← same, List.length_set, List.length_cons]

theorem exchange_mem (position : Nat) (items rest : List Item) (chosen : Item)
    (split : exchange position items = some (chosen, rest)) :
    chosen ∈ items ∧ ∀ item ∈ rest, item ∈ items := by
  cases items with
  | nil => simp [exchange] at split
  | cons first others =>
      cases position with
      | zero =>
          simp only [exchange, Option.some.injEq, Prod.mk.injEq] at split
          obtain ⟨rfl, rfl⟩ := split
          exact ⟨List.mem_cons_self, fun item member => List.mem_cons_of_mem first member⟩
      | succ place =>
          simp only [exchange, Option.map_eq_some_iff, Prod.mk.injEq] at split
          obtain ⟨_, found, rfl, rfl⟩ := split
          refine ⟨List.mem_cons_of_mem first (List.mem_of_getElem? found), ?_⟩
          intro item member
          rcases List.mem_or_eq_of_mem_set member with inside | same
          · exact List.mem_cons_of_mem first inside
          · rw [same]
            exact List.mem_cons_self

end Exchange

section Pivot
variable {R : Type} [Scalar R]

theorem foldl_keepLargest_mem (entries : List (Nat × R)) (best : Nat × R) :
    entries.foldl keepLargest best ∈ best :: entries := by
  induction entries generalizing best with
  | nil => exact List.mem_cons_self
  | cons entry rest ih =>
      rw [List.foldl_cons]
      have kept : keepLargest best entry = entry ∨ keepLargest best entry = best := by
        unfold keepLargest
        split
        · exact Or.inl rfl
        · exact Or.inr rfl
      rcases kept with same | same
      · rw [same]
        exact List.mem_cons_of_mem best (ih entry)
      · rw [same]
        rcases List.mem_cons.mp (ih best) with now | later
        · exact List.mem_cons.mpr (Or.inl now)
        · exact List.mem_cons_of_mem best (List.mem_cons_of_mem entry later)

theorem pivotPosition_lt (rows : List (List R)) (some : 0 < rows.length) :
    pivotPosition rows < rows.length := by
  have member : ∀ entry ∈ (rows.map fun row => magnitude (row.headD 0)).zipIdx.map Prod.swap,
      entry.1 < rows.length := by
    intro entry listed
    obtain ⟨⟨value, index⟩, found, rfl⟩ := List.mem_map.mp listed
    have bound := (List.mem_zipIdx found).2.1
    simpa using bound
  unfold pivotPosition
  split
  · exact some
  · rename_i first rest listed
    apply member
    rw [listed]
    exact foldl_keepLargest_mem rest first

end Pivot

/-! ### Solving -/

variable {K : Type} [Field K] [LinearOrder K] [IsStrictOrderedRing K] [Rooted K]

theorem factor_of_ne_zero (pivot entry : K) (nonzero : pivot ≠ 0) :
    factor pivot entry = entry / pivot := by
  unfold factor
  rw [if_neg fun zero => nonzero ((Exact.same_iff pivot 0).mp zero)]

/-- The rows that remain once the leading column is cleared. -/
def remaining (pivotRow : List K) (rest : List (List K)) : List (List K) :=
  rest.zipWith (reduce pivotRow) (rest.map fun row => factor (pivotRow.headD 0) (row.headD 0))

/-- The right-hand side that goes with the remaining rows. -/
def lowered (pivotRow : List K) (rest : List (List K)) (first : K) (sides : List K) : List K :=
  sides.zipWith (fun entry multiple => entry - multiple * first)
    (rest.map fun row => factor (pivotRow.headD 0) (row.headD 0))

theorem clear_succ (columns : Nat) (rows rest : List (List K)) (pivotRow : List K)
    (split : exchange (pivotPosition rows) rows = some (pivotRow, rest)) :
    clear (columns + 1) rows =
      ⟨pivotPosition rows, pivotRow,
        rest.map fun row => factor (pivotRow.headD 0) (row.headD 0)⟩ ::
        clear columns (remaining pivotRow rest) := by
  rw [clear]
  simp only [split]
  rfl

theorem remaining_square (columns : Nat) (pivotRow : List K) (rest : List (List K))
    (count : rest.length = columns) (pivotWidth : pivotRow.length = columns + 1)
    (widths : ∀ row ∈ rest, row.length = columns + 1) :
    (remaining pivotRow rest).length = columns ∧
      ∀ row ∈ remaining pivotRow rest, row.length = columns := by
  unfold remaining
  constructor
  · simp [count]
  · intro row member
    obtain ⟨place, bound, rfl⟩ := List.mem_iff_getElem.mp member
    rw [List.getElem_zipWith]
    have inside : place < rest.length := by simpa using bound
    have width := widths rest[place] (List.getElem_mem inside)
    simp [reduce, width, pivotWidth]

/-- Going back from the cleared rows to the rows they were made from. -/
theorem apply_of_remaining (pivotRow below sides : List K) (rest : List (List K)) (first : K)
    (nonzero : pivotRow.headD 0 ≠ 0) (counts : sides.length = rest.length)
    (columns : Nat) (pivotWidth : pivotRow.length = columns + 1)
    (widths : ∀ row ∈ rest, row.length = columns + 1)
    (solved : Linear.apply (remaining pivotRow rest) below = lowered pivotRow rest first sides) :
    Linear.apply rest
      (((first - Linear.dot pivotRow.tail below) / pivotRow.headD 0) :: below) = sides := by
  unfold remaining lowered at solved
  induction rest generalizing sides with
  | nil => exact (List.length_eq_zero_iff.mp counts).symm
  | cons row rest ih =>
      cases sides with
      | nil => simp at counts
      | cons side sides =>
          simp only [List.length_cons, Nat.add_right_cancel_iff] at counts
          simp only [List.map_cons, List.zipWith_cons_cons, Linear.apply_cons,
            List.cons.injEq] at solved
          have later := ih sides counts
            (fun other member => widths other (List.mem_cons_of_mem row member)) solved.2
          have width := widths row List.mem_cons_self
          rw [Linear.apply_cons, later]
          congr 1
          cases row with
          | nil => simp at width
          | cons lead tail =>
              have lengths : tail.length = pivotRow.tail.length := by
                simp only [List.length_cons] at width
                simp only [List.length_tail]
                omega
              have reduced : Linear.dot (reduce pivotRow (lead :: tail)
                  (lead / pivotRow.headD 0)) below =
                  Linear.dot tail below -
                    lead / pivotRow.headD 0 * Linear.dot pivotRow.tail below := by
                have negated : reduce pivotRow (lead :: tail) (lead / pivotRow.headD 0) =
                    Linear.addScaled (-(lead / pivotRow.headD 0)) pivotRow.tail tail := by
                  unfold reduce Linear.addScaled
                  simp only [List.tail_cons]
                  congr 1
                  funext entry above
                  ring
                rw [negated, Linear.dot_comm, Linear.dot_addScaled below _ _ _ lengths,
                  Linear.dot_comm below, Linear.dot_comm below]
                ring
              have here := solved.1
              simp only [List.headD_cons, factor_of_ne_zero _ _ nonzero] at here
              rw [reduced] at here
              rw [Linear.dot_cons]
              field_simp at here ⊢
              linarith

/-- The leading entry is chosen so that the pivot row holds. -/
theorem dot_pivotRow (pivotRow below : List K) (first : K) (nonzero : pivotRow.headD 0 ≠ 0) :
    Linear.dot pivotRow
      (((first - Linear.dot pivotRow.tail below) / pivotRow.headD 0) :: below) = first := by
  cases pivotRow with
  | nil => simp at nonzero
  | cons lead tail =>
      simp only [List.headD_cons, List.tail_cons] at nonzero ⊢
      rw [Linear.dot_cons]
      field_simp
      ring

/-- Without a zero pivot the system is solved. -/
theorem solve_correct (columns : Nat) (rows : List (List K)) (rhs : List K)
    (count : rows.length = columns) (widths : ∀ row ∈ rows, row.length = columns)
    (sides : rhs.length = columns) (nonzero : ∀ pivot ∈ pivots (clear columns rows), pivot ≠ 0) :
    Linear.apply rows (solve (clear columns rows) rhs) = rhs ∧
      (solve (clear columns rows) rhs).length = columns := by
  induction columns generalizing rows rhs with
  | zero =>
      rw [List.length_eq_zero_iff.mp count, List.length_eq_zero_iff.mp sides]
      exact ⟨rfl, rfl⟩
  | succ columns ih =>
      obtain ⟨pivotRow, rest, split⟩ := exchange_isSome (pivotPosition rows) rows
        (pivotPosition_lt rows (by omega))
      obtain ⟨first, others, parted⟩ := exchange_isSome (pivotPosition rows) rhs
        (by rw [sides, ← count]; exact pivotPosition_lt rows (by omega))
      have restCount := exchange_length _ _ _ _ split
      have othersCount := exchange_length _ _ _ _ parted
      obtain ⟨pivotMember, restMember⟩ := exchange_mem _ _ _ _ split
      have pivotWidth := widths pivotRow pivotMember
      have restWidths : ∀ row ∈ rest, row.length = columns + 1 :=
        fun row member => widths row (restMember row member)
      rw [clear_succ columns rows rest pivotRow split] at nonzero ⊢
      have pivotNonzero : pivotRow.headD 0 ≠ 0 := nonzero _ (by simp [pivots])
      obtain ⟨square, squareWidths⟩ := remaining_square columns pivotRow rest (by omega)
        pivotWidth restWidths
      have sidesLowered : (lowered pivotRow rest first others).length = columns := by
        rw [lowered, List.length_zipWith, List.length_map]
        omega
      have laterNonzero : ∀ pivot ∈ pivots (clear columns (remaining pivotRow rest)),
          pivot ≠ 0 := by
        intro pivot member
        apply nonzero
        simp only [pivots, List.map_cons, List.mem_cons] at member ⊢
        exact Or.inr member
      obtain ⟨solved, size⟩ := ih (remaining pivotRow rest) (lowered pivotRow rest first others)
        square squareWidths sidesLowered laterNonzero
      have below := apply_of_remaining pivotRow _ others rest first pivotNonzero (by omega)
        columns pivotWidth restWidths solved
      have unfolded : solve (⟨pivotPosition rows, pivotRow,
          rest.map fun row => factor (pivotRow.headD 0) (row.headD 0)⟩ ::
            clear columns (remaining pivotRow rest)) rhs =
          ((first - Linear.dot pivotRow.tail (solve (clear columns (remaining pivotRow rest))
            (lowered pivotRow rest first others))) / pivotRow.headD 0) ::
              solve (clear columns (remaining pivotRow rest))
                (lowered pivotRow rest first others) := by
        simp only [solve, parted]
        rfl
      rw [unfolded]
      constructor
      -- Both sides of the system agree once the same rows are exchanged in them.
      · apply exchange_injective (pivotPosition rows) _ _ (first, others) _ parted
        unfold Linear.apply at below ⊢
        rw [exchange_map, split, Option.map_some, below,
          dot_pivotRow pivotRow _ first pivotNonzero]
      · rw [List.length_cons, size]

theorem length_clear (columns : Nat) (rows : List (List K)) (count : rows.length = columns) :
    (clear columns rows).length = columns := by
  induction columns generalizing rows with
  | zero => rfl
  | succ columns ih =>
      obtain ⟨pivotRow, rest, split⟩ := exchange_isSome (pivotPosition rows) rows
        (pivotPosition_lt rows (by omega))
      have restCount := exchange_length _ _ _ _ split
      rw [clear_succ columns rows rest pivotRow split, List.length_cons, ih]
      simp only [remaining, List.length_zipWith, List.length_map]
      omega

end Elimination
end ConvexQP
