import ConvexQP.Proofs.Solver.Exact
import ConvexQP.Proofs.Solver.GivingUp
import Mathlib.Data.Prod.Lex

/-!
The working set at a start. The tight rows enter, and as long as there are more active rows than
variables, the row of largest multiplier leaves, the last one of several. So the rows that stay are
the first of the tight rows in the order of their multipliers' magnitude and then of their numbers.
-/
namespace ConvexQP
open scoped Exact

/-- The rows that leave no more of their bounds than a tolerance. -/
def Problem.tightRows {R : Type} [Scalar R] (problem : Problem R) (tolerance : R)
    (point : List R) : List Nat :=
  (List.range problem.inequalities.count).filter fun row =>
    decide (problem.inequalities.slackOf point row ≤ tolerance)

variable {K : Type} [Field K] [LinearOrder K] [IsStrictOrderedRing K] [Rooted K]

namespace MultiplierChoice

/-- The leader of a scan over ascending rows has the largest multiplier, and of several such rows it
is the last. -/
theorem foldl_keepLargest_greatest (entries : List (Nat × K)) (row : Nat) (some : entries ≠ [])
    (ascending : (entries.map Prod.fst).Pairwise (· < ·)) : ∃ value,
    ((entries.foldl keepLargest (row, 0)).1, value) ∈ entries ∧
      (entries.foldl keepLargest (row, 0)).2 = |value| ∧
      ∀ entry ∈ entries, toLex (|entry.2|, entry.1) ≤
        toLex (|value|, (entries.foldl keepLargest (row, 0)).1) := by
  induction entries using List.reverseRecOn with
  | nil => exact absurd rfl some
  | append_singleton before last ih =>
      rw [List.foldl_concat]
      by_cases empty : before = []
      · subst empty
        have first : keepLargest (row, (0 : K)) last = (last.1, |last.2|) :=
          if_pos (abs_nonneg last.2)
        simp only [List.foldl_nil, first]
        exact ⟨last.2, by simp, rfl, by simp⟩
      · rw [List.map_append, List.pairwise_append] at ascending
        obtain ⟨value, member, leads, greatest⟩ := ih empty ascending.1
        generalize before.foldl keepLargest (row, 0) = best at member leads greatest ⊢
        by_cases larger : best.2 ≤ |last.2|
        · have taken : keepLargest best last = (last.1, |last.2|) := if_pos larger
          rw [taken]
          refine ⟨last.2, by simp, rfl, ?_⟩
          intro entry inside
          rcases List.mem_append.mp inside with earlier | now
          · -- The last row comes after all others, so equal multipliers leave it in front.
            have later : entry.1 < last.1 :=
              ascending.2.2 entry.1 (List.mem_map_of_mem earlier) last.1 (by simp)
            have below : |entry.2| ≤ |value| := by
              rcases (Prod.Lex.toLex_le_toLex.mp (greatest entry earlier)) with less | ⟨same, _⟩
              · exact less.le
              · exact same.le
            rw [Prod.Lex.toLex_le_toLex]
            rcases (below.trans (leads ▸ larger)).lt_or_eq with less | same
            · exact Or.inl less
            · exact Or.inr ⟨same, later.le⟩
          · rw [List.mem_singleton.mp now]
        · have kept : keepLargest best last = best := if_neg larger
          rw [kept]
          refine ⟨value, List.mem_append_left _ member, leads, ?_⟩
          intro entry inside
          rcases List.mem_append.mp inside with earlier | now
          · exact greatest entry earlier
          · rw [List.mem_singleton.mp now, Prod.Lex.toLex_le_toLex]
            exact Or.inl (leads ▸ not_le.mp larger)

end MultiplierChoice

namespace Solver
variable {Systems Programs : Type} (environment : Environment K Systems Programs)
variable {solver : Solver K Systems Programs}

/-! ### Rows that enter -/

omit [Field K] [IsStrictOrderedRing K] [Rooted K] in
theorem filterMap_zip_map (rows : List Nat) (left : Nat → K) (limit : K) :
    ((rows.zip (rows.map left)).filterMap fun pair =>
      if pair.2 ≤ limit then some pair.1 else none) =
        rows.filter fun row => decide (left row ≤ limit) := by
  induction rows with
  | nil => rfl
  | cons row rows ih =>
      rw [List.map_cons, List.zip_cons_cons, List.filterMap_cons, List.filter_cons, ih]
      by_cases held : left row ≤ limit
      · simp [held]
      · simp [held]

/-- An empty working set takes in the tight rows. -/
theorem Sized.included_includeTight (sized : solver.Sized) (empty : solver.working.included = []) :
    solver.includeTight.working.included =
      solver.problem.tightRows solver.config.slackTolerance solver.point := by
  have excluded : solver.working.excluded = List.range solver.problem.inequalities.count := by
    rw [WorkingSet.excluded_of_empty _ empty, sized.rows]
    rfl
  have tight : solver.includeTight.working = (solver.problem.tightRows
      solver.config.slackTolerance solver.point).foldl WorkingSet.insert solver.working := by
    simp only [includeTight, Problem.tightRows]
    rw [Constraints.slackAt_eq_map _ _ _ sized.outside, excluded, filterMap_zip_map]
  have inside (row : Nat)
      (member : row ∈ solver.problem.tightRows solver.config.slackTolerance solver.point) :
      row < solver.working.size := by
    rw [sized.rows]
    exact List.mem_range.mp (List.mem_filter.mp member).1
  rw [tight, WorkingSet.included_eq_filter _ fun row =>
    decide (solver.problem.inequalities.slackOf solver.point row ≤ solver.config.slackTolerance)]
  · rw [WorkingSet.size_insertAll, sized.rows]
    rfl
  · intro row bound
    rw [WorkingSet.mem_included_insertAll _ _ _ inside, empty]
    rw [WorkingSet.size_insertAll, sized.rows] at bound
    rw [Problem.tightRows, List.mem_filter, List.mem_range]
    simp only [List.not_mem_nil, false_or, decide_eq_true_eq, and_iff_right_iff_imp]
    exact fun _ => bound

/-! ### Rows that leave -/

/-- Where a row stands in the order of the magnitude of multipliers, and then of numbers. -/
def rank (solver : Solver K Systems Programs) (row : Nat) : K ×ₗ Nat :=
  toLex (|solver.inequalityMultipliers.getD row 0|, row)

/-- The row that is given up is the last in this order. -/
theorem relax_last_rank (some : solver.working.included ≠ []) :
    ∃ row ∈ solver.working.included, ∃ notes,
      solver.relax environment = { solver.excludeRow environment row with notes } ∧
      ∀ other ∈ solver.working.included, solver.rank other ≤ solver.rank row := by
  have listed : solver.includedEntries = solver.working.included.map fun row =>
      (row, solver.inequalityMultipliers.getD row 0) := List.map_prod_left_eq_zip.symm
  have ascending : (solver.includedEntries.map Prod.fst).Pairwise (· < ·) := by
    rw [includedEntries_rows]
    exact List.pairwise_lt_range.sublist List.filter_sublist
  cases entries : solver.includedEntries with
  | nil =>
      rw [entries] at listed
      exact absurd (List.map_eq_nil_iff.mp listed.symm) some
  | cons first rest =>
      obtain ⟨value, member, _, greatest⟩ := MultiplierChoice.foldl_keepLargest_greatest
        solver.includedEntries first.1 (by simp [entries]) ascending
      have chosen : MultiplierChoice.largestMagnitude solver.includedEntries =
          Option.some (solver.includedEntries.foldl MultiplierChoice.keepLargest (first.1, 0)).1 := by
        rw [entries]
        rfl
      generalize (solver.includedEntries.foldl MultiplierChoice.keepLargest (first.1, 0)).1 = row
        at member greatest chosen
      rw [listed] at member greatest
      obtain ⟨other, inside, same⟩ := List.mem_map.mp member
      obtain ⟨rfl, rfl⟩ := Prod.mk.inj same
      obtain ⟨notes, traced⟩ := trace_frame solver
        (.relax other (largestMagnitude (solver.multipliersAt solver.working.included)))
      refine ⟨other, inside, notes, ?_, ?_⟩
      · simp only [relax, chosen, traced]
        rfl
      · intro next included
        exact greatest _ (List.mem_map_of_mem included)

omit [IsStrictOrderedRing K] [Rooted K] in
theorem rank_congr {left right : Solver K Systems Programs} {row : Nat}
    (same : left.inequalityMultipliers[row]? = right.inequalityMultipliers[row]?) :
    left.rank row = right.rank row := by
  rw [rank, rank, List.getD_eq_getElem?_getD, List.getD_eq_getElem?_getD, same]

/-- One row after the other, the last ones in this order go until the rest fits. -/
theorem Sized.trim_selects (steps : Nat) (sized : solver.Sized)
    (enough : solver.working.includedCount ≤ steps) :
    (trim environment steps solver).working.includedCount =
        min solver.working.includedCount (solver.problem.size - solver.equalityCount) ∧
      ∀ row ∈ (trim environment steps solver).working.included,
        ∀ other ∈ solver.working.included,
          other ∉ (trim environment steps solver).working.included →
            solver.rank row < solver.rank other := by
  induction steps generalizing solver with
  | zero =>
      have none : solver.working.includedCount = 0 := Nat.le_zero.mp enough
      refine ⟨by simp [trim, none], ?_⟩
      intro row inside other member outside
      exact absurd member outside
  | succ steps ih =>
      by_cases crowded : solver.problem.size < solver.equalityCount + solver.working.includedCount ∧
          0 < solver.working.includedCount
      · have some : solver.working.included ≠ [] := by
          rw [← List.length_pos_iff, WorkingSet.length_included]
          exact crowded.2
        obtain ⟨last, inside, notes, relaxed, greatest⟩ := relax_last_rank environment some
        have given := sized.relax_givesUp environment
        have held := sized.follows (relax_follows environment solver)
        have rows : (solver.relax environment).working = solver.working.erase last := by
          rw [relaxed]
          rfl
        have fewer : (solver.relax environment).working.includedCount + 1 =
            solver.working.includedCount := by
          rw [rows]
          exact WorkingSet.includedCount_erase solver.working last inside
        have moved : trim environment (steps + 1) solver =
            trim environment steps (solver.relax environment) := by
          rw [trim, if_pos (by simpa using crowded)]
        have later := held.trim_givesUp environment steps
        obtain ⟨count, order⟩ := ih held (by omega)
        rw [moved]
        refine ⟨?_, ?_⟩
        · have room := crowded.1
          rw [count, equalityCount, given.problem]
          rw [equalityCount] at room ⊢
          omega
        · intro row kept other member gone
          have still := later.included row kept
          have same (next : Nat) (remains : next ∈ (solver.relax environment).working.included) :
              (solver.relax environment).rank next = solver.rank next :=
            rank_congr (given.kept next fun _ => remains)
          by_cases now : other = last
          · -- No two rows stand in the same place, so the last one is behind all others.
            subst now
            have apart : row ≠ other := by
              rintro rfl
              rw [rows, WorkingSet.mem_included_erase] at still
              exact still.2 rfl
            refine (greatest row (given.included row still)).lt_of_ne ?_
            intro equal
            exact apart (Prod.mk.inj (toLex.injective equal)).2
          · have remains : other ∈ (solver.relax environment).working.included := by
              rw [rows, WorkingSet.mem_included_erase]
              exact ⟨member, now⟩
            rw [← same row still, ← same other remains]
            exact order row kept other remains gone
      · have still : trim environment (steps + 1) solver = solver := by
          rw [trim, if_neg (by simpa using crowded)]
        rw [still]
        refine ⟨?_, fun row inside other member outside => absurd member outside⟩
        omega

theorem trim_of_fits (steps : Nat)
    (fits : solver.equalityCount + solver.working.includedCount ≤ solver.problem.size) :
    trim environment steps solver = solver := by
  cases steps with
  | zero => rfl
  | succ steps =>
      have room : ¬solver.problem.size < solver.equalityCount + solver.working.includedCount :=
        not_lt.mpr fits
      simp [trim, room]

/-! ### The working set of a start -/

/-- A start trims the working set of the tight rows. -/
theorem Sized.activate_trims (sized : solver.Sized) (empty : solver.working.included = []) :
    ∃ working, ({ solver with working } : Solver K Systems Programs).Sized ∧
      working.included =
        solver.problem.tightRows solver.config.slackTolerance solver.point ∧
      solver.activate environment = { (trim environment working.includedCount
        { solver with working }).forgetSystem environment with verdict := .feasible } := by
  obtain ⟨working, entered⟩ := includeTight_frame solver
  have filled := sized.follows (includeTight_follows environment solver)
  have inside := sized.included_includeTight empty
  rw [entered] at filled inside
  refine ⟨working, filled, inside, ?_⟩
  simp only [activate, entered]

/-- From an empty working set, a start takes in the tight rows if there is room for them, and else
as many as there is room for, those that come first in the order of the magnitudes of multipliers
and then of numbers. Each tight row that stays out loses its multiplier. The point and every other
multiplier stay. The rows are given up until they fit or none is left. -/
theorem Sized.activate_selects (sized : solver.Sized) (empty : solver.working.included = []) :
    let after := solver.activate environment
    let tight := solver.problem.tightRows solver.config.slackTolerance solver.point
    let kept := after.working.included
    after.point = solver.point ∧ after.verdict = .feasible ∧
      after.equalityMultipliers = solver.equalityMultipliers ∧
      (solver.equalityCount + kept.length ≤ solver.problem.size ∨ kept = []) ∧
      (solver.equalityCount + tight.length ≤ solver.problem.size →
        kept = tight ∧ after.inequalityMultipliers = solver.inequalityMultipliers ∧
          ∀ row ∈ after.working.excluded, solver.config.slackTolerance <
            solver.problem.inequalities.slackOf solver.point row) ∧
      (solver.problem.size < solver.equalityCount + tight.length →
        kept ⊆ tight ∧ kept.length = solver.problem.size - solver.equalityCount ∧
          (∀ row ∈ kept, ∀ other ∈ tight, other ∉ kept → solver.rank row < solver.rank other) ∧
          ∀ row, after.inequalityMultipliers[row]? =
            if row ∈ tight ∧ row ∉ kept then some 0 else solver.inequalityMultipliers[row]?) := by
  intro after tight kept
  obtain ⟨working, filled, included, trimmed⟩ := sized.activate_trims environment empty
  have taken : working.included = tight := included
  have count : working.includedCount = tight.length := by
    rw [← WorkingSet.length_included, taken]
  have given : GivesUp { solver with working } after := by
    simp only [after, trimmed]
    exact { filled.trim_givesUp environment working.includedCount with }
  obtain ⟨size, order⟩ := filled.trim_selects environment working.includedCount le_rfl
  have rows : after.working =
      (trim environment working.includedCount { solver with working }).working := by
    simp only [after, trimmed]
    rfl
  rw [← rows] at size order
  have length : kept.length = min tight.length (solver.problem.size - solver.equalityCount) := by
    rw [← count]
    exact (WorkingSet.length_included _).trans size
  refine ⟨given.point, rfl, given.equalities, ?_, ?_, ?_⟩
  · rcases Nat.eq_zero_or_pos kept.length with none | some
    · exact Or.inr (List.eq_nil_of_length_eq_zero none)
    · exact Or.inl (by omega)
  · intro fits
    have room : solver.equalityCount + working.includedCount ≤ solver.problem.size := by
      rwa [count]
    have still : trim environment working.includedCount { solver with working } =
        { solver with working } := trim_of_fits environment working.includedCount room
    have same : kept = tight := by
      rw [← taken]
      exact congrArg WorkingSet.included (rows.trans (congrArg Solver.working still))
    refine ⟨same, ?_, ?_⟩
    · simp only [after, trimmed, still]
      rfl
    · intro row out
      have bound := (sized.follows (activate_follows environment solver)).outside row out
      have loose := WorkingSet.not_mem_included_of_excluded _ row out
      by_contra held
      rw [show after.working.included = tight from same] at loose
      exact loose (List.mem_filter.mpr ⟨List.mem_range.mpr (given.problem ▸ bound),
        decide_eq_true (not_lt.mp held)⟩)
  · intro crowded
    refine ⟨fun row member => taken ▸ given.included row member, by omega, ?_, ?_⟩
    · intro row member other tightly gone
      exact order row member other (taken ▸ tightly) gone
    · intro row
      by_cases gone : row ∈ tight ∧ row ∉ kept
      · rw [if_pos gone]
        exact given.cleared row (taken ▸ gone.1) gone.2
      · rw [if_neg gone]
        have stays : row ∈ working.included → row ∈ kept := by
          intro member
          by_contra outside
          exact gone ⟨taken ▸ member, outside⟩
        exact given.kept row stays

end Solver

/-- Three planes through the origin beside one that every point has to lie on. -/
def fan : Problem ℚ where
  size := 3
  quadratic := [[2, 0, 0], [0, 2, 0], [0, 0, 2]]
  linear := [0, 0, 0]
  equalities := ⟨[[1, 1, 1]], [0], by decide, rfl⟩
  inequalities := ⟨[[1, 0, 0], [0, 1, 0], [0, 0, 1], [1, 1, 0]], [0, 0, 0, 1], by decide, rfl⟩
  size_pos := Nat.succ_pos 2
  quadratic_height := rfl
  quadratic_width := by decide
  linear_length := rfl

/-- At the origin, with multipliers that leave the first two rows level. -/
def levelFan : DenseSolver ℚ :=
  (DenseSolver.new fan plainConfig none (.prepared [])).setMultipliers [5, 2, -2, 1, 3]

/-- There is room for two of the three tight rows, and of the two level ones the first stays. -/
theorem activate_selects_levelFan :
    let after := levelFan.activate (denseEnvironment stoppedClock)
    let tight := fan.tightRows plainConfig.slackTolerance levelFan.point
    tight = [0, 1, 2] ∧ after.working.included = [0, 2] ∧
      after.inequalityMultipliers = [2, 0, 1, 3] ∧ after.verdict = .feasible ∧
      ∀ row ∈ after.working.included, ∀ other ∈ tight, other ∉ after.working.included →
        levelFan.rank row < levelFan.rank other := by
  have sized : levelFan.Sized := (Solver.new_sized fan plainConfig _ _).follows
    (Solver.setMultipliers_follows (denseEnvironment stoppedClock) _ [5, 2, -2, 1, 3])
  obtain ⟨_, verdict, _, _, _, crowded⟩ :=
    sized.activate_selects (denseEnvironment stoppedClock) (by decide +kernel)
  exact ⟨by decide +kernel, by decide +kernel, by decide +kernel, verdict,
    (crowded (by decide +kernel)).2.2.1⟩

end ConvexQP
