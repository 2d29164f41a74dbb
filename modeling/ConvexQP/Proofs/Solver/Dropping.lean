import ConvexQP.Proofs.Scan.FirstLeast
import ConvexQP.Proofs.Solver.Trimming

/-!
Which row is dropped. A row is kept for its multiplier unless this lies below zero by more than the
tolerance; of the rows that are not kept the first one of least multiplier is dropped, and the row
that entered last only if it is the only one.
-/
namespace ConvexQP
open scoped Exact
variable {K : Type} [Field K] [LinearOrder K] [IsStrictOrderedRing K] [Rooted K]

namespace Solver
variable {Systems Programs : Type} (solver : Solver K Systems Programs)

/-- The multiplier that is held for an inequality row. -/
def inequalityMultiplier (row : Nat) : K := solver.inequalityMultipliers.getD row 0

theorem includedEntries_eq : solver.includedEntries =
    solver.working.included.map fun row => (row, solver.inequalityMultiplier row) := by
  unfold includedEntries multipliersAt
  exact List.map_prod_left_eq_zip.symm

theorem mem_includedEntries (row : Nat) (value : K) : (row, value) ∈ solver.includedEntries ↔
    row ∈ solver.working.included ∧ solver.inequalityMultiplier row = value := by
  rw [includedEntries_eq, List.mem_map]
  constructor
  · rintro ⟨other, inside, same⟩
    obtain ⟨rfl, held⟩ := Prod.mk.inj same
    exact ⟨inside, held⟩
  · rintro ⟨inside, held⟩
    exact ⟨row, inside, Prod.ext rfl held⟩

/-- The entries of some of the included rows stand in the order of the rows. -/
theorem includedEntries_increasing (test : Nat × K → Bool) :
    (solver.includedEntries.filter test).Pairwise fun one other => one.1 < other.1 := by
  have rows := solver.working.included_increasing
  rw [← includedEntries_rows, List.pairwise_map] at rows
  exact rows.filter test

variable (valid : 0 ≤ solver.config.solutionTolerance)
include valid

theorem droppable_entry_iff (value : K) :
    MultiplierChoice.droppable solver.solutionTolerance value = true ↔
      value < -solver.config.solutionTolerance :=
  MultiplierChoice.droppable_iff solver.solutionTolerance valid value

theorem not_droppable_entry_iff (value : K) :
    MultiplierChoice.droppable solver.solutionTolerance value = false ↔
      -solver.config.solutionTolerance ≤ value :=
  MultiplierChoice.not_droppable_iff solver.solutionTolerance valid value

theorem rowToExclude_eq_none_iff : solver.rowToExclude = none ↔
    ∀ row ∈ solver.working.included,
      -solver.config.solutionTolerance ≤ solver.inequalityMultiplier row := by
  constructor
  · intro none row inside
    have distinct := solver.working.included_nodup
    rw [← includedEntries_rows] at distinct
    exact (solver.not_droppable_entry_iff valid _).mp
      (MultiplierChoice.droppable_of_rowToDrop_none _ _ _ distinct none _
        ((solver.mem_includedEntries row _).mpr ⟨inside, rfl⟩))
  · intro kept
    by_contra dropped
    obtain ⟨row, chosen⟩ := Option.ne_none_iff_exists'.mp dropped
    obtain ⟨value, member, drops⟩ := MultiplierChoice.rowToDrop_spec _ _ _ row chosen
    obtain ⟨inside, rfl⟩ := (solver.mem_includedEntries row value).mp member
    exact absurd ((solver.droppable_entry_iff valid _).mp drops) (not_lt.mpr (kept row inside))

/-- No row is dropped just if every included row is kept for its multiplier. A row that is dropped
is the least of the others, and the one that entered last only if no other may be dropped. -/
theorem rowToExclude_least :
    (solver.rowToExclude = none ↔ ∀ row ∈ solver.working.included,
      -solver.config.solutionTolerance ≤ solver.inequalityMultiplier row) ∧
    ∀ row, solver.rowToExclude = some row →
      row ∈ solver.working.included ∧
      solver.inequalityMultiplier row < -solver.config.solutionTolerance ∧
      (some row = solver.working.latestIn → ∀ other ∈ solver.working.included, other ≠ row →
        -solver.config.solutionTolerance ≤ solver.inequalityMultiplier other) ∧
      (some row ≠ solver.working.latestIn → ∀ other ∈ solver.working.included,
        some other ≠ solver.working.latestIn →
        solver.inequalityMultiplier other < -solver.config.solutionTolerance →
          solver.inequalityMultiplier row < solver.inequalityMultiplier other ∨
          solver.inequalityMultiplier row = solver.inequalityMultiplier other ∧ row ≤ other) := by
  refine ⟨solver.rowToExclude_eq_none_iff valid, fun row chosen => ?_⟩
  obtain ⟨value, member, drops, choice⟩ := MultiplierChoice.rowToDrop_first _ _ _ row chosen
  obtain ⟨inside, rfl⟩ := (solver.mem_includedEntries row value).mp member
  refine ⟨inside, (solver.droppable_entry_iff valid _).mp drops, ?_, ?_⟩
  · intro latest other also apart
    rw [if_pos latest] at choice
    have earlier : some other ≠ solver.working.latestIn := by
      rw [← latest]
      exact fun same => apart (Option.some.inj same)
    exact (solver.not_droppable_entry_iff valid _).mp
      (choice _ ((solver.mem_includedEntries other _).mpr ⟨also, rfl⟩) earlier)
  · intro early other also earlier lower
    rw [if_neg early] at choice
    obtain ⟨place, first⟩ := choice
    have listed : (other, solver.inequalityMultiplier other) ∈
        solver.includedEntries.filter fun item => some item.1 ≠ solver.working.latestIn :=
      List.mem_filter.mpr ⟨(solver.mem_includedEntries other _).mpr ⟨also, rfl⟩,
        decide_eq_true earlier⟩
    exact first.least_or_level (solver.includedEntries_increasing _) _ listed
      ((solver.droppable_entry_iff valid _).mpr lower)

end Solver

/-- Of the rows held by multipliers -5, -2 and -2 the first one entered last and stays, and of the
level ones the first leaves; the fourth row is not held at all. -/
theorem rowToExclude_least_fan :
    let solver := { (DenseSolver.new fan plainConfig none (.prepared [])).setMultipliers
      [5, -5, -2, -2, -9] with working := ⟨[true, true, true, false], some 0, none⟩ }
    0 ≤ solver.config.solutionTolerance ∧ solver.rowToExclude = some 1 ∧
      1 ∈ solver.working.included ∧
      solver.inequalityMultiplier 1 < -solver.config.solutionTolerance ∧
      (2 ∈ solver.working.included ∧ some 2 ≠ solver.working.latestIn ∧
        solver.inequalityMultiplier 2 < -solver.config.solutionTolerance) ∧
      (solver.inequalityMultiplier 1 < solver.inequalityMultiplier 2 ∨
        solver.inequalityMultiplier 1 = solver.inequalityMultiplier 2 ∧ 1 ≤ 2) := by
  intro solver
  have valid : 0 ≤ solver.config.solutionTolerance := by decide +kernel
  have chosen : solver.rowToExclude = some 1 := by decide +kernel
  obtain ⟨inside, below, _, least⟩ := (solver.rowToExclude_least valid).2 1 chosen
  have other : 2 ∈ solver.working.included ∧ some 2 ≠ solver.working.latestIn ∧
      solver.inequalityMultiplier 2 < -solver.config.solutionTolerance :=
    ⟨by decide +kernel, by decide +kernel, by decide +kernel⟩
  exact ⟨valid, chosen, inside, below, other,
    least (by decide +kernel) 2 other.1 other.2.1 other.2.2⟩

end ConvexQP
