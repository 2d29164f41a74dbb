import ConvexQP.Proofs.Solver.Feasibility
import ConvexQP.Proofs.Solver.Trimming

/-!
The rows of a start. A point that is given and feasible is taken, and the rows that leave nothing of
their bounds there enter the working set, the first ones if there is no room for all: at a start no
multiplier tells the rows apart, and the last one is given up each time.
-/
namespace ConvexQP
open scoped Exact

/-- The rows that a start at a point takes in: the first tight ones, as many as there is room for
beside the equality rows. -/
def Problem.startRows {R : Type} [Scalar R] (problem : Problem R) (tolerance : R)
    (point : List R) : List Nat :=
  (problem.tightRows tolerance point).take (problem.size - problem.equalities.count)

namespace Solver
section Placed
variable {R Systems Programs : Type} {solver : Solver R Systems Programs}

theorem placed_follows [Scalar R] (environment : Environment R Systems Programs)
    (entries : List R) : Follows environment solver (solver.placed entries) :=
  { (setPoint_follows environment solver entries : Follows environment solver _) with
    rows := WorkingSet.size_clear solver.working }

theorem Sized.point_placed (sized : solver.Sized) (entries : List R)
    (size : entries.length = solver.problem.size) : (solver.placed entries).point = entries :=
  sized.point_setPoint entries size

end Placed
end Solver

variable {K : Type} [Field K] [LinearOrder K] [IsStrictOrderedRing K] [Rooted K]

namespace Solver
variable {Systems Programs : Type} (environment : Environment K Systems Programs)
variable {solver : Solver K Systems Programs}

/-! ### Starts -/

/-- No inequality row has a multiplier. -/
def Blank (solver : Solver K Systems Programs) : Prop :=
  ∀ row, solver.inequalityMultipliers.getD row 0 = 0

/-- Without multipliers the first rows stay. -/
theorem Sized.trim_included (sized : solver.Sized) (blank : solver.Blank) :
    (trim environment solver.working.includedCount solver).working.included =
      solver.working.included.take (solver.problem.size - solver.equalityCount) := by
  obtain ⟨count, order⟩ := sized.trim_selects environment _ le_rfl
  have inside := (sized.trim_givesUp environment solver.working.includedCount).included
  have taken := WorkingSet.included_eq_take _ _ inside fun row kept other member gone => by
    have before := order row kept other member gone
    rw [rank, rank, blank row, blank other, Prod.Lex.toLex_lt_toLex] at before
    exact (before.resolve_left (lt_irrefl _)).2
  rw [taken, WorkingSet.length_included, count, ← WorkingSet.length_included, Nat.min_comm]
  exact List.take_eq_take_min.symm

/-- A run starts without multipliers. -/
theorem Sized.blank_reset (sized : solver.Sized) : (solver.reset environment).Blank := by
  have placed : (solver.setPoint (Linear.zeros solver.problem.size)).Sized :=
    sized.follows (setPoint_follows environment solver _)
  have written := placed.multiplierList_setMultipliers
    (Linear.zeros (solver.equalityCount + solver.inequalityCount)) (Linear.length_zeros _)
  have list : (solver.reset environment).multiplierList =
      Linear.zeros (solver.equalityCount + solver.inequalityCount) := written
  intro row
  rw [inequalityMultipliers, list, Linear.zeros, List.drop_replicate,
    List.getD_eq_getElem?_getD, List.getElem?_replicate]
  split <;> rfl

/-- A point that holds is taken, with the first tight rows. -/
theorem Sized.findStart_taken (sized : solver.Sized) (blank : solver.Blank) (kick : KickStart K)
    (usable : kick.usable = true) (size : kick.entries.length = solver.problem.size)
    (holds : (solver.placed kick.entries).isFeasible false = true) :
    ∃ start, solver.findStart environment (some kick) = (.ok true, start) ∧
      start.point = kick.entries ∧ start.working.included =
        solver.problem.startRows solver.config.slackTolerance kick.entries := by
  have given := sized.follows (placed_follows environment kick.entries)
  have point := sized.point_placed kick.entries size
  obtain ⟨working, filled, tight, trimmed⟩ :=
    given.activate_trims environment (WorkingSet.included_clear solver.working)
  have included : ((solver.placed kick.entries).activate environment).working.included =
      solver.problem.startRows solver.config.slackTolerance kick.entries := by
    have rows := filled.trim_included environment blank
    rw [tight, point] at rows
    rw [trimmed]
    exact rows
  obtain ⟨_, _, _, _, activated⟩ := activate_frame environment (solver.placed kick.entries)
  obtain ⟨notes, told⟩ := traceSlacks_frame
    ((solver.placed kick.entries).activate environment) .initial
  have verdict : ((solver.placed kick.entries).activate environment).verdict = .feasible := by
    rw [activated]
  have begun : (solver.placed kick.entries).begin environment true =
      (true, { (solver.placed kick.entries).activate environment with notes }) := by
    simp only [begin, if_true, told]
    rw [verdict]
    rfl
  refine ⟨{ (solver.placed kick.entries).activate environment with notes }, ?_, ?_, included⟩
  · simp only [placed] at holds begun ⊢
    simp only [findStart, size, ne_eq, not_true_eq_false, if_false, usable, Exact.allFinite,
      Bool.and_self, if_true, holds, begun]
  · rw [activated]
    exact point

end Solver

/-- A run from a feasible point starts there, whatever the solver did before, with the first tight
rows. -/
theorem DenseSolver.Ready.starts {problem : Problem K} {config : Config K} {elapsed : Nat → K}
    {solver : DenseSolver K} (ready : DenseSolver.Ready problem config solver) (kick : KickStart K)
    (usable : kick.usable = true) (feasible : problem.Feasible kick.entries) :
    ∃ start, (solver.reset (denseEnvironment elapsed)).findStart (denseEnvironment elapsed)
        (some kick) = (.ok true, start) ∧
      start.point = kick.entries ∧
      start.working.included = problem.startRows config.slackTolerance kick.entries := by
  have fresh := ready.follows (Solver.reset_follows (denseEnvironment elapsed) solver)
  have size : kick.entries.length = (solver.reset (denseEnvironment elapsed)).problem.size := by
    rw [fresh.problem_eq]
    exact feasible.size
  have placed := fresh.follows (Solver.placed_follows (denseEnvironment elapsed) kick.entries)
  have point := fresh.sized.point_placed kick.entries size
  have holds := placed.isFeasible_of_feasible (by rw [point]; exact feasible)
  obtain ⟨start, begun, there, included⟩ := fresh.sized.findStart_taken (denseEnvironment elapsed)
    (ready.sized.blank_reset (denseEnvironment elapsed)) kick usable size holds
  rw [fresh.problem_eq, fresh.config_eq] at included
  exact ⟨start, begun, there, included⟩

end ConvexQP
