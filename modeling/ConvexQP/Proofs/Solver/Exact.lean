import ConvexQP.Proofs.Exact.Steps
import ConvexQP.Proofs.Solver.Passes
import ConvexQP.Proofs.Solver.Reached

/-!
A pass in exact arithmetic. A system that is answered is solved: the answer is the stationary point
on the active rows with its multipliers, and the buffers take both.
-/
namespace ConvexQP
open scoped Exact

/-! ### Multipliers in their places -/

namespace Solver
variable {R : Type}

theorem length_scatter (values : List R) (rows : List Nat) (entries : List R) :
    (scatter values rows entries).length = values.length := by
  unfold scatter
  induction rows generalizing values entries with
  | nil => rfl
  | cons row rows ih =>
      cases entries with
      | nil => rfl
      | cons entry entries =>
          rw [List.zip_cons_cons, List.foldl_cons, ih, List.length_set]

theorem scatter_other (values : List R) (rows : List Nat) (entries : List R) (row : Nat)
    (absent : row ∉ rows) : (scatter values rows entries)[row]? = values[row]? := by
  unfold scatter
  induction rows generalizing values entries with
  | nil => rfl
  | cons first rows ih =>
      cases entries with
      | nil => rfl
      | cons entry entries =>
          rw [List.mem_cons, not_or] at absent
          rw [List.zip_cons_cons, List.foldl_cons, ih _ _ absent.2]
          exact List.getElem?_set_ne (Ne.symm absent.1)

theorem scatter_at (values : List R) (rows : List Nat) (entries : List R) (distinct : rows.Nodup)
    (inside : ∀ row ∈ rows, row < values.length) (pair : Nat × R)
    (member : pair ∈ rows.zip entries) :
    (scatter values rows entries)[pair.1]? = some pair.2 := by
  induction rows generalizing values entries with
  | nil => simp at member
  | cons first rows ih =>
      cases entries with
      | nil => simp at member
      | cons entry entries =>
          obtain ⟨fresh, others⟩ := List.nodup_cons.mp distinct
          have bound := inside first List.mem_cons_self
          rw [List.zip_cons_cons, List.mem_cons] at member
          have unfolded : scatter values (first :: rows) (entry :: entries) =
              scatter (values.set first entry) rows entries := rfl
          rw [unfolded]
          rcases member with here | later
          · rw [here, scatter_other _ rows entries first fresh]
            exact List.getElem?_set_self bound
          · refine ih _ _ others ?_ later
            intro row listed
            rw [List.length_set]
            exact inside row (List.mem_cons_of_mem first listed)

/-- An answer with an entry for each variable and each active row is stored in its places. -/
theorem Sized.answered_multipliers {Systems Programs : Type} [Scalar R]
    {solver : Solver R Systems Programs} (sized : solver.Sized)
    (environment : Environment R Systems Programs) (entries : List R)
    (counts : (entries.drop solver.problem.size).length =
      solver.equalityCount + solver.working.included.length) :
    (solver.answered environment entries).equalityMultipliers =
        (entries.drop solver.problem.size).take solver.equalityCount ∧
      (solver.answered environment entries).inequalityMultipliers =
        scatter solver.inequalityMultipliers solver.working.included
          ((entries.drop solver.problem.size).drop solver.equalityCount) := by
  refine sized.multipliers_stored _ _ ?_ ?_
  · rw [List.length_take, counts]
    exact Nat.min_eq_left (Nat.le_add_right _ _)
  · rw [length_scatter, sized.length_inequalityMultipliers]

end Solver

/-! ### A ready solver -/

namespace DenseSolver

section Ready
variable {R : Type} [Scalar R]

/-- A solver with its buffers, between two steps of a run. -/
structure Ready (problem : Problem R) (config : Config R) (solver : DenseSolver R) : Prop where
  problem_eq : solver.problem = problem
  config_eq : solver.config = config
  tolerance : solver.systems.pivotTolerance = config.pivotTolerance
  systems : DenseSystems.Sound problem solver.systems
  sized : solver.Sized

variable {problem : Problem R} {config : Config R} {elapsed : Nat → R}

theorem Kept.ready {solver : DenseSolver R} (kept : Kept problem config solver)
    (opened : solver.isReleased = false) : Ready problem config solver :=
  ⟨kept.problem_eq, kept.config_eq, kept.tolerance, kept.systems, kept.held opened⟩

namespace Ready

theorem equalityCount_eq {solver : DenseSolver R} (ready : Ready problem config solver) :
    solver.equalityCount = problem.equalities.count := by
  rw [← ready.problem_eq]
  rfl

theorem inequalityCount_eq {solver : DenseSolver R} (ready : Ready problem config solver) :
    solver.inequalityCount = problem.inequalities.count := by
  rw [← ready.problem_eq]
  rfl

theorem inside {solver : DenseSolver R} (ready : Ready problem config solver) :
    Kkt.Inside problem solver.working.included := by
  rw [← ready.problem_eq]
  exact ready.sized.inside

theorem follows {before after : DenseSolver R} (ready : Ready problem config before)
    (step : Solver.Follows (denseEnvironment elapsed) before after) :
    Ready problem config after := by
  have systems := step.systems
  rw [ready.problem_eq] at systems
  obtain ⟨tolerance, sound⟩ := served elapsed problem _ _ systems ready.systems
  exact ⟨step.problem.trans ready.problem_eq, step.config.trans ready.config_eq,
    tolerance.trans ready.tolerance, sound, ready.sized.follows step⟩

theorem started {solver start : DenseSolver R} {found : Bool} (ready : Ready problem config solver)
    (kick : Option (KickStart R))
    (begun : (solver.reset (denseEnvironment elapsed)).findStart (denseEnvironment elapsed) kick =
      (.ok found, start)) : Ready problem config start := by
  have step := (Solver.reset_follows (denseEnvironment elapsed) solver).trans
    (Solver.findStart_follows (denseEnvironment elapsed) _ kick)
  rw [begun] at step
  exact ready.follows step

theorem passed {solver next : DenseSolver R} {again : Bool} (ready : Ready problem config solver)
    (pass : solver.pass (denseEnvironment elapsed) = (again, next)) :
    Ready problem config next := by
  have step := Solver.pass_follows (denseEnvironment elapsed) solver
  rw [pass] at step
  exact ready.follows step

theorem looked {solver : DenseSolver R} (ready : Ready problem config solver)
    (elapsed : Nat → R) :
    Ready problem config (solver.overdue (denseEnvironment elapsed)).2 :=
  ready.follows (Solver.overdue_follows (denseEnvironment elapsed) solver)

theorem lastPass {solver before : DenseSolver R} (ready : Ready problem config solver)
    (budget : Nat) (kick : Option (KickStart R))
    (last : solver.lastPass (denseEnvironment elapsed) budget kick = some before) :
    Ready problem config before := by
  unfold Solver.lastPass at last
  split at last
  · rename_i start begun
    refine Solver.lastOfPasses_induction (denseEnvironment elapsed) start ?_ ?_ budget before
      (ready.started kick begun) last
    · intro solver clockReadings here
      have step : Solver.Follows (denseEnvironment elapsed) solver { solver with clockReadings } :=
        .same rfl rfl rfl rfl rfl rfl
      exact here.follows step
    · intro solver next here pass
      exact here.passed pass
  · simp at last

theorem subproblem {solver : DenseSolver R} (ready : Ready problem config solver)
    (elapsed : Nat → R) :
    Ready problem config (solver.subproblem (denseEnvironment elapsed)) := by
  have step : Solver.Follows (denseEnvironment elapsed) solver
      (solver.subproblem (denseEnvironment elapsed)) :=
    (Solver.narrowed_follows (denseEnvironment elapsed)
      { solver with blocking := none, stepLength := none } _).preceded rfl rfl rfl rfl rfl rfl
  exact ready.follows step

end Ready
end Ready

/-! ### Answers -/

variable {K : Type} [Field K] [LinearOrder K] [IsStrictOrderedRing K] [Rooted K]
variable {problem : Problem K} {config : Config K} {elapsed : Nat → K} {solver : DenseSolver K}

namespace Ready
variable (ready : Ready problem config solver)

include ready in
theorem systemAnswer_eq (elapsed : Nat → K) (valid : 0 ≤ config.pivotTolerance) :
    solver.systemAnswer (denseEnvironment elapsed) =
      (factorise config.pivotTolerance
        (Kkt.matrix problem solver.working.included)).toOption.map
          fun columns => Elimination.solve columns (Kkt.rhs problem solver.working.included) := by
  have inside := ready.inside
  have answer := DenseSystems.solve_eq problem solver.systems
    (Kkt.rhs problem solver.working.included) solver.working.included _ ready.systems
    (Kkt.matrix_square problem _ inside) (Kkt.length_rhs problem _ inside)
    (by rw [ready.tolerance]; exact valid)
  rw [ready.tolerance] at answer
  unfold Solver.systemAnswer
  rw [ready.problem_eq]
  exact answer

include ready in
/-- An answer solves the subproblem of the working set. -/
theorem solution (valid : 0 ≤ config.pivotTolerance) (entries : List K)
    (answer : solver.systemAnswer (denseEnvironment elapsed) = some entries) :
    Kkt.Solution problem solver.working.included (entries.take problem.size)
      (entries.drop problem.size) := by
  have inside := ready.inside
  rw [ready.systemAnswer_eq elapsed valid] at answer
  cases made : factorise config.pivotTolerance (Kkt.matrix problem solver.working.included) with
  | error note =>
      rw [made] at answer
      simp [Except.toOption] at answer
  | ok columns =>
      rw [made] at answer
      simp only [Except.toOption, Option.map_some, Option.some.injEq] at answer
      obtain ⟨system, length⟩ := factorise_solves config.pivotTolerance _ _ _ columns valid
        (Kkt.matrix_square problem _ inside) (Kkt.length_rhs problem _ inside) made
      rw [answer] at system length
      exact Kkt.solution_of_system problem _ entries length system

include ready in
theorem point_size : solver.point.length = problem.size := by
  rw [ready.sized.length_point, ready.problem_eq]

include ready in
theorem heading_eq (entries : List K) : solver.heading entries =
    Linear.subtract (entries.take problem.size) solver.point := by
  rw [Solver.heading, ready.problem_eq]

include ready in
theorem heading_size (valid : 0 ≤ config.pivotTolerance) (entries : List K)
    (answer : solver.systemAnswer (denseEnvironment elapsed) = some entries) :
    (solver.heading entries).length = solver.point.length := by
  rw [ready.heading_eq, Linear.length_subtract, (ready.solution valid entries answer).size,
    ready.point_size, Nat.min_self]

end Ready

/-! ### Where a round lands -/

namespace Ready
variable (ready : Ready problem config solver)

include ready in
/-- A step goes its length along the direction, be it zero. -/
theorem stepped_point (direction : List K) (sizes : direction.length = solver.point.length) :
    (solver.stepped direction).point =
      Linear.addScaled (solver.stepLimit direction).length direction solver.point := by
  unfold Solver.stepped
  simp only
  split
  · refine ready.sized.point_setPoint _ ?_
    rw [Linear.length_addScaled, sizes, Nat.min_self, ready.sized.length_point]
  -- The point is left alone just if the length is zero, since no length is negative.
  · rename_i stopped
    have still : (solver.stepLimit direction).length = 0 :=
      le_antisymm (not_lt.mp stopped) (RatioTest.length_range _ _).1
    rw [still, Linear.addScaled_zero _ _ sizes.symm]
    rfl

include ready in
/-- A round lands where it started or some way towards its answer. -/
theorem landed_point (valid : 0 ≤ config.pivotTolerance) :
    ((solver.landed (denseEnvironment elapsed)).2.point = solver.point ∧
        ∀ entries, solver.systemAnswer (denseEnvironment elapsed) = some entries →
          solver.stands (solver.heading entries) = true) ∨
      ∃ entries, solver.systemAnswer (denseEnvironment elapsed) = some entries ∧
        solver.stands (solver.heading entries) = false ∧
        (solver.landed (denseEnvironment elapsed)).2.point =
          Linear.addScaled (solver.stepLimit (solver.heading entries)).length
            (solver.heading entries) solver.point ∧
        (solver.blocking = none → (solver.landed (denseEnvironment elapsed)).2.blocking =
          (solver.stepLimit (solver.heading entries)).blocking) := by
  cases answer : solver.systemAnswer (denseEnvironment elapsed) with
  | none =>
      obtain ⟨systems, verdict, landed⟩ := Solver.landed_unsolved _ solver answer
      refine Or.inl ⟨?_, by simp⟩
      rw [landed]
      rfl
  | some entries =>
      have sizes := ready.heading_size valid entries answer
      have alike : (solver.answered (denseEnvironment elapsed) entries).stands
          (solver.heading entries) = solver.stands (solver.heading entries) := rfl
      unfold Solver.landed
      rw [answer]
      simp only [alike]
      cases stands : solver.stands (solver.heading entries) with
      | true =>
          refine Or.inl ⟨rfl, ?_⟩
          intro other same
          rw [← Option.some.inj same]
          exact stands
      | false =>
          exact Or.inr ⟨entries, rfl, stands, ready.stepped_point _ sizes,
            Solver.stepped_blocking (solver.answered (denseEnvironment elapsed) entries) _⟩

end Ready

/-! ### Stored multipliers -/

namespace Ready
variable (ready : Ready problem config solver)

include ready in
theorem answered_multipliers (elapsed : Nat → K) (entries : List K)
    (solution : Kkt.Solution problem solver.working.included (entries.take problem.size)
      (entries.drop problem.size)) :
    (solver.answered (denseEnvironment elapsed) entries).equalityMultipliers =
        (entries.drop problem.size).take problem.equalities.count ∧
      (solver.answered (denseEnvironment elapsed) entries).inequalityMultipliers =
        Solver.scatter solver.inequalityMultipliers solver.working.included
          ((entries.drop problem.size).drop problem.equalities.count) := by
  have counts : (entries.drop solver.problem.size).length =
      solver.equalityCount + solver.working.included.length := by
    rw [ready.problem_eq, ready.equalityCount_eq]
    exact solution.counts
  have stored := ready.sized.answered_multipliers (denseEnvironment elapsed) entries counts
  rw [ready.equalityCount_eq, ready.problem_eq] at stored
  exact stored

include ready in
theorem answered_includedEntries (entries : List K)
    (solution : Kkt.Solution problem solver.working.included (entries.take problem.size)
      (entries.drop problem.size)) :
    (solver.answered (denseEnvironment elapsed) entries).includedEntries =
      solver.working.included.zip
        ((entries.drop problem.size).drop problem.equalities.count) := by
  have working : (solver.answered (denseEnvironment elapsed) entries).working = solver.working :=
    rfl
  have count : ((entries.drop problem.size).drop problem.equalities.count).length =
      solver.working.included.length := by
    rw [List.length_drop, solution.counts]
    omega
  have held := ready.sized.length_inequalityMultipliers
  unfold Solver.includedEntries Solver.multipliersAt
  simp only
  rw [working, (ready.answered_multipliers elapsed entries solution).2]
  congr 1
  apply List.ext_getElem
  · rw [List.length_map, count]
  · intro place first second
    rw [List.getElem_map, List.getD_eq_getElem?_getD]
    rw [List.length_map] at first
    have pair : (solver.working.included[place],
        ((entries.drop problem.size).drop problem.equalities.count)[place]) ∈
          solver.working.included.zip
            ((entries.drop problem.size).drop problem.equalities.count) := by
      apply List.mem_iff_getElem.mpr
      exact ⟨place, by rw [List.length_zip]; omega, by rw [List.getElem_zip]⟩
    -- The rows are distinct, so no multiplier is written over by a later one.
    have found := Solver.scatter_at solver.inequalityMultipliers _ _
      (WorkingSet.included_nodup solver.working) (by rw [held]; exact ready.sized.inside) _ pair
    simp only at found
    rw [found, Option.getD_some]

end Ready
end DenseSolver

/-! ### Configurations -/

/-- No tolerance is negative; validation sees to more than that. -/
structure Config.Nonnegative {K : Type} [Field K] [LinearOrder K] (config : Config K) : Prop where
  slack : 0 ≤ config.slackTolerance
  solution : 0 ≤ config.solutionTolerance
  pivot : 0 ≤ config.pivotTolerance

/-! ### Runs over the rationals -/

deriving instance DecidableEq for Result

theorem ok_of_toOption {Answer : Type} (outcome : Except Error Answer) (answer : Answer)
    (found : outcome.toOption = some answer) : outcome = .ok answer := by
  cases outcome with
  | error cause => simp [Except.toOption] at found
  | ok other => exact congrArg Except.ok (Option.some.inj found)

def plainConfig : Config ℚ where
  slackTolerance := 1e-8
  solutionTolerance := 1e-10
  pivotTolerance := 1e-12
  iterationLimit := 1000
  timeLimit := none
  tracing := false
  table := false
  capacities := ⟨16, 16384, by decide, by decide, 10, rfl⟩
  allocator := .heap
  programTimeLimit := none
  programTolerance := 1e-9
  programPresolve := true

theorem plainConfig_nonnegative : plainConfig.Nonnegative :=
  ⟨by decide +kernel, by decide +kernel, by decide +kernel⟩

def stoppedClock : Nat → ℚ := fun _ => 0

/-- Half of `curve * x²` less `slope * x`, where `row * x` is not more than `bound`. -/
def line (curve slope row bound : ℚ) : Problem ℚ where
  size := 1
  quadratic := [[curve]]
  linear := [slope]
  equalities := Constraints.none
  inequalities := ⟨[[row]], [bound], fun _ only => List.mem_singleton.mp only ▸ rfl, rfl⟩
  size_pos := by decide
  quadratic_height := rfl
  quadratic_width _ only := List.mem_singleton.mp only ▸ rfl
  linear_length := rfl

/-- A session that was sent no request yet, for which no linear programme is prepared. -/
def freshSession (problem : Problem ℚ) : Session ℚ (DenseSystems ℚ) (ProgramSource ℚ) :=
  Session.new (DenseSolver.new problem plainConfig none (.prepared []))

theorem freshSession_reached (problem : Problem ℚ) :
    Session.Reached problem plainConfig (.prepared []) (freshSession problem) := .fresh

end ConvexQP
