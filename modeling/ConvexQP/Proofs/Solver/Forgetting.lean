import ConvexQP.Proofs.Solver.AlikeRuns
import ConvexQP.Proofs.Solver.Exact

/-!
A run does not depend on the past of its solver. The state a run starts from forgets all that a
later branch reads: point, multipliers, working set, the step and the suggestions of the last pass,
and the factors. The verdict stays until the start of the run forms its own.
-/
namespace ConvexQP

/-! ### What methods remember -/

theorem FactorCache.solve_same {R Key : Type} [Scalar R] [BEq Key] {left right : FactorCache R Key}
    (key : left.key = right.key) (factors : left.factors = right.factors) (pivotTolerance : R)
    (matrix sides : List (List R)) (next : Option Key) :
    (left.solve pivotTolerance matrix sides next).1 =
        (right.solve pivotTolerance matrix sides next).1 ∧
      (left.solve pivotTolerance matrix sides next).2.key =
        (right.solve pivotTolerance matrix sides next).2.key ∧
      (left.solve pivotTolerance matrix sides next).2.factors =
        (right.solve pivotTolerance matrix sides next).2.factors := by
  unfold FactorCache.solve FactorCache.factorsFor
  rw [key]
  by_cases hit : (next.isSome && right.key == next) = true
  · rw [if_pos hit, if_pos hit]
    simp only [factors, and_self]
  · rw [if_neg hit, if_neg hit]
    cases factorise pivotTolerance matrix with
    | ok columns => simp only [and_self]
    | error note => simp only [and_self]

section Methods
variable {R : Type} [Scalar R]

/-- Systems that nothing disturbs and that remember the same factors under the same key. -/
structure DenseSystems.Same (left right : DenseSystems R) : Prop where
  pivotTolerance : left.pivotTolerance = right.pivotTolerance
  undisturbed : left.fault = none
  otherUndisturbed : right.fault = none
  key : left.cache.key = right.cache.key
  factors : left.cache.factors = right.cache.factors

theorem DenseSystems.Same.solve {left right : DenseSystems R} (same : left.Same right)
    (matrix : List (List R)) (rhs : List R) (key : List Nat) :
    (left.solve matrix rhs key).1 = (right.solve matrix rhs key).1 ∧
      (left.solve matrix rhs key).2.2.Same (right.solve matrix rhs key).2.2 := by
  obtain ⟨answer, keys, factors⟩ := FactorCache.solve_same same.key same.factors
    left.pivotTolerance matrix [rhs] (some key)
  rw [same.pivotTolerance] at answer keys factors
  constructor
  · unfold DenseSystems.solve DenseSystems.disturb
    simp only [same.pivotTolerance, same.undisturbed, same.otherUndisturbed, answer]
  · unfold DenseSystems.solve
    rw [same.pivotTolerance]
    exact ⟨rfl, same.undisturbed, same.otherUndisturbed, keys, factors⟩

theorem DenseSystems.Same.alike {left right : DenseSystems R} (same : left.Same right)
    (elapsed : Nat → R) (problem : Problem R) :
    (denseEnvironment elapsed).SystemsAlike (denseEnvironment elapsed) problem left right := by
  refine ⟨DenseSystems.Same, same, fun one other kept => ⟨?_, fun rhs key => ?_⟩⟩
  · exact { kept with key := rfl, factors := rfl }
  · exact kept.solve (Kkt.matrix problem key) rhs key

/-- Sources with the same answers to come differ in what they were asked at most. -/
theorem ProgramSource.alike {left right : ProgramSource R} (same : left.method = right.method)
    (elapsed : Nat → R) :
    (denseEnvironment elapsed).ProgramsAlike (denseEnvironment elapsed) left right := by
  refine ⟨fun one other => one.method = other.method, same, fun one other program kept => ?_⟩
  have answered : ProgramSource.answer one.method program =
      ProgramSource.answer other.method program :=
    congrArg (ProgramSource.answer · program) kept
  have given := congrArg Prod.fst answered
  have later := congrArg Prod.snd answered
  exact ⟨given, later⟩

end Methods

/-! ### The start of a run -/

namespace Solver
variable {R Systems Programs : Type} [Scalar R] (environment : Environment R Systems Programs)
variable {left right : Solver R Systems Programs}

theorem Sized.point_reset {solver : Solver R Systems Programs} (sized : solver.Sized) :
    (solver.reset environment).point = Linear.zeros solver.problem.size :=
  sized.point_setPoint _ List.length_replicate

theorem Sized.multiplierList_reset {solver : Solver R Systems Programs} (sized : solver.Sized) :
    (solver.reset environment).multiplierList =
      Linear.zeros (solver.equalityCount + solver.inequalityCount) :=
  sized.multiplierList_setMultipliers _ List.length_replicate

/-- Solvers of the same problem start alike, whatever they did before, if their methods do. -/
theorem Sized.reset_alike (sized : left.Sized) (otherSized : right.Sized)
    (problem : left.problem = right.problem) (config : left.config.Alike right.config)
    (systems : environment.SystemsAlike environment left.problem
      (environment.forgetSystem left.systems) (environment.forgetSystem right.systems))
    (programs : environment.ProgramsAlike environment left.programs right.programs) :
    Alike environment environment False (left.reset environment) (right.reset environment) := by
  have kept := reset_follows environment left
  have otherKept := reset_follows environment right
  have equalities : left.equalityCount = right.equalityCount :=
    congrArg (fun problem => problem.equalities.count) problem
  have inequalities : left.inequalityCount = right.inequalityCount :=
    congrArg (fun problem => problem.inequalities.count) problem
  have iterate : (left.reset environment).iterate.vector.Alike
      (right.reset environment).iterate.vector := by
    refine ⟨kept.iterate.wellFormed sized.iterate, otherKept.iterate.wellFormed otherSized.iterate, ?_⟩
    have items := sized.point_reset environment
    rw [problem, ← otherSized.point_reset environment] at items
    exact items
  have multipliers : (left.reset environment).multipliers.vector.Alike
      (right.reset environment).multipliers.vector := by
    refine ⟨kept.multipliers.wellFormed sized.multipliers,
      otherKept.multipliers.wellFormed otherSized.multipliers, ?_⟩
    have items := sized.multiplierList_reset environment
    rw [equalities, inequalities, ← otherSized.multiplierList_reset environment] at items
    exact items
  have working : left.working.clear = right.working.clear := by
    unfold WorkingSet.clear
    rw [sized.rows, otherSized.rows, inequalities]
  have direction : (Linear.zeros left.problem.size : List R) = Linear.zeros right.problem.size :=
    congrArg (fun problem => Linear.zeros problem.size) problem
  exact {
    problem, config, iterate, multipliers, working, direction, systems, programs
    blocking := rfl
    verdict := False.elim
    iterations := rfl
    history := rfl
    stepLength := rfl
    toInclude := rfl
    toExclude := rfl
    clockReadings := rfl
    clock := rfl }

end Solver

theorem DenseSystems.Same.forget {R : Type} [Scalar R] {problem other : Problem R}
    {left right : DenseSystems R} (tolerance : left.pivotTolerance = right.pivotTolerance)
    (sound : DenseSystems.Sound problem left) (otherSound : DenseSystems.Sound other right) :
    left.forget.Same right.forget :=
  ⟨tolerance, sound.undisturbed, otherSound.undisturbed, rfl, rfl⟩

/-! ### A run after others -/

section Runs
variable {R : Type} [Scalar R] {problem : Problem R} {config : Config R}

/-- A run of a solver that was used before, and has not given its buffers back, ends as the run of a
new solver with the same start and the same answers to come: with the same result and history, or
refused for the same cause. It leaves the same point, multipliers and working set. -/
theorem solve_forgets_past {method : ProgramMethod R}
    {session : Session R (DenseSystems R) (ProgramSource R)}
    (reached : Session.Reached problem config method session)
    (opened : session.solver.isReleased = false) (programs : ProgramSource R) (elapsed : Nat → R)
    (budget : Nat) (kick : Option (KickStart R)) :
    let used : DenseSolver R := { session.solver with programs }
    let again := used.solve (denseEnvironment elapsed) budget kick
    let first := (DenseSolver.new problem config none programs.method).solve
      (denseEnvironment elapsed) budget kick
    again.1 = first.1 ∧ again.2.history = first.2.history ∧ again.2.point = first.2.point ∧
      again.2.multiplierList = first.2.multiplierList ∧ again.2.working = first.2.working := by
  intro used again first
  have ready := reached.kept.ready opened
  have new : (DenseSolver.new problem config none programs.method).Sized :=
    Solver.new_sized problem config _ _
  have fresh : DenseSystems.Sound problem (DenseSystems.new config none) :=
    ⟨rfl, FactorCache.empty_coherent _ _⟩
  have sized : used.Sized :=
    ⟨ready.sized.iterate, ready.sized.multipliers, ready.sized.point_length,
      ready.sized.multipliers_length, ready.sized.rows⟩
  have settings : used.config = config := ready.config_eq
  have systems := (DenseSystems.Same.forget ready.tolerance ready.systems fresh).alike elapsed
    session.solver.problem
  have method : programs.method = (⟨programs.method, #[]⟩ : ProgramSource R).method := rfl
  have alike := sized.reset_alike (denseEnvironment elapsed) new ready.problem_eq
    (settings ▸ .refl config) systems (ProgramSource.alike method elapsed)
  obtain ⟨outcome, ended⟩ := alike.solve budget kick
  exact ⟨outcome, ended.history, ended.point, ended.multiplierList, ended.working⟩

end Runs

open scoped Exact

/-- A session that solved, and was then moved by hand, stepwise and off the constraints. -/
def wornSession (problem : Problem ℚ) : Session ℚ (DenseSystems ℚ) (ProgramSource ℚ) :=
  [.solve (.given (.point [0])), .includeRow (.integer 0), .setMultipliers [7], .take .stepOnce,
    .setPoint [9], .respond true (some [3])].foldl
      (fun session request => (session.run (denseEnvironment stoppedClock) request).2)
      (freshSession problem)

theorem wornSession_reached (problem : Problem ℚ) :
    Session.Reached problem plainConfig (.prepared []) (wornSession problem) :=
  .later _ stoppedClock _ (.later _ stoppedClock _ (.later _ stoppedClock _
    (.later _ stoppedClock _ (.later _ stoppedClock _
      (.later _ stoppedClock _ (freshSession_reached problem))))))

theorem solve_forgets_past_wornLine :
    let worn := (wornSession (line 1 2 1 1)).solver
    let used : DenseSolver ℚ := { worn with programs := ⟨.prepared [], #[]⟩ }
    let again := used.solve (denseEnvironment stoppedClock) 9 (some (.point [0]))
    let first := (DenseSolver.new (line 1 2 1 1) plainConfig none (.prepared [])).solve
      (denseEnvironment stoppedClock) 9 (some (.point [0]))
    worn.isReleased = false ∧ worn.point = [3] ∧ again.1 = first.1 ∧
      again.2.history = first.2.history := by
  intro worn used again first
  have opened : worn.isReleased = false := by decide +kernel
  have moved : worn.point = [3] := by decide +kernel
  obtain ⟨outcome, history, _⟩ := solve_forgets_past (wornSession_reached (line 1 2 1 1)) opened
    ⟨.prepared [], #[]⟩ stoppedClock 9 (some (.point [0]))
  exact ⟨opened, moved, outcome, history⟩

end ConvexQP
