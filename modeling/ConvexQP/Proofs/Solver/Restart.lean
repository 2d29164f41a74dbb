import ConvexQP.Proofs.Exact.Widening
import ConvexQP.Proofs.Solver.Blocking
import ConvexQP.Proofs.Solver.Explained
import ConvexQP.Proofs.Solver.Resting
import ConvexQP.Proofs.Solver.TightStart
import Mathlib.Data.List.Sort

/-!
Restarts. A run from the point of an optimal result starts with the rows that are tight there, not
with those that were active. Its first pass is its last one, and counts nothing, just if a solution
over these rows rests at the point. So it is when they are the rows that were active; with others
among them it need not be.
-/
namespace ConvexQP
open scoped Exact

/-! ### Runs that count nothing -/

namespace Solver
variable {R Systems Programs : Type} [Scalar R] {environment : Environment R Systems Programs}
variable {solver start : Solver R Systems Programs} {kick : Option (KickStart R)}

/-- As long as no pass is counted, a run is where it started, with the rows it started with. -/
theorem Course.unmoved {passes : Nat} {state : Solver R Systems Programs}
    (begun : (solver.reset environment).findStart environment kick = (.ok true, start))
    (course : Course environment solver kick passes state) (uncounted : state.iterations = 0) :
    state.point = start.point ∧ state.working.included = start.working.included := by
  induction course with
  | started other found =>
      rw [begun] at found
      obtain rfl : start = other := congrArg Prod.snd found
      exact ⟨rfl, rfl⟩
  | passed passes before after course step ih =>
      obtain ⟨entry, recorded⟩ := step.recorded step.unguarded
      have counts := recorded.counts
      have first : before.iterations = 0 := by omega
      obtain ⟨point, included⟩ := ih first
      obtain ⟨raised, reverted⟩ := onePass_counted_iff environment before after step
      -- A pass that is not counted ends where it started.
      by_cases never : ∀ row, ¬ Reverts environment (before.overdue environment).2 row
      · have more := raised.mpr never
        omega
      · simp only [not_forall, not_not] at never
        obtain ⟨row, reverts⟩ := never
        obtain ⟨_, rows, place⟩ := reverted row reverts
        exact ⟨place.trans point, rows.trans included⟩

end Solver

variable {K : Type} [Field K] [LinearOrder K] [IsStrictOrderedRing K] [Rooted K]
variable {problem : Problem K} {config : Config K} {elapsed : Nat → K}

section Runs
variable {solver start : DenseSolver K} {kick : Option (KickStart K)}
variable (ready : DenseSolver.Ready problem config solver) (valid : config.Nonnegative)
variable (begun : (solver.reset (denseEnvironment elapsed)).findStart (denseEnvironment elapsed)
  kick = (.ok true, start))

include ready valid begun in
/-- A run that ends as optimal and counts nothing started where a solution rests. -/
theorem rests_of_solve (budget : Nat) (result : Result K)
    (answered : (solver.solve (denseEnvironment elapsed) budget kick).1 = .ok (some result))
    (optimal : result.verdict = .optimal) (uncounted : result.iterations = 0) :
    Rests problem config start.working.included start.point := by
  obtain ⟨_, _, ended, _, ends, _, same⟩ :=
    Solver.solve_ends budget result _ (Prod.ext answered rfl)
  rw [same] at optimal uncounted
  change ended.verdict = .optimal at optimal
  change ended.iterations = 0 at uncounted
  cases ends with
  | refused stopped refused =>
      rw [begun] at refused
      simp at refused
  | spent passes state notes => simp at optimal
  | late passes clockReadings state notes => simp at optimal
  | overflowed passes before ended course step guarded =>
      have infinite := guarded.2
      simp [Solver.allFinite, Exact.allFinite] at infinite
  | settled passes before ended course step kept =>
      obtain ⟨entry, recorded⟩ := step.recorded kept
      have counts := recorded.counts
      have first : before.iterations = 0 := by omega
      obtain ⟨point, included⟩ := course.unmoved begun first
      obtain ⟨clockReadings, looking⟩ := Solver.overdue_frame (denseEnvironment elapsed) before
      have looked := (ready.boundary kick true course.boundary).looked elapsed
      have passed := step.passed
      rw [looking] at looked passed
      have idle := looked.idle_of_pass ended passed optimal (uncounted.trans first.symm)
      have rests := looked.rests_of_idle valid idle
      change Rests problem config before.working.included before.point at rests
      rwa [point, included] at rests

include ready begun in
/-- The first look of a run is not late if the clock then reads within the limit. -/
theorem overdue_of_start
    (timely : ∀ limit, config.timeLimit = some limit → elapsed 0 ≤ limit) : ∃ clockReadings,
      start.overdue (denseEnvironment elapsed) = (none, { start with clockReadings }) := by
  obtain ⟨_, _, _, _, _, _, _, frame⟩ :=
    Solver.findStart_frame (denseEnvironment elapsed) _ kick true start begun
  have readings : start.clockReadings = 0 := by
    rw [frame]
    rfl
  have limits : start.config.timeLimit = config.timeLimit := by
    rw [(ready.started kick begun).config_eq]
  cases limited : config.timeLimit with
  | none =>
      refine ⟨start.clockReadings, ?_⟩
      simp only [Solver.overdue, limits, limited]
  | some limit =>
      have early : ¬ limit < (denseEnvironment elapsed).elapsed start.clockReadings := by
        rw [readings]
        exact not_lt.mpr (timely limit limited)
      refine ⟨start.clockReadings + 1, ?_⟩
      simp only [Solver.overdue, limits, limited, early, decide_false, Bool.false_eq_true,
        if_false]

include ready valid begun in
/-- A run that starts at a feasible point where a solution rests ends there at once. -/
theorem solve_of_rests (feasible : problem.Feasible start.point)
    (rests : Rests problem config start.working.included start.point)
    (possible : 0 < config.iterationLimit)
    (timely : ∀ limit, config.timeLimit = some limit → elapsed 0 ≤ limit) (budget : Nat)
    (room : 0 < budget) :
    ∃ result, (solver.solve (denseEnvironment elapsed) budget kick).1 = .ok (some result) ∧
      result.verdict = .optimal ∧ result.point = start.point ∧
      result.value = problem.objective start.point ∧ result.iterations = 0 := by
  have opening := ready.started kick begun
  have iterations := (Solver.started_blank true start begun).2.1
  obtain ⟨clockReadings, looked⟩ := overdue_of_start ready begun timely
  have watched : DenseSolver.Ready problem config { start with clockReadings } := by
    have ready := opening.looked elapsed
    rwa [looked] at ready
  have idle : Solver.Idle (denseEnvironment elapsed) { start with clockReadings } :=
    watched.idle_of_rests valid rests
  obtain ⟨ended, passed, optimal, same, point, count⟩ :=
    idle.pass (watched.landing_possible feasible) (by simp [Solver.allFinite, Exact.allFinite])
  obtain ⟨more, rfl⟩ := Nat.exists_eq_succ_of_ne_zero room.ne'
  have finished : Solver.passes (denseEnvironment elapsed) (more + 1) start = (some (), ended) := by
    simp only [Solver.passes, looked, passed]
    rw [if_neg]
    rw [iterations, opening.config_eq]
    exact not_le.mpr possible
  obtain ⟨printed, closing⟩ :=
    Solver.printLine_frame ended (.closing ended.verdict ended.iterations)
  refine ⟨ended.result, ?_, optimal, point, ?_, count.trans iterations⟩
  · simp only [Solver.solve, begun, Nat.succ_eq_add_one, finished, closing]
    rfl
  · change ended.problem.objective ended.point = problem.objective start.point
    rw [same, point]
    exact congrArg (Problem.objective · start.point) opening.problem_eq

end Runs

/-! ### The rows of a restart -/

/-- A solution that rests also rests among further rows that are tight at its point, if their system
is accepted. -/
theorem Rests.of_solution {inner outer : List Nat} {point multipliers : List K}
    (solution : Kkt.Solution problem inner point multipliers) (convex : problem.Convex)
    (valid : config.Nonnegative) (within : inner.Sublist outer) (inside : Kkt.Inside problem outer)
    (tight : Kkt.Tight problem outer point) (columns : List (ClearedColumn K))
    (accepted : factorise config.pivotTolerance (Kkt.matrix problem outer) = .ok columns)
    (floor : ∀ multiplier ∈ multipliers.drop problem.equalities.count,
      -config.solutionTolerance ≤ multiplier) : Rests problem config outer point := by
  obtain ⟨others, wide, values⟩ := solution.widen within inside tight
  obtain ⟨system, length⟩ := factorise_solves config.pivotTolerance _ _ _ columns valid.pivot
    (Kkt.matrix_square problem outer inside) (Kkt.length_rhs problem outer inside) accepted
  obtain ⟨there, same⟩ := wide.unique (Kkt.solution_of_system problem outer _ length system) inside
    convex config.pivotTolerance columns valid.pivot accepted
  refine .solved _ ?_ (Or.inl there.symm) ?_
  · rw [accepted]
    rfl
  · intro multiplier member
    rw [same] at member
    rcases values multiplier member with rfl | old
    · exact neg_nonpos.mpr valid.solution
    · exact floor multiplier old

theorem Problem.tightRows_increasing (problem : Problem K) (tolerance : K) (point : List K) :
    (problem.tightRows tolerance point).Pairwise (· < ·) :=
  List.pairwise_lt_range.sublist List.filter_sublist

theorem Problem.startRows_increasing (problem : Problem K) (tolerance : K) (point : List K) :
    (problem.startRows tolerance point).Pairwise (· < ·) :=
  (problem.tightRows_increasing tolerance point).sublist (List.take_sublist _ _)

theorem Problem.startRows_inside (problem : Problem K) (tolerance : K) (point : List K) :
    Kkt.Inside problem (problem.startRows tolerance point) := fun _ member =>
  List.mem_range.mp (List.mem_filter.mp (List.mem_of_mem_take member)).1

section Restarts
variable {method other : ProgramMethod K}
variable {session later : Session K (DenseSystems K) (ProgramSource K)}
variable (reached : Session.Reached problem config method session)
variable (opened : session.solver.isReleased = false)
variable (convex : problem.Convex) (valid : config.Nonnegative)
variable (budget : Nat) (kick : Option (KickStart K)) (result : Result K)
variable (answered : (session.solver.solve (denseEnvironment elapsed) budget kick).1 =
  .ok (some result))
variable (optimal : result.verdict = .optimal)

include reached opened convex valid answered optimal in
/-- If the last run stopped at the solution of its last subproblem, this solution rests among the
rows of a restart: when no row is tight but those that were active, and when the rows are these and
more of them, all without slack, whose system is accepted. -/
theorem rests_of_optimal (before : DenseSolver K) (entries : List K)
    (last : session.solver.lastPass (denseEnvironment elapsed) budget kick = some before)
    (solved : (before.subproblem (denseEnvironment elapsed)).systemAnswer
      (denseEnvironment elapsed) = some entries)
    (exact : result.point = entries.take problem.size) :
    (problem.tightRows config.slackTolerance result.point ⊆ result.activeSet →
      Rests problem config (problem.startRows config.slackTolerance result.point)
        result.point) ∧
    ((∀ row ∈ problem.startRows config.slackTolerance result.point,
        problem.inequalities.slackOf result.point row = 0) →
      (∀ row ∈ result.activeSet,
        row ∈ problem.startRows config.slackTolerance result.point) →
      (∃ columns, factorise config.pivotTolerance (Kkt.matrix problem
        (problem.startRows config.slackTolerance result.point)) = .ok columns) →
      Rests problem config (problem.startRows config.slackTolerance result.point)
        result.point) := by
  obtain ⟨found, again, ready, reason, active, _, _⟩ :=
    optimal_result reached opened elapsed budget kick result answered optimal
  obtain rfl : before = found := Option.some.inj (last.symm.trans again)
  rw [Solver.landing_working] at active
  simp only [Solver.landing] at reason
  generalize before.subproblem (denseEnvironment elapsed) = decisive at *
  have solution := ready.solution valid.pivot entries solved
  have floor := ready.floor_of_reason entries solved solution valid.solution reason
  obtain ⟨columns, accepted⟩ := ready.accepted valid.pivot entries solved
  have inside := ready.inside
  have increasing := decisive.working.included_increasing
  rw [← active] at solution accepted inside increasing
  rw [← exact] at solution
  constructor
  · intro within
    -- The rows that were active have no slack at the solution, so they are tight in any case.
    have tight : result.activeSet ⊆ problem.tightRows config.slackTolerance result.point := by
      intro row member
      rw [Problem.tightRows, List.mem_filter, List.mem_range, decide_eq_true_eq,
        solution.slackOf_eq_zero inside row member]
      exact ⟨inside row member, valid.slack⟩
    have same : problem.tightRows config.slackTolerance result.point = result.activeSet :=
      (problem.tightRows_increasing _ _).eq_of_mem_iff increasing fun row =>
        ⟨fun member => within member, fun member => tight member⟩
    -- The rows of a solved system are independent, so there is room for all of them.
    have room := (Kkt.regular_of_accepted problem _ inside convex config.pivotTolerance columns
      valid.pivot accepted).fits inside
    have rows : problem.startRows config.slackTolerance result.point = result.activeSet := by
      rw [Problem.startRows, same]
      exact List.take_of_length_le (by omega)
    rw [rows]
    exact .of_solution solution convex valid (List.Sublist.refl _) inside solution.tight columns
      accepted floor
  · intro slacks kept further
    obtain ⟨columns, accepted⟩ := further
    have within : result.activeSet.Sublist
        (problem.startRows config.slackTolerance result.point) :=
      List.sublist_of_subperm_of_pairwise (increasing.nodup.subperm kept) increasing
        (problem.startRows_increasing _ _)
    have room := problem.startRows_inside config.slackTolerance result.point
    exact .of_solution solution convex valid within room
      ((Kkt.tight_iff room).mpr ⟨solution.rows_hold.1, slacks⟩) columns accepted floor

include reached opened answered optimal in
/-- An optimal result tells the objective of its point, from a run that was allowed a pass. -/
theorem optimal_told : result.value = problem.objective result.point ∧
    0 < config.iterationLimit := by
  have ready := reached.kept.ready opened
  rcases Solver.solve_decided (denseEnvironment elapsed) session.solver budget kick result answered
      (by rw [optimal]; simp) with
    ⟨stopped, refused, rfl⟩ | ⟨start, before, ended, _, boundary, step, rfl⟩
  · exact absurd optimal (Solver.findStart_false _ _ kick stopped refused)
  · have now := ready.boundary kick true boundary
    have after := (now.looked elapsed).passed step.passed
    have counts := step.counts
    rw [now.config_eq] at counts
    exact ⟨congrArg (Problem.objective · ended.point) after.problem_eq, by omega⟩

/-- A run from the point of an optimal result starts there, with the first rows that are tight, and
ends there with nothing counted just if a solution over these rows rests at the point. Where the
last run stopped at the solution of its last subproblem, this is so if no row is tight but those
that were active; and also if all of these are among the rows, none of the rows has slack, and their
system is accepted. -/
theorem restart_of_optimal (reached : Session.Reached problem config method session)
    (opened : session.solver.isReleased = false)
    (reachedLater : Session.Reached problem config other later)
    (openedLater : later.solver.isReleased = false) (convex : problem.Convex)
    (valid : config.Nonnegative) (elapsed : Nat → K) (budget : Nat) (kick : Option (KickStart K))
    (result : Result K)
    (answered : (session.solver.solve (denseEnvironment elapsed) budget kick).1 =
      .ok (some result))
    (optimal : result.verdict = .optimal) (feasible : problem.Feasible result.point)
    (clock : Nat → K) (more : Nat) :
    let rows := problem.startRows config.slackTolerance result.point
    let restart := some (KickStart.result result.verdict result.point)
    (∃ start, (later.solver.reset (denseEnvironment clock)).findStart (denseEnvironment clock)
        restart = (.ok true, start) ∧ start.point = result.point ∧
        start.working.included = rows) ∧
      ((∀ limit, config.timeLimit = some limit → clock 0 ≤ limit) → 0 < more →
        ((∃ second, (later.solver.solve (denseEnvironment clock) more restart).1 =
            .ok (some second) ∧ second.verdict = .optimal ∧ second.point = result.point ∧
            second.value = result.value ∧ second.iterations = 0) ↔
          Rests problem config rows result.point)) ∧
      ∀ before entries,
        session.solver.lastPass (denseEnvironment elapsed) budget kick = some before →
        (before.subproblem (denseEnvironment elapsed)).systemAnswer (denseEnvironment elapsed) =
          some entries →
        result.point = entries.take problem.size →
        (problem.tightRows config.slackTolerance result.point ⊆ result.activeSet →
          Rests problem config rows result.point) ∧
        ((∀ row ∈ rows, problem.inequalities.slackOf result.point row = 0) →
          (∀ row ∈ result.activeSet, row ∈ rows) →
          (∃ columns, factorise config.pivotTolerance (Kkt.matrix problem rows) = .ok columns) →
          Rests problem config rows result.point) := by
  intro rows restart
  have ready := reachedLater.kept.ready openedLater
  obtain ⟨start, begun, point, included⟩ : ∃ start,
      (later.solver.reset (denseEnvironment clock)).findStart (denseEnvironment clock) restart =
        (.ok true, start) ∧ start.point = result.point ∧ start.working.included = rows :=
    ready.starts _ (by rw [optimal]; rfl) feasible
  obtain ⟨value, possible⟩ := optimal_told reached opened budget kick result answered optimal
  refine ⟨⟨start, begun, point, included⟩, ?_, fun before entries last solved exact =>
    rests_of_optimal reached opened convex valid budget kick result answered optimal before entries
      last solved exact⟩
  intro timely room
  constructor
  · rintro ⟨second, ended, again, _, _, uncounted⟩
    have rests := rests_of_solve ready valid begun more second ended again uncounted
    rwa [point, included] at rests
  · intro rests
    rw [← point, ← included] at rests
    obtain ⟨second, ended, again, same, worth, uncounted⟩ := solve_of_rests ready valid begun
      (by rw [point]; exact feasible) rests possible timely more room
    exact ⟨second, ended, again, same.trans point, by rw [worth, point, value], uncounted⟩

end Restarts

/-! ### Restarts that count nothing, and one that counts -/

/-- The half line is left for its end, and a run from there on the same solver counts nothing. -/
theorem restart_of_optimal_halfLine :
    ∃ later : Session ℚ (DenseSystems ℚ) (ProgramSource ℚ),
      later = ((freshSession halfLine).run (denseEnvironment stoppedClock)
        (.solve (.given (.point [-1])))).2 ∧ later.latest.map Result.point = some [0] ∧
      ∃ second, (later.solver.solve (denseEnvironment stoppedClock) 1
          (some (.result .optimal [0]))).1 = .ok (some second) ∧ second.verdict = .optimal ∧
        second.point = [0] ∧ second.value = 0 ∧ second.iterations = 0 := by
  have decisive : ((freshSession halfLine).solver.lastPass (denseEnvironment stoppedClock) 2
      (some (.point [-1]))).map (fun before =>
        (before.subproblem (denseEnvironment stoppedClock)).systemAnswer
          (denseEnvironment stoppedClock)) = some (some [0, 1]) := by decide +kernel
  obtain ⟨before, last, solved⟩ := Option.map_eq_some_iff.mp decisive
  obtain ⟨later, same⟩ : ∃ later, later = ((freshSession halfLine).run
      (denseEnvironment stoppedClock) (.solve (.given (.point [-1])))).2 := ⟨_, rfl⟩
  have facts : later.latest.map Result.point = some [0] ∧ later.solver.isReleased = false := by
    rw [same]
    decide +kernel
  have reached : Session.Reached halfLine plainConfig (.prepared []) later := by
    rw [same]
    exact .later _ _ _ (freshSession_reached halfLine)
  obtain ⟨_, free, rests⟩ := restart_of_optimal (freshSession_reached halfLine) rfl reached facts.2
    halfLine_strictlyConvex.convex plainConfig_nonnegative stoppedClock 2 (some (.point [-1]))
    ⟨.optimal, [0], 0, 1, [0], [1]⟩ (ok_of_toOption _ _ (by decide +kernel)) rfl
    (by constructor <;> decide +kernel) stoppedClock 1
  have timely : ∀ limit, plainConfig.timeLimit = some limit → stoppedClock 0 ≤ limit :=
    fun _ limited => by simp [plainConfig] at limited
  exact ⟨later, same, facts.1, (free timely Nat.one_pos).mpr
    ((rests before [0, 1] last solved rfl).1 (by decide +kernel))⟩

/-- Half of `x² / 64 + y²` with `5 x / 64`, where `x` is between minus three and zero and `y` is not
positive, which is said twice. -/
def slowEbb : Problem ℚ where
  size := 2
  quadratic := [[1 / 64, 0], [0, 1]]
  linear := [-5 / 64, 0]
  equalities := Constraints.none
  inequalities := ⟨[[0, 1], [0, 1], [1, 0], [-1, 0]], [0, 0, 0, 3], by simp, rfl⟩
  size_pos := Nat.zero_lt_two
  quadratic_height := rfl
  quadratic_width := by simp
  linear_length := rfl

theorem slowEbb_strictlyConvex : slowEbb.StrictlyConvex where
  symmetric := by decide +kernel
  definite vector size nonzero := by
    obtain ⟨first, second, rfl⟩ := List.length_eq_two.mp size
    have curvature : Linear.dot [first, second] (Linear.apply slowEbb.quadratic
        [first, second]) = (first * first) / 64 + second * second := by
      simp [slowEbb]
      ring
    rw [curvature]
    have one := mul_self_nonneg first
    have two := mul_self_nonneg second
    refine lt_of_le_of_ne (by positivity) ?_
    intro flat
    have both : first * first + second * second = 0 := by linarith
    obtain ⟨here, there⟩ := mul_self_add_mul_self_eq_zero.mp both
    exact nonzero (by rw [here, there]; rfl)

/-- A session for which a multiplier above minus an eighth is no reason to go on, and which ends after
one iteration. -/
def lenientSession (problem : Problem ℚ) : Session ℚ (DenseSystems ℚ) (ProgramSource ℚ) :=
  Session.new (DenseSolver.new problem
    { plainConfig with solutionTolerance := 1 / 8, iterationLimit := 1 } none (.prepared []))

/-- The ebb is left at zero, at the solution of the last subproblem, held by the row there. A run
from zero takes in the two rows of `y`, which come first and leave no room for this one, gives up
one of them, goes with the ebb, and fails on the way. -/
theorem slowEbb_restart_fails : slowEbb.StrictlyConvex ∧ slowEbb.Feasible [0, 0] ∧
    ∃ before, (lenientSession slowEbb).solver.lastPass (denseEnvironment stoppedClock) 2
        (some (.point [0, -1])) = some before ∧
      (before.subproblem (denseEnvironment stoppedClock)).systemAnswer
        (denseEnvironment stoppedClock) = some [0, 0, -5 / 64] ∧
      ((lenientSession slowEbb).solver.solve (denseEnvironment stoppedClock) 2
          (some (.point [0, -1]))).1 =
        .ok (some ⟨.optimal, [0, 0], 0, 1, [2], [0, 0, -5 / 64, 0]⟩) ∧
      ((lenientSession slowEbb).solver.solve (denseEnvironment stoppedClock) 2
          (some (.result .optimal [0, 0]))).1 =
        .ok (some ⟨.failed, [-3, 0], -21 / 128, 1, [0, 3], [0, 0, 0, 0]⟩) := by
  have decisive : ((lenientSession slowEbb).solver.lastPass (denseEnvironment stoppedClock) 2
      (some (.point [0, -1]))).map (fun before =>
        (before.subproblem (denseEnvironment stoppedClock)).systemAnswer
          (denseEnvironment stoppedClock)) = some (some [0, 0, -5 / 64]) := by decide +kernel
  obtain ⟨before, last, solved⟩ := Option.map_eq_some_iff.mp decisive
  exact ⟨slowEbb_strictlyConvex, by constructor <;> decide +kernel, before, last, solved,
    ok_of_toOption _ _ (by decide +kernel), ok_of_toOption _ _ (by decide +kernel)⟩

end ConvexQP
