import ConvexQP.Proofs.Solver.Optimality

/-!
Optimal results over a strictly convex objective. A run finds a point optimal when no row is to
enter or to leave, solved or not; so it is the one minimiser on the active rows, unless no row is
active and the equality rows alone are rejected.
-/
namespace ConvexQP
open scoped Exact
variable {K : Type} [Field K] [LinearOrder K] [IsStrictOrderedRing K] [Rooted K]

section StrictlyConvex
variable {problem : Problem K} {config : Config K} {method : ProgramMethod K}
variable {session : Session K (DenseSystems K) (ProgramSource K)}

/-- The ways a run over a strictly convex objective ends as optimal. -/
inductive OptimalEnding (problem : Problem K) (config : Config K) (elapsed : Nat → K)
    (before : DenseSolver K) (result : Result K) : Prop
  /-- The system of the active set was solved; its point is the one minimiser on the active rows. -/
  | solved (entries : List K)
      (answer : (before.subproblem (denseEnvironment elapsed)).systemAnswer
        (denseEnvironment elapsed) = some entries)
      (activeSet : result.activeSet =
        (before.subproblem (denseEnvironment elapsed)).working.included)
      (tight : Linear.apply (Kkt.rows problem result.activeSet) (entries.take problem.size) =
        Kkt.bounds problem result.activeSet)
      (least : ∀ other : List K, other.length = problem.size →
        Linear.apply (Kkt.rows problem result.activeSet) other =
          Kkt.bounds problem result.activeSet →
        other ≠ entries.take problem.size →
        problem.objective (entries.take problem.size) < problem.objective other)
      (near : Near config.solutionTolerance result.point (entries.take problem.size))
  /-- No row is active, the system of the equality rows was rejected, and the point stayed. -/
  | unsolved
      (answer : (before.subproblem (denseEnvironment elapsed)).systemAnswer
        (denseEnvironment elapsed) = none)
      (rejected : (factorise config.pivotTolerance (Kkt.matrix problem [])).toOption = none)
      (activeSet : result.activeSet = [])
      (point : result.point = before.point)

/-- The equality rows depend on each other. -/
def Problem.EqualitiesDepend (problem : Problem K) : Prop :=
  ∃ weights : List K, weights.length = problem.equalities.count ∧
    weights ≠ Linear.zeros problem.equalities.count ∧
    Linear.apply (Linear.transpose problem.size problem.equalities.rows) weights =
      Linear.zeros problem.size

theorem DenseSolver.Ready.unanswered {solver : DenseSolver K}
    (ready : DenseSolver.Ready problem config solver) (elapsed : Nat → K)
    (depend : problem.EqualitiesDepend) (valid : 0 ≤ config.pivotTolerance) :
    solver.systemAnswer (denseEnvironment elapsed) = none := by
  obtain ⟨weights, counts, nonzero, dependent⟩ := depend
  rw [ready.systemAnswer_eq elapsed valid, Kkt.rejected_of_dependent problem _ _ weights
    ready.inside valid counts dependent nonzero]
  rfl

theorem pass_last {solver : DenseSolver K} {elapsed : Nat → K}
    (unsolved : (solver.subproblem (denseEnvironment elapsed)).systemAnswer
      (denseEnvironment elapsed) = none) :
    (solver.pass (denseEnvironment elapsed)).1 = false := by
  cases outcome : solver.pass (denseEnvironment elapsed) with
  | mk again next =>
      cases again with
      | false => rfl
      | true =>
          obtain ⟨row, _, _, changed⟩ := Solver.pass_again _ solver next outcome
          have fresh := Solver.subproblem_blocking (denseEnvironment elapsed) solver
          have empty := Solver.subproblem_unsolved _ solver unsolved
          unfold Solver.landing at changed
          obtain ⟨systems, verdict, landed⟩ := Solver.landed_unsolved _ _ unsolved
          rw [landed] at changed
          rcases changed with ⟨blocked, _⟩ | ⟨_, dropped, _⟩
          -- No step was made that a row could stop, and no row is left that could leave.
          · exact absurd (fresh.symm.trans blocked) (by simp)
          · have member := Solver.rowToExclude_mem _ row dropped
            simp only at member
            rw [empty] at member
            simp at member

/-- With equality rows that depend on each other the first pass is the last one: it starts where the
run does, but for the look at the clock. -/
theorem lastPass_depend {solver before : DenseSolver K} {elapsed : Nat → K}
    (ready : DenseSolver.Ready problem config solver) (depend : problem.EqualitiesDepend)
    (valid : 0 ≤ config.pivotTolerance) (budget : Nat) (kick : Option (KickStart K))
    (last : solver.lastPass (denseEnvironment elapsed) budget kick = some before) :
    ∃ start clockReadings,
      (solver.reset (denseEnvironment elapsed)).findStart (denseEnvironment elapsed) kick =
        (.ok true, start) ∧ before = { start with clockReadings } ∧
      (before.pass (denseEnvironment elapsed)).1 = false := by
  unfold Solver.lastPass at last
  split at last
  · rename_i start begun
    obtain ⟨clockReadings, looking⟩ := Solver.overdue_frame (denseEnvironment elapsed) start
    have looked := (ready.started kick begun).looked elapsed
    cases budget with
    | zero => simp [Solver.lastOfPasses] at last
    | succ budget =>
        unfold Solver.lastOfPasses at last
        split at last
        · simp at last
        · split at last
          · simp at last
          · rename_i clocked timely
            rw [timely] at looking looked
            -- No system is answered, so the first pass has no successor.
            have ends := pass_last ((looked.subproblem elapsed).unanswered elapsed depend valid)
            split at last
            · rename_i next again
              rw [again] at ends
              simp at ends
            · obtain rfl := Option.some.inj last
              exact ⟨start, clockReadings, begun, looking, ends⟩
  · simp at last

/-- Over a strictly convex objective, an optimal result solves the subproblem of its active set
unless the equality rows alone are rejected. When they depend on each other they are rejected, the
first pass of the run is its last one, and the result is the start with no row active. -/
theorem strictly_convex_optimal (reached : Session.Reached problem config method session)
    (opened : session.solver.isReleased = false) (convex : problem.StrictlyConvex)
    (valid : config.Nonnegative) (elapsed : Nat → K) (budget : Nat)
    (kick : Option (KickStart K)) (result : Result K)
    (answered : (session.solver.solve (denseEnvironment elapsed) budget kick).1 =
      .ok (some result))
    (optimal : result.verdict = .optimal) : ∃ before,
    session.solver.lastPass (denseEnvironment elapsed) budget kick = some before ∧
      OptimalEnding problem config elapsed before result ∧
      (problem.EqualitiesDepend →
        (before.subproblem (denseEnvironment elapsed)).systemAnswer (denseEnvironment elapsed) =
          none ∧
        (before.pass (denseEnvironment elapsed)).1 = false ∧ ∃ start clockReadings,
          (session.solver.reset (denseEnvironment elapsed)).findStart (denseEnvironment elapsed)
            kick = (.ok true, start) ∧ before = { start with clockReadings } ∧
          result.point = start.point ∧ result.activeSet = []) := by
  obtain ⟨before, last, ready, reason, activeSet, point, _⟩ :=
    optimal_result reached opened elapsed budget kick result answered optimal
  have fresh := Solver.subproblem_blocking (denseEnvironment elapsed) before
  have stayed := Solver.subproblem_point (denseEnvironment elapsed) before
  have given := Solver.subproblem_unsolved (denseEnvironment elapsed) before
  unfold Solver.landing at reason activeSet point
  have unsolved (none : (before.subproblem (denseEnvironment elapsed)).systemAnswer
      (denseEnvironment elapsed) = none) :
      result.activeSet = [] ∧ result.point = before.point := by
    obtain ⟨systems, verdict, landed⟩ := Solver.landed_unsolved _ _ none
    rw [landed] at activeSet point
    exact ⟨activeSet.trans (given none), point.trans stayed⟩
  refine ⟨before, last, ?_, ?_⟩
  · cases answer : (before.subproblem (denseEnvironment elapsed)).systemAnswer
        (denseEnvironment elapsed) with
    | none =>
        have rejected := ready.systemAnswer_eq elapsed valid.pivot
        rw [answer, given answer] at rejected
        exact .unsolved answer (Option.map_eq_none_iff.mp rejected.symm) (unsolved answer).1
          (unsolved answer).2
    | some entries =>
        have solution := ready.solution valid.pivot entries answer
        have free := DenseSolver.Ready.free_of_reason ready fresh reason
        have near := DenseSolver.Ready.near_of_not_blocked ready entries answer solution valid
          fresh free
        rw [← point] at near
        obtain ⟨_, _, _, _, _, landed⟩ := Solver.landed_frame _ _ entries answer
        rw [landed] at activeSet
        have included : result.activeSet =
            (before.subproblem (denseEnvironment elapsed)).working.included := activeSet
        have inside := ready.inside
        rw [← included] at solution inside
        exact .solved entries answer included solution.tight
          (fun other size active distinct =>
            solution.unique_minimiser problem _ inside convex other size active distinct) near
  · intro depend
    have rejected := ready.unanswered elapsed depend valid.pivot
    obtain ⟨start, clockReadings, begun, first, ends⟩ :=
      lastPass_depend (reached.kept.ready opened) depend valid.pivot budget kick last
    have place : before.point = start.point := by
      rw [first]
      rfl
    exact ⟨rejected, ends, start, clockReadings, begun, first, (unsolved rejected).2.trans place,
      (unsolved rejected).1⟩

end StrictlyConvex

theorem strictly_convex_optimal_halfLine : ∃ before,
    (freshSession halfLine).solver.lastPass (denseEnvironment stoppedClock) 1
        (some (.point [0])) = some before ∧
      OptimalEnding halfLine plainConfig stoppedClock before ⟨.optimal, [0], 0, 0, [0], [1]⟩ := by
  obtain ⟨before, last, ending, _⟩ := strictly_convex_optimal (freshSession_reached halfLine) rfl
    halfLine_strictlyConvex plainConfig_nonnegative stoppedClock 1 (some (.point [0]))
    ⟨.optimal, [0], 0, 0, [0], [1]⟩ (ok_of_toOption _ _ (by decide +kernel)) rfl
  exact ⟨before, last, ending⟩

/-- Half of `x² + y²` less `y`, where `x` is zero, which is said twice. -/
def twinRows : Problem ℚ where
  size := 2
  quadratic := [[1, 0], [0, 1]]
  linear := [0, 1]
  equalities := ⟨[[1, 0], [1, 0]], [0, 0], by simp, rfl⟩
  inequalities := Constraints.none
  size_pos := by decide
  quadratic_height := rfl
  quadratic_width := by simp
  linear_length := rfl

/-- A run that starts at the origin ends there as optimal, with no system solved, although the
objective is strictly convex and less at another feasible point. -/
theorem twinRows_stops_at_start :
    twinRows.StrictlyConvex ∧ twinRows.EqualitiesDepend ∧
      ((freshSession twinRows).solver.solve (denseEnvironment stoppedClock) 1
        (some (.point [0, 0]))).1.toOption = some (some ⟨.optimal, [0, 0], 0, 0, [], [0, 0]⟩) ∧
      ((freshSession twinRows).solver.lastPass (denseEnvironment stoppedClock) 1
        (some (.point [0, 0]))).map (fun before =>
          (before.subproblem (denseEnvironment stoppedClock)).systemAnswer
            (denseEnvironment stoppedClock)) = some none ∧
      twinRows.Feasible [0, 1] ∧ twinRows.objective [0, 1] < twinRows.objective [0, 0] := by
  refine ⟨⟨by decide +kernel, ?_⟩, ⟨[1, -1], rfl, by decide +kernel, by decide +kernel⟩,
    by decide +kernel, by decide +kernel, ⟨rfl, by decide +kernel, .nil⟩, by decide +kernel⟩
  intro vector size nonzero
  obtain ⟨first, second, rfl⟩ := List.length_eq_two.mp size
  have away : first ≠ 0 ∨ second ≠ 0 := by
    by_contra both
    rw [not_or, not_not, not_not] at both
    exact nonzero (by rw [both.1, both.2]; rfl)
  have square : 0 < first * first + second * second := by
    rcases away with one | other
    · exact add_pos_of_pos_of_nonneg (mul_self_pos.mpr one) (mul_self_nonneg second)
    · exact add_pos_of_nonneg_of_pos (mul_self_nonneg first) (mul_self_pos.mpr other)
  simpa [twinRows] using square

end ConvexQP
