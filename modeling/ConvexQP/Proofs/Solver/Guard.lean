import ConvexQP.Proofs.Solver.Accounting
import ConvexQP.Proofs.Solver.Finite

/-!
The guard against values that are not finite. A pass that leads to such values ends the run as
failed and puts the point back, so every result has a finite point. The multipliers stay as the pass
wrote them, and through them alone a value that is not finite gets into a result.
-/
namespace ConvexQP

/-- Until the buffers are given back they are of full length. -/
theorem Session.Arises.sized {R Systems Programs : Type} [Scalar R]
    {session : Session R Systems Programs} (arises : session.Arises)
    (opened : session.solver.isReleased = false) : session.solver.Sized := by
  induction arises with
  | fresh problem config systems programs => exact Solver.new_sized problem config systems programs
  | later session environment request _ ih =>
      rcases run_follows environment session request with followed | released
      · exact (ih (followed.iterate.closed.symm.trans opened)).follows followed
      · rw [released, session.solver.isReleased_release] at opened
        cases opened
  | quiet session forget _ ih =>
      have sized := ih opened
      exact ⟨sized.iterate, sized.multipliers, sized.point_length, sized.multipliers_length,
        sized.rows⟩

namespace Solver
variable {R Systems Programs : Type} [Scalar R] {environment : Environment R Systems Programs}

/-! ### The multipliers of a result -/

/-- Beside zeros a result holds the multipliers of the active rows. -/
theorem Sized.allFinite_multipliers {solver : Solver R Systems Programs} (sized : solver.Sized)
    (zero : finite (0 : R) = true) :
    Linear.allFinite solver.result.multipliers = Linear.allFinite solver.activeMultipliers := by
  have length := sized.length_inequalityMultipliers
  rw [Bool.eq_iff_iff, Linear.allFinite_iff, Linear.allFinite_iff]
  simp only [result, activeMultipliers, multipliersAt, List.forall_mem_append, List.forall_mem_map]
  apply and_congr_right
  intro _
  constructor
  · intro rows row member
    have bound : row < solver.inequalityMultipliers.length := length ▸ sized.inside row member
    have found := List.getElem?_eq_getElem bound
    have here := rows (solver.inequalityMultipliers[row], row)
      (List.mk_mem_zipIdx_iff_getElem?.mpr found)
    rw [if_pos ((WorkingSet.contains_iff _ _).mpr member)] at here
    rw [List.getD_eq_getElem?_getD, found]
    exact here
  · intro rows pair member
    split
    · rename_i inside
      have here := rows pair.2 ((WorkingSet.contains_iff _ _).mp inside)
      have found := List.mk_mem_zipIdx_iff_getElem?.mp member
      rw [List.getD_eq_getElem?_getD, found] at here
      exact here
    · exact zero

theorem FiniteValues.result_multipliers {solver : Solver R Systems Programs}
    (values : solver.FiniteValues) (zero : finite (0 : R) = true) :
    Linear.allFinite solver.result.multipliers = true := by
  rw [Linear.allFinite_iff]
  simp only [result, List.forall_mem_append, List.forall_mem_map]
  constructor
  · intro value member
    exact values.multipliers value (List.mem_of_mem_take member)
  · intro pair member
    split
    · have found := List.mem_of_getElem? (List.mk_mem_zipIdx_iff_getElem?.mp member)
      exact values.multipliers pair.1 (List.mem_of_mem_drop found)
    · exact zero

/-! ### One pass -/

section Pass
variable {solver : Solver R Systems Programs}

theorem Sized.landing (sized : solver.Sized) (environment : Environment R Systems Programs) :
    (solver.landing environment).2.Sized := by
  obtain ⟨notes, step⟩ := stepOnce_landed environment solver
  have followed := stepOnce_follows environment solver
  rw [step] at followed
  have there := sized.follows followed
  exact ⟨there.iterate, there.multipliers, there.point_length, there.multipliers_length, there.rows⟩

variable (zero : finite (0 : R) = true) (values : solver.FiniteValues)

include zero values

theorem FiniteValues.narrowed (rounds : Nat) :
    (narrowed environment rounds solver).FiniteValues := by
  induction rounds generalizing solver with
  | zero => exact values
  | succ rounds ih =>
      unfold Solver.narrowed
      split
      · rename_i again
        simp only [Bool.and_eq_true, Option.isNone_iff_eq_none, Bool.not_eq_true',
          List.isEmpty_eq_false_iff] at again
        obtain ⟨row, _, notes, relaxed⟩ := round_frame environment solver again.1 again.2
        have asked : FiniteValues { solver with systems := solver.systemsAfter environment } :=
          values.same rfl rfl rfl rfl
        apply ih
        rw [relaxed]
        exact (asked.excludeRow environment zero row).same rfl rfl rfl rfl
      · exact values

/-- A pass that ends as infeasible wrote no answer, so it is never one the guard would stop. -/
theorem FiniteValues.guarded_iff :
    Guarded environment solver ↔ (solver.landing environment).2.allFinite = false := by
  refine ⟨And.right, fun infinite => ⟨?_, infinite⟩⟩
  intro lost
  have unsolved := (landed_infeasible environment _ lost).1
  obtain ⟨systems, verdict, landed⟩ := landed_unsolved environment _ unsolved
  have begun : FiniteValues { solver with blocking := none, stepLength := none } :=
    values.same rfl rfl rfl rfl
  have kept : (solver.landing environment).2.FiniteValues := by
    rw [landing, landed]
    exact (begun.narrowed zero _).same rfl rfl rfl rfl
  rw [kept.allFinite] at infinite
  cases infinite

/-- A pass that leads to finite values keeps them. -/
theorem FiniteValues.pass (again : Bool) (next : Solver R Systems Programs)
    (passed : solver.pass environment = (again, next))
    (reached : (solver.landing environment).2.allFinite = true) : next.FiniteValues := by
  have landed := FiniteValues.of_allFinite (values.sized.landing environment) reached
  rcases pass_cases environment solver with ⟨_, notes, printed, here⟩ | ⟨infinite, _⟩ |
    ⟨_, notes, printed, here⟩ | ⟨row, _, notes, printed, here⟩ | ⟨row, _, _, notes, printed, here⟩
  · rw [passed, Prod.mk.injEq] at here
    rw [here.2]
    exact landed.same rfl rfl rfl rfl
  · rw [reached] at infinite
    cases infinite
  · rw [passed, Prod.mk.injEq] at here
    rw [here.2]
    exact landed.same rfl rfl rfl rfl
  · rw [passed, Prod.mk.injEq] at here
    rw [here.2]
    exact landed.same rfl (WorkingSet.size_insert _ row) rfl rfl
  · rw [passed, Prod.mk.injEq] at here
    rw [here.2]
    exact (landed.excludeRow environment zero row).same rfl rfl rfl rfl

end Pass

/-- What a result tells of a pass that led to values that are not finite: the run failed, and the
point is the one the pass started at. Working set and multipliers are those the pass led to. -/
structure TakenBack (environment : Environment R Systems Programs)
    (before : Solver R Systems Programs) (result : Result R) : Prop where
  infinite : (before.landing environment).2.allFinite = false
  verdict : result.verdict = .failed
  point : result.point = before.point
  iterations : result.iterations = before.iterations
  activeSet : result.activeSet = (before.landing environment).2.working.included
  multipliers : result.multipliers = (before.landing environment).2.result.multipliers
  finite_iff : Linear.allFinite result.multipliers = true ↔
    Linear.allFinite (before.landing environment).2.activeMultipliers = true

/-- A pass that leads to values that are not finite is the last one. -/
theorem FiniteValues.taken_back {solver : Solver R Systems Programs}
    (zero : finite (0 : R) = true) (values : solver.FiniteValues) (again : Bool)
    (next : Solver R Systems Programs) (passed : solver.pass environment = (again, next))
    (infinite : (solver.landing environment).2.allFinite = false) :
    again = false ∧ TakenBack environment solver next.result := by
  have sized := values.sized.landing environment
  have guarded : Guarded environment solver := (values.guarded_iff zero).mpr infinite
  obtain ⟨ended, failed, _, iterations⟩ :=
    (pass_recorded environment solver again next passed).1 guarded
  refine ⟨ended, ?_⟩
  rcases pass_cases environment solver with ⟨lost, _⟩ | ⟨_, notes, here⟩ |
    ⟨_, notes, printed, here⟩ | ⟨row, _, notes, printed, here⟩ | ⟨row, _, _, notes, printed, here⟩
  · exact absurd lost guarded.1
  · rw [passed, Prod.mk.injEq] at here
    have size : solver.point.length = (solver.landing environment).2.problem.size := by
      rw [landing_problem, values.sized.length_point]
    have multipliers : next.result.multipliers =
        (solver.landing environment).2.result.multipliers := by
      rw [here.2]
      rfl
    have point : next.point = solver.point := by
      rw [here.2]
      exact sized.point_setPoint solver.point size
    have activeSet : next.working.included =
        (solver.landing environment).2.working.included := by
      rw [here.2]
      rfl
    refine ⟨infinite, failed, point, iterations, activeSet, multipliers, ?_⟩
    rw [multipliers, sized.allFinite_multipliers zero]
  -- Any other pass that ends the run leaves another verdict, or does not end it.
  · rw [passed, Prod.mk.injEq] at here
    rw [here.2] at failed
    simp [counted, optimal] at failed
  · rw [passed, Prod.mk.injEq, ended] at here
    simp at here
  · rw [passed, Prod.mk.injEq, ended] at here
    simp at here

/-! ### A run goes one way -/

section Course
variable {solver : Solver R Systems Programs} {kick : Option (KickStart R)}

theorem OnePass.unique {before after other : Solver R Systems Programs} {again more : Bool}
    (step : OnePass environment before again after)
    (also : OnePass environment before more other) : again = more ∧ after = other :=
  Prod.mk.inj (step.passed.symm.trans also.passed)

theorem Course.unique {passes : Nat} {state other : Solver R Systems Programs}
    (course : Course environment solver kick passes state)
    (also : Course environment solver kick passes other) : state = other := by
  induction course generalizing other with
  | started start begun =>
      cases also with
      | started _ again => exact (Prod.mk.inj (begun.symm.trans again)).2
  | passed passes before after _ step ih =>
      cases also with
      | passed _ middle _ earlier more =>
          obtain rfl := ih earlier
          exact (step.unique more).2

theorem Course.earlier {passes count : Nat} {state : Solver R Systems Programs}
    (course : Course environment solver kick passes state) (fewer : count < passes) :
    ∃ before after, Course environment solver kick count before ∧
      OnePass environment before true after := by
  induction course with
  | started => omega
  | passed passes before after here step ih =>
      by_cases last : count = passes
      · exact ⟨before, after, last ▸ here, step⟩
      · exact ih (by omega)

/-- Of two states no pass goes on from, a run comes to one at most. -/
theorem Course.last {passes count : Nat} {state other : Solver R Systems Programs}
    (course : Course environment solver kick passes state)
    (ends : ∀ next, ¬ OnePass environment state true next)
    (also : Course environment solver kick count other)
    (stays : ∀ next, ¬ OnePass environment other true next) : state = other := by
  rcases Nat.lt_trichotomy passes count with fewer | rfl | more
  · obtain ⟨before, after, here, step⟩ := also.earlier fewer
    exact absurd (course.unique here ▸ step) (ends after)
  · exact course.unique also
  · obtain ⟨before, after, here, step⟩ := course.earlier more
    exact absurd (also.unique here ▸ step) (stays after)

/-- A pass that no other one follows is what ends the run. -/
theorem Ends.of_last {passes count : Nat} {ending : Ending}
    {before after ended : Solver R Systems Programs}
    (ends : Ends environment solver kick passes ending ended)
    (course : Course environment solver kick count before)
    (step : OnePass environment before false after) : ended = after := by
  have stays (next : Solver R Systems Programs) : ¬ OnePass environment before true next :=
    fun more => Bool.false_ne_true (step.unique more).1
  cases ends with
  | refused stopped begun =>
      obtain ⟨start, found⟩ := course.start
      rw [begun] at found
      cases found
  | spent passes state notes here limit =>
      obtain rfl := here.last (fun _ more => Nat.not_lt.mpr limit more.counts) course stays
      exact absurd step.counts (Nat.not_lt.mpr limit)
  | late passes clockReadings state notes here _ late =>
      obtain rfl := here.last (fun _ more => late more.timely) course stays
      exact absurd step.timely late
  | overflowed passes earlier _ here last _ =>
      obtain rfl := here.last (fun _ more => Bool.false_ne_true (last.unique more).1) course stays
      exact (last.unique step).2
  | settled passes earlier _ here last _ =>
      obtain rfl := here.last (fun _ more => Bool.false_ne_true (last.unique more).1) course stays
      exact (last.unique step).2

end Course

/-! ### Whole runs -/

/-- A pass of a run starts from the state. -/
def PassesFrom (environment : Environment R Systems Programs) (solver : Solver R Systems Programs)
    (kick : Option (KickStart R)) (before : Solver R Systems Programs) : Prop :=
  ∃ count state again after, Course environment solver kick count state ∧
    OnePass environment state again after ∧ before = (state.overdue environment).2

section Run
variable {solver : Solver R Systems Programs} {kick : Option (KickStart R)}
variable (zero : finite (0 : R) = true)
variable (moderate : ∀ programs program, (environment.solveProgram programs program).1.Moderate)
variable (sized : solver.Sized)

theorem FiniteValues.overdue {state : Solver R Systems Programs} (values : state.FiniteValues)
    (environment : Environment R Systems Programs) :
    (state.overdue environment).2.FiniteValues := by
  obtain ⟨clockReadings, looking⟩ := overdue_frame environment state
  rw [looking]
  exact values.same rfl rfl rfl rfl

include zero moderate sized

/-- As long as a run goes on its values are finite. -/
theorem Course.finite {passes : Nat} {state : Solver R Systems Programs}
    (course : Course environment solver kick passes state) : state.FiniteValues := by
  induction course with
  | started start begun =>
      have found := (sized.finite_reset environment zero).findStart environment zero moderate kick
      rw [begun] at found
      exact found
  | passed passes before after _ step ih =>
      have here := ih.overdue environment
      cases reached : ((before.overdue environment).2.landing environment).2.allFinite with
      | true => exact here.pass zero true after step.passed reached
      | false =>
          have ended := (here.taken_back zero true after step.passed reached).1
          cases ended

/-- A run ends with finite values, unless its last pass led to others. -/
theorem Ends.finite {passes : Nat} {ending : Ending} {ended : Solver R Systems Programs}
    (ends : Ends environment solver kick passes ending ended) :
    ended.FiniteValues ∨ ∃ count before, Course environment solver kick count before ∧
      OnePass environment before false ended ∧
      ((before.overdue environment).2.landing environment).2.allFinite = false := by
  cases ends with
  | refused stopped begun =>
      have found := (sized.finite_reset environment zero).findStart environment zero moderate kick
      rw [begun] at found
      exact Or.inl found
  | spent passes state notes course _ =>
      exact Or.inl ((course.finite zero moderate sized).same rfl rfl rfl rfl)
  | late passes clockReadings state notes course _ _ =>
      exact Or.inl ((course.finite zero moderate sized).same rfl rfl rfl rfl)
  | overflowed passes before _ course step guarded =>
      exact Or.inr ⟨passes, before, course, step, guarded.2⟩
  | settled passes before _ course step _ =>
      have here := (course.finite zero moderate sized).overdue environment
      cases reached : ((before.overdue environment).2.landing environment).2.allFinite with
      | true => exact Or.inl (here.pass zero false ended step.passed reached)
      | false => exact Or.inr ⟨passes, before, course, step, reached⟩

end Run

/-- The point of every result is finite. So are its multipliers, as every pass of the run led to
finite values; or the last pass did not, and then the point alone was put back. -/
theorem solve_finite (zero : finite (0 : R) = true) (session : Session R Systems Programs)
    (arises : session.Arises) (opened : session.solver.isReleased = false)
    (environment : Environment R Systems Programs)
    (moderate : ∀ programs program, (environment.solveProgram programs program).1.Moderate)
    (budget : Nat) (kick : Option (KickStart R)) (result : Result R)
    (closed : Solver R Systems Programs)
    (answered : session.solver.solve environment budget kick = (.ok (some result), closed)) :
    Linear.allFinite result.point = true ∧
      ((Linear.allFinite result.multipliers = true ∧
          ∀ before, PassesFrom environment session.solver kick before →
            (before.landing environment).2.allFinite = true) ∨
        ∃ before, PassesFrom environment session.solver kick before ∧
          TakenBack environment before result) := by
  have sized := arises.sized opened
  obtain ⟨passes, ending, ended, printed, ends, _, rfl⟩ := solve_ends budget result closed answered
  by_cases every : ∀ before, PassesFrom environment session.solver kick before →
      (before.landing environment).2.allFinite = true
  · rcases ends.finite zero moderate sized with values | ⟨count, before, course, step, infinite⟩
    · exact ⟨(Linear.allFinite_iff _).mpr values.point,
        Or.inl ⟨values.result_multipliers zero, every⟩⟩
    · have reached := every _ ⟨count, before, false, ended, course, step, rfl⟩
      rw [infinite] at reached
      cases reached
  · simp only [not_forall, Bool.not_eq_true] at every
    obtain ⟨before, ⟨count, state, again, after, course, step, rfl⟩, infinite⟩ := every
    have here := (course.finite zero moderate sized).overdue environment
    obtain ⟨rfl, taken⟩ := here.taken_back zero again after step.passed infinite
    obtain rfl := ends.of_last course step
    refine ⟨?_, Or.inr ⟨_, ⟨count, state, false, ended, course, step, rfl⟩, taken⟩⟩
    rw [taken.point, Linear.allFinite_iff]
    exact here.point

end Solver

/-! ### A run in floating point -/

/-- Half of the square of the variable less the variable, which an equality pins to zero. -/
def pinnedLine : Problem Float where
  size := 1
  quadratic := [[1]]
  linear := [1]
  equalities := ⟨[[1]], [0], fun _ only => List.mem_singleton.mp only ▸ rfl, rfl⟩
  inequalities := Constraints.none
  size_pos := Nat.one_pos
  quadratic_height := rfl
  quadratic_width _ only := List.mem_singleton.mp only ▸ rfl
  linear_length := rfl

def floatConfig : Config Float where
  slackTolerance := 1e-8
  solutionTolerance := 1e-10
  pivotTolerance := 1e-12
  iterationLimit := 1000
  timeLimit := none
  tracing := false
  table := false
  capacities := plainConfig.capacities
  allocator := .heap
  programTimeLimit := none
  programTolerance := 1e-9
  programPresolve := true

/-- A solver whose systems are solved, but come back with infinite entries. -/
def overflowingSolver : DenseSolver Float :=
  DenseSolver.new pinnedLine floatConfig (some ⟨.overwrite (1 / 0), none⟩) (.prepared [])

/-- Every programme has its optimum at the origin. -/
def originEnvironment : Environment Float (DenseSystems Float) (ProgramSource Float) :=
  { denseEnvironment fun _ => 0 with
    solveProgram := fun programs program =>
      (⟨0, some (Linear.zeros program.cost.length), none, ""⟩, programs) }

theorem originEnvironment_moderate (programs : ProgramSource Float)
    (program : LinearProgram Float) :
    (originEnvironment.solveProgram programs program).1.Moderate := by
  apply ProgramAnswer.moderate_of_nonneg
  · intro _
    refine ⟨_, rfl, ?_⟩
    intro entry member
    rw [List.eq_of_mem_replicate member]
    decide +kernel
  · intro _ reduced told
    cases told

theorem answered_of_toOption {Answer State : Type} (run : Except Error Answer × State)
    (answer : Answer) (found : run.1.toOption = some answer) : run = (.ok answer, run.2) :=
  Prod.ext (ok_of_toOption run.1 answer found) rfl

theorem solve_finite_pinnedLine : ∃ result closed before,
    overflowingSolver.solve originEnvironment 1 none = (.ok (some result), closed) ∧
      Linear.allFinite result.point = true ∧
      Solver.TakenBack originEnvironment before result := by
  let run := overflowingSolver.solve originEnvironment 1 none
  let result : Result Float := ⟨.failed, [0], 0, 0, [], [1 / 0]⟩
  have ended : run.1.toOption = some (some result) := by decide +kernel
  have answered := answered_of_toOption run (some result) ended
  obtain ⟨point, ⟨multipliers, _⟩ | ⟨before, _, taken⟩⟩ :=
    Solver.solve_finite (by decide +kernel) (Session.new overflowingSolver) (.fresh _ _ _ _) rfl
      originEnvironment originEnvironment_moderate 1 none result run.2 answered
  · have infinite : Linear.allFinite result.multipliers = false := by decide +kernel
    rw [infinite] at multipliers
    cases multipliers
  · exact ⟨result, run.2, before, answered, point, taken⟩

/-- The run starts with a multiplier of zero, and its result has an infinite one. -/
theorem pinnedLine_keeps_infinite : ∃ start result closed,
    (overflowingSolver.reset (denseEnvironment fun _ => 0)).findStart (denseEnvironment fun _ => 0)
        (some (.point [0])) = (.ok true, start) ∧ start.multiplierList = [0] ∧
      overflowingSolver.solve (denseEnvironment fun _ => 0) 1 (some (.point [0])) =
        (.ok (some result), closed) ∧ result.verdict = .failed ∧ result.point = [0] ∧
      result.multipliers = [1 / 0] ∧ Linear.allFinite result.multipliers = false := by
  let begun := (overflowingSolver.reset (denseEnvironment fun _ => 0)).findStart
    (denseEnvironment fun _ => 0) (some (.point [0]))
  let run := overflowingSolver.solve (denseEnvironment fun _ => 0) 1 (some (.point [0]))
  have facts : begun.1.toOption = some true ∧ begun.2.multiplierList = [0] ∧
      run.1.toOption = some (some ⟨.failed, [0], 0, 0, [], [1 / 0]⟩) ∧
      Linear.allFinite [(1 / 0 : Float)] = false := by
    decide +kernel
  obtain ⟨found, zero, ended, infinite⟩ := facts
  exact ⟨begun.2, _, run.2, answered_of_toOption begun true found, zero,
    answered_of_toOption run _ ended, rfl, rfl, rfl, infinite⟩

end ConvexQP
