import ConvexQP.Proofs.Solver.Exact

/-!
Which passes are counted. A pass that is followed by another one raises the count of iterations by
one, unless it ends where it started: it gave up one row, and this row stopped the step at once and
came back. So a run without such passes ends within the iteration limit, and a run goes on beyond
it only by such passes. This needs no law of arithmetic and holds for any environment.
-/
namespace ConvexQP
open scoped Exact

namespace Solver
variable {R Systems Programs : Type} [Scalar R]
variable (environment : Environment R Systems Programs) (solver : Solver R Systems Programs)

/-! ### What a landing leaves alone -/

theorem landed_keeps : (solver.landed environment).2.working = solver.working ∧
    (solver.landed environment).2.iterations = solver.iterations ∧
      (solver.landed environment).2.problem = solver.problem := by
  cases answer : solver.systemAnswer environment with
  | none =>
      obtain ⟨_, _, landed⟩ := landed_unsolved environment solver answer
      rw [landed]
      exact ⟨rfl, rfl, rfl⟩
  | some entries =>
      obtain ⟨_, _, _, _, _, landed⟩ := landed_frame environment solver entries answer
      rw [landed]
      exact ⟨rfl, rfl, rfl⟩

theorem landed_still (still : (solver.landed environment).1 = false) :
    (solver.landed environment).2.iterate = solver.iterate := by
  cases answer : solver.systemAnswer environment with
  | none =>
      obtain ⟨_, _, landed⟩ := landed_unsolved environment solver answer
      rw [landed]
  | some entries =>
      unfold landed at still ⊢
      rw [answer] at still ⊢
      simp only at still ⊢
      split
      · rfl
      · rename_i long
        rw [if_neg long] at still
        have stopped := of_decide_eq_false still
        unfold stepped
        simp only
        rw [if_neg stopped]
        rfl

theorem landing_working :
    (solver.landing environment).2.working = (solver.subproblem environment).working :=
  (landed_keeps environment _).1

theorem landing_iterations : (solver.landing environment).2.iterations = solver.iterations := by
  obtain ⟨_, _, _, _, rounds⟩ := subproblem_frame environment solver
  have kept := (landed_keeps environment (solver.subproblem environment)).2.1
  rw [rounds] at kept
  rw [landing, rounds, kept]

theorem landing_problem : (solver.landing environment).2.problem = solver.problem := by
  obtain ⟨_, _, _, _, rounds⟩ := subproblem_frame environment solver
  have kept := (landed_keeps environment (solver.subproblem environment)).2.2
  rw [rounds] at kept
  rw [landing, rounds, kept]

theorem landing_still (still : (solver.landing environment).1 = false) :
    (solver.landing environment).2.iterate = solver.iterate := by
  obtain ⟨_, _, _, _, rounds⟩ := subproblem_frame environment solver
  unfold landing at still ⊢
  rw [landed_still environment _ still, rounds]

theorem landing_blocking_excluded (row : Nat)
    (blocked : (solver.landing environment).2.blocking = some row) :
    row ∈ (solver.subproblem environment).working.excluded := by
  obtain ⟨entries, _, _, stopped, _⟩ := landed_blocking environment _
    (subproblem_blocking environment solver) row blocked
  exact stepLimit_blocking _ _ row stopped

theorem subproblem_size :
    (solver.subproblem environment).working.size = solver.working.size :=
  (narrowed_follows environment { solver with blocking := none, stepLength := none } _).rows

theorem subproblem_included (row : Nat)
    (member : row ∈ (solver.subproblem environment).working.included) :
    row ∈ solver.working.included :=
  narrowed_included environment { solver with blocking := none, stepLength := none } _ row member

/-! ### Counted passes -/

/-- A pass ends where it started: it gives up one row, which stops the step at once. -/
structure Reverts (row : Nat) : Prop where
  inside : row ∈ solver.working.included
  givenUp : ∀ other, other ∈ (solver.subproblem environment).working.included ↔
    other ∈ solver.working.included ∧ other ≠ row
  stops : (solver.landing environment).2.blocking = some row
  still : (solver.landing environment).1 = false

/-- The working set of a pass that takes a row in is the one it started with just if the pass gave
up this row and no other. -/
theorem included_entered_iff (row : Nat)
    (blocked : (solver.landing environment).2.blocking = some row) :
    ((solver.landing environment).2.entered environment row).working.included =
        solver.working.included ↔
      row ∈ solver.working.included ∧
        ∀ other, other ∈ (solver.subproblem environment).working.included ↔
          other ∈ solver.working.included ∧ other ≠ row := by
  have excluded := landing_blocking_excluded environment solver row blocked
  have absent := WorkingSet.not_mem_included_of_excluded _ row excluded
  have entered : ((solver.landing environment).2.entered environment row).working =
      (solver.subproblem environment).working.insert row := by
    rw [← landing_working]
    rfl
  have member (other : Nat) := WorkingSet.mem_included_insert _ row other
    (WorkingSet.lt_size_of_excluded _ row excluded)
  rw [entered]
  constructor
  · intro same
    rw [same] at member
    refine ⟨(member row).mpr (Or.inr rfl), fun other => ⟨?_, ?_⟩⟩
    · intro inside
      exact ⟨(member other).mpr (Or.inl inside), fun here => absent (here ▸ inside)⟩
    · rintro ⟨inside, apart⟩
      exact ((member other).mp inside).resolve_right apart
  · rintro ⟨inside, givenUp⟩
    -- Rows were only given up before the step, so the one that came back makes the set whole.
    apply WorkingSet.included_congr
    · rw [WorkingSet.size_insert, subproblem_size]
    · intro other
      rw [member other, givenUp other]
      constructor
      · rintro (kept | here)
        · exact kept.1
        · rw [here]
          exact inside
      · intro kept
        by_cases here : other = row
        · exact Or.inr here
        · exact Or.inl ⟨kept, here⟩

/-- A row that leaves for its multiplier does not come back in the same pass. -/
theorem included_left_ne (row : Nat)
    (dropped : (solver.landing environment).2.rowToExclude = some row) :
    ((solver.landing environment).2.left environment row).working.included ≠
      solver.working.included := by
  have member := rowToExclude_mem _ row dropped
  rw [landing_working] at member
  have left : ((solver.landing environment).2.left environment row).working =
      (solver.subproblem environment).working.erase row := by
    rw [← landing_working]
    rfl
  -- Until then rows are only given up, so the row was there when the pass started.
  intro same
  have kept := subproblem_included environment solver row member
  rw [← same, left, WorkingSet.mem_included_erase] at kept
  exact kept.2 rfl

theorem pass_counted_iff (next : Solver R Systems Programs)
    (passed : solver.pass environment = (true, next)) :
    (next.iterations = solver.iterations + 1 ↔ ∀ row, ¬ Reverts environment solver row) ∧
      ∀ row, Reverts environment solver row → next.iterations = solver.iterations ∧
        next.working.included = solver.working.included ∧ next.point = solver.point := by
  have count := landing_iterations environment solver
  obtain ⟨row, notes, printed, ⟨blocked, changed⟩ | ⟨free, dropped, changed⟩⟩ :=
    pass_again environment solver next passed
  -- A row entered: the count is raised unless the point and the working set are as before.
  · have same := included_entered_iff environment solver row blocked
    have reverting (other : Nat) (reverts : Reverts environment solver other) :
        (solver.landing environment).1 = false ∧
          ((solver.landing environment).2.entered environment row).working.included =
            solver.working.included := by
      obtain rfl : row = other := Option.some.inj (blocked.symm.trans reverts.stops)
      exact ⟨reverts.still, same.mpr ⟨reverts.inside, reverts.givenUp⟩⟩
    have iterations : next.iterations =
        ((solver.landing environment).2.entered environment row).countAfter
          (solver.landing environment).1 solver.working.included := by
      rw [changed]
      rfl
    have base : ((solver.landing environment).2.entered environment row).iterations =
        solver.iterations := count
    unfold countAfter at iterations
    rw [base] at iterations
    refine ⟨⟨?_, ?_⟩, ?_⟩
    · intro raised other reverts
      obtain ⟨still, included⟩ := reverting other reverts
      rw [still, included] at iterations
      simp at iterations
      omega
    · intro never
      rw [iterations, if_pos]
      rw [Bool.or_eq_true, decide_eq_true_eq]
      by_contra quiet
      rw [not_or, not_not, Bool.not_eq_true] at quiet
      obtain ⟨inside, givenUp⟩ := same.mp quiet.2
      exact never row ⟨inside, givenUp, blocked, quiet.1⟩
    · intro other reverts
      obtain ⟨still, included⟩ := reverting other reverts
      refine ⟨?_, ?_, ?_⟩
      · rw [still, included] at iterations
        simpa using iterations
      · rw [changed]
        exact included
      · have stayed := landing_still environment solver still
        rw [changed]
        exact congrArg (fun buffer : Stored R => buffer.vector.toList) stayed
  -- A row left for its multiplier: the working set is another one.
  · have moved := included_left_ne environment solver row dropped
    have iterations : next.iterations =
        ((solver.landing environment).2.left environment row).countAfter
          (solver.landing environment).1 solver.working.included := by
      rw [changed]
      rfl
    have base : ((solver.landing environment).2.left environment row).iterations =
        solver.iterations := count
    unfold countAfter at iterations
    rw [base, if_pos (by simp [moved])] at iterations
    have never (other : Nat) : ¬ Reverts environment solver other := by
      intro reverts
      have absent := free.symm.trans reverts.stops
      simp at absent
    exact ⟨⟨fun _ => never, fun _ => iterations⟩, fun other reverts => absurd reverts (never other)⟩

/-! ### A whole run -/

/-- The states between the passes of a run, with the number of passes so far and how many of them
ended where they started. -/
inductive Rounds (start : Solver R Systems Programs) :
    Nat → Nat → Solver R Systems Programs → Prop
  | start : Rounds start 0 0 start
  | counted (passes reverted : Nat) (before after : Solver R Systems Programs) :
      Rounds start passes reverted before → OnePass environment before true after →
      (∀ row, ¬ Reverts environment (before.overdue environment).2 row) →
      Rounds start (passes + 1) reverted after
  | reverted (passes reverted : Nat) (before after : Solver R Systems Programs) (row : Nat) :
      Rounds start passes reverted before → OnePass environment before true after →
      Reverts environment (before.overdue environment).2 row →
      Rounds start (passes + 1) (reverted + 1) after

theorem onePass_counted_iff (before after : Solver R Systems Programs)
    (step : OnePass environment before true after) :
    (after.iterations = before.iterations + 1 ↔
        ∀ row, ¬ Reverts environment (before.overdue environment).2 row) ∧
      ∀ row, Reverts environment (before.overdue environment).2 row →
        after.iterations = before.iterations ∧
          after.working.included = before.working.included ∧ after.point = before.point := by
  obtain ⟨clockReadings, looking⟩ := overdue_frame environment before
  have outcome := pass_counted_iff environment (before.overdue environment).2 after step.passed
  rw [looking] at outcome ⊢
  exact outcome

theorem onePass_config (before after : Solver R Systems Programs) (again : Bool)
    (step : OnePass environment before again after) : after.config = before.config := by
  have followed := (overdue_follows environment before).trans (pass_follows environment _)
  rw [step.passed] at followed
  exact followed.config

/-- Passes are counted or reverted, and the counted ones stay within the limit. -/
theorem rounds_count (start state : Solver R Systems Programs) (passes reverted : Nat)
    (rounds : Rounds environment start passes reverted state) :
    state.config = start.config ∧ state.iterations + reverted = start.iterations + passes ∧
      passes ≤ start.config.iterationLimit + reverted := by
  -- A counted pass started below the limit; a reverted one raises both sides.
  induction rounds with
  | start => exact ⟨rfl, rfl, Nat.zero_le _⟩
  | counted passes reverted before after _ step never ih =>
      have raised := (onePass_counted_iff environment before after step).1.mpr never
      have limit := step.counts
      rw [ih.1] at limit
      refine ⟨(onePass_config environment before after true step).trans ih.1, ?_, ?_⟩
      · omega
      · omega
  | reverted passes reverted before after row _ step reverts ih =>
      have same := ((onePass_counted_iff environment before after step).2 row reverts).1
      refine ⟨(onePass_config environment before after true step).trans ih.1, ?_, ?_⟩
      · omega
      · omega

theorem passes_rounds (start spent : Solver R Systems Programs) (budget passed reverted : Nat)
    (rounds : Rounds environment start passed reverted solver)
    (unfinished : passes environment budget solver = (none, spent)) :
    ∃ later, Rounds environment start (passed + budget) later spent := by
  induction budget generalizing solver passed reverted with
  | zero =>
      simp only [passes, Prod.mk.injEq, true_and] at unfinished
      rw [← unfinished]
      exact ⟨reverted, rounds⟩
  | succ budget ih =>
      unfold passes at unfinished
      split at unfinished
      · simp at unfinished
      · rename_i within
        split at unfinished
        · simp at unfinished
        · rename_i looked timely
          split at unfinished
          · rename_i next again
            have step : OnePass environment solver true next :=
              ⟨Nat.lt_of_not_le within, by rw [timely], by rw [timely]; exact again⟩
            rw [show passed + (budget + 1) = passed + 1 + budget by omega]
            by_cases never : ∀ row, ¬ Reverts environment (solver.overdue environment).2 row
            · exact ih next (passed + 1) reverted (.counted _ _ _ _ rounds step never) unfinished
            · simp only [not_forall, not_not] at never
              obtain ⟨row, reverts⟩ := never
              exact ih next (passed + 1) (reverted + 1)
                (.reverted _ _ _ _ row rounds step reverts) unfinished
          · simp at unfinished

/-- What keeps a run going. Each pass that is followed by another one is counted unless it ends
where it started, and a run outlasts its iteration limit only by passes that do. -/
theorem run_progress (budget : Nat) (kick : Option (KickStart R)) :
    (∀ before after, OnePass environment before true after →
      (after.iterations = before.iterations + 1 ↔
          ∀ row, ¬ Reverts environment (before.overdue environment).2 row) ∧
        ∀ row, Reverts environment (before.overdue environment).2 row →
          after.iterations = before.iterations ∧
            after.working.included = before.working.included ∧ after.point = before.point) ∧
    ((solver.solve environment budget kick).1 = .ok none → ∃ start spent reverted,
      (solver.reset environment).findStart environment kick = (.ok true, start) ∧
        Rounds environment start budget reverted spent ∧
        budget ≤ solver.config.iterationLimit + reverted) := by
  refine ⟨onePass_counted_iff environment, ?_⟩
  intro unfinished
  have begun := (reset_follows environment solver).trans
    (findStart_follows environment (solver.reset environment) kick)
  unfold solve at unfinished
  split at unfinished
  · simp at unfinished
  · simp at unfinished
  · rename_i start found
    rw [found] at begun
    split at unfinished
    · rename_i spent ended
      obtain ⟨reverted, rounds⟩ := passes_rounds environment start start spent budget 0 0 .start
        ended
      rw [Nat.zero_add] at rounds
      have limit := (rounds_count environment start spent budget reverted rounds).2.2
      rw [begun.config] at limit
      exact ⟨start, spent, reverted, found, rounds, limit⟩
    · simp at unfinished

end Solver

/-! ### A run without an end -/

/-- Half of `10⁷ x²` less `x`, where `x` is not positive. -/
def steepLine : Problem ℚ := line 10000000 1 1 0

/-- The row is active at the origin, and nothing was counted. -/
structure Stuck (solver : DenseSolver ℚ) : Prop where
  ready : DenseSolver.Ready steepLine plainConfig solver
  included : solver.working.included = [0]
  point : solver.point = [0]
  iterations : solver.iterations = 0

namespace Stuck
variable {solver : DenseSolver ℚ}

/-- The system with the row is rejected, so the row is given up. -/
theorem decisive (stuck : Stuck solver) :
    (solver.subproblem (denseEnvironment stoppedClock)).working.included = [] ∧
      (solver.subproblem (denseEnvironment stoppedClock)).working.excluded = [0] ∧
      (solver.subproblem (denseEnvironment stoppedClock)).systemAnswer
        (denseEnvironment stoppedClock) = some [1 / 10000000] := by
  have ready := stuck.ready.subproblem stoppedClock
  have answer := ready.systemAnswer_eq stoppedClock plainConfig_nonnegative.pivot
  have kept := Solver.subproblem_included (denseEnvironment stoppedClock) solver
  have unsolved := Solver.subproblem_unsolved (denseEnvironment stoppedClock) solver
  have size : (solver.subproblem (denseEnvironment stoppedClock)).working.size = 1 :=
    ready.sized.rows.trans ready.inequalityCount_eq
  -- The decisive round has the row or none. With the row the system has no answer.
  have distinct := WorkingSet.included_nodup
    (solver.subproblem (denseEnvironment stoppedClock)).working
  rw [stuck.included] at kept
  have only := List.eq_replicate_of_mem fun row member => List.mem_singleton.mp (kept row member)
  rw [only, List.nodup_replicate] at distinct
  have empty : (solver.subproblem (denseEnvironment stoppedClock)).working.included = [] := by
    rcases Nat.le_one_iff_eq_zero_or_eq_one.mp distinct with none | one
    · exact List.length_eq_zero_iff.mp none
    · rw [one] at only
      rw [only] at answer
      have rejected : (factorise plainConfig.pivotTolerance
          (Kkt.matrix steepLine (List.replicate 1 0))).toOption.isNone = true := by
        decide +kernel
      rw [Option.isNone_iff_eq_none.mp rejected] at answer
      exact unsolved answer
  refine ⟨empty, ?_, ?_⟩
  · rw [WorkingSet.excluded_of_empty _ empty, size]
    rfl
  · rw [answer, empty]
    decide +kernel

/-- The row stops the step to the solution without it at once. -/
theorem landing (stuck : Stuck solver) :
    (solver.landing (denseEnvironment stoppedClock)).2.blocking = some 0 ∧
      (solver.landing (denseEnvironment stoppedClock)).1 = false ∧
      (solver.landing (denseEnvironment stoppedClock)).2.verdict = .approximate := by
  have ready := stuck.ready.subproblem stoppedClock
  have fresh := Solver.subproblem_blocking (denseEnvironment stoppedClock) solver
  have point := Solver.subproblem_point (denseEnvironment stoppedClock) solver
  obtain ⟨_, excluded, answer⟩ := stuck.decisive
  rw [stuck.point] at point
  unfold Solver.landing
  generalize solver.subproblem (denseEnvironment stoppedClock) = decisive at *
  let answered := decisive.answered (denseEnvironment stoppedClock) [1 / 10000000]
  have heading : decisive.heading [1 / 10000000] = [1 / 10000000] := by
    unfold Solver.heading
    rw [point, ready.problem_eq]
    decide +kernel
  have long : answered.stands [1 / 10000000] = false := by
    change (⟨decisive.config.solutionTolerance⟩ : Tolerance ℚ).isSmall
      (Linear.norm decisive.point) (Linear.norm [1 / 10000000]) = false
    rw [point, ready.config_eq]
    decide +kernel
  have limit : (answered.stepLimit [1 / 10000000]).blocking = some 0 ∧
      (answered.stepLimit [1 / 10000000]).length = 0 := by
    change (decisive.stepLimit [1 / 10000000]).blocking = some 0 ∧
      (decisive.stepLimit [1 / 10000000]).length = 0
    unfold Solver.stepLimit Solver.candidates Solver.slackTolerance Solver.solutionTolerance
    simp only
    rw [excluded, point, ready.problem_eq, ready.config_eq]
    decide +kernel
  have still : ¬ (0 < (answered.stepLimit [1 / 10000000]).length) := by
    rw [limit.2]
    decide
  unfold Solver.landed
  rw [answer]
  simp only
  rw [heading, if_neg (by rw [long]; simp)]
  exact ⟨(Solver.stepped_blocking answered _ fresh).trans limit.1, decide_eq_false still, rfl⟩

theorem reverts (stuck : Stuck solver) :
    Solver.Reverts (denseEnvironment stoppedClock) solver 0 where
  inside := by simp [stuck.included]
  givenUp other := by simp [stuck.decisive.1, stuck.included]
  stops := stuck.landing.1
  still := stuck.landing.2.1

theorem pass (stuck : Stuck solver) : ∃ next,
    solver.pass (denseEnvironment stoppedClock) = (true, next) ∧ Stuck next := by
  obtain ⟨blocked, still, verdict⟩ := stuck.landing
  have rows : (solver.landing (denseEnvironment stoppedClock)).2.inequalityCount = 1 := by
    rw [Solver.inequalityCount, Solver.landing_problem, stuck.ready.problem_eq]
    rfl
  rcases Solver.pass_cases (denseEnvironment stoppedClock) solver with ⟨worst, _⟩ |
    ⟨infinite, _⟩ | ⟨reason, _⟩ | ⟨row, _, notes, printed, passed⟩ | ⟨row, free, _⟩
  · rw [verdict] at worst
    simp at worst
  · unfold Solver.allFinite at infinite
    rw [Exact.allFinite, Exact.allFinite] at infinite
    simp at infinite
  · rcases reason with none | ⟨free, _⟩
    · rw [rows] at none
      simp at none
    · rw [blocked] at free
      simp at free
  · refine ⟨_, passed, ?_⟩
    obtain ⟨iterations, included, point⟩ :=
      (Solver.pass_counted_iff (denseEnvironment stoppedClock) solver _ passed).2 0 stuck.reverts
    exact ⟨stuck.ready.passed passed, included.trans stuck.included, point.trans stuck.point,
      iterations.trans stuck.iterations⟩
  · rw [blocked] at free
    simp at free

theorem passes (stuck : Stuck solver) (budget : Nat) :
    (Solver.passes (denseEnvironment stoppedClock) budget solver).1 = none := by
  induction budget generalizing solver with
  | zero => rfl
  | succ budget ih =>
      obtain ⟨next, passed, later⟩ := stuck.pass
      have within : ¬ solver.config.iterationLimit ≤ solver.iterations := by
        rw [stuck.ready.config_eq, stuck.iterations]
        decide
      have untimed : solver.config.timeLimit = none := by
        rw [stuck.ready.config_eq]
        rfl
      unfold Solver.passes Solver.overdue
      rw [if_neg within, untimed]
      simp only [passed]
      exact ih later

end Stuck

theorem steepLine_start : ∃ start, ((freshSession steepLine).solver.reset
    (denseEnvironment stoppedClock)).findStart (denseEnvironment stoppedClock)
      (some (.point [0])) = (.ok true, start) ∧ Stuck start := by
  let found := ((freshSession steepLine).solver.reset
    (denseEnvironment stoppedClock)).findStart (denseEnvironment stoppedClock) (some (.point [0]))
  have accepted : found.1.toOption = some true ∧ found.2.working.included = [0] ∧
      found.2.point = [0] ∧ found.2.iterations = 0 := by
    decide +kernel
  have begun : found = (.ok true, found.2) :=
    Prod.ext (ok_of_toOption found.1 true accepted.1) rfl
  have kept := (freshSession_reached steepLine).kept
  obtain ⟨_, included, point, iterations⟩ := accepted
  exact ⟨found.2, begun, (kept.ready rfl).started _ begun, included, point, iterations⟩

theorem steepLine_unfinished (budget : Nat) :
    ((freshSession steepLine).solver.solve (denseEnvironment stoppedClock) budget
      (some (.point [0]))).1 = .ok none := by
  obtain ⟨start, begun, stuck⟩ := steepLine_start
  have unfinished := stuck.passes budget
  unfold Solver.solve
  rw [begun]
  simp only
  split
  · rfl
  · rename_i ended finished
    rw [finished] at unfinished
    simp at unfinished

/-- Of the first two thousand passes, half at least end where they started. -/
theorem run_progress_steepLine : ∃ start spent reverted,
    ((freshSession steepLine).solver.reset
        (denseEnvironment stoppedClock)).findStart (denseEnvironment stoppedClock)
          (some (.point [0])) = (.ok true, start) ∧
      Solver.Rounds (denseEnvironment stoppedClock) start 2000 reverted spent ∧
      2000 ≤ 1000 + reverted :=
  (Solver.run_progress (denseEnvironment stoppedClock) (freshSession steepLine).solver 2000
    (some (.point [0]))).2 (steepLine_unfinished 2000)

/-- Where the steep line is left for good: no pass is counted, and no budget is enough. -/
theorem steepLine_never_ends :
    (∃ start next, ((freshSession steepLine).solver.reset
        (denseEnvironment stoppedClock)).findStart (denseEnvironment stoppedClock)
          (some (.point [0])) = (.ok true, start) ∧
        Solver.OnePass (denseEnvironment stoppedClock) start true next ∧
        next.iterations = start.iterations) ∧
      ∀ budget, ((freshSession steepLine).solver.solve (denseEnvironment stoppedClock) budget
        (some (.point [0]))).1 = .ok none := by
  obtain ⟨start, begun, stuck⟩ := steepLine_start
  obtain ⟨next, passed, later⟩ := stuck.pass
  have untimed : start.overdue (denseEnvironment stoppedClock) = (none, start) := by
    unfold Solver.overdue
    rw [stuck.ready.config_eq]
    rfl
  have step : Solver.OnePass (denseEnvironment stoppedClock) start true next := by
    refine ⟨?_, ?_, ?_⟩
    · rw [stuck.ready.config_eq, stuck.iterations]
      decide
    · rw [untimed]
    · rw [untimed]
      exact passed
  exact ⟨⟨start, next, begun, step, later.iterations.trans stuck.iterations.symm⟩,
    steepLine_unfinished⟩

end ConvexQP
