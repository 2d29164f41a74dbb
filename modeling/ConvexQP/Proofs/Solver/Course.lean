import ConvexQP.Proofs.Solver.Progress
import ConvexQP.Proofs.Solver.Start

/-!
The course of a run: how many passes it makes, what ends it, and what each pass leaves in the
history. A pass that the guard against infinite values ends leaves no entry; every other pass leaves
one, and the entry tells the state the pass ended in.
-/
namespace ConvexQP.Solver
variable {R Systems Programs : Type} [Scalar R]
variable (environment : Environment R Systems Programs) (solver : Solver R Systems Programs)

/-! ### What a start writes -/

theorem settle_frame (start : PhaseOne.Start R) (status : ProgramStatus) :
    ∃ iterate multipliers working verdict systems notes,
      (solver.settle environment start status).2 = { solver with
        iterate, multipliers, working, verdict, systems, notes } := by
  simp only [settle]
  split
  · split
    · exact ⟨_, _, _, _, _, _, rfl⟩
    · split
      · exact ⟨_, _, _, _, _, _, rfl⟩
      · rename_i seeded fits
        rcases seedMultipliers_frame (solver.setPoint start.point) start.multipliers with
          ⟨seeds, stored⟩ | ⟨_, cause, refused⟩
        · obtain ⟨_, _, _, _, begun⟩ := begin_feasible environment seeded
          rw [begun, ← Except.ok.inj (stored.symm.trans fits)]
          exact ⟨_, _, _, _, _, _, rfl⟩
        · rw [fits] at refused
          simp at refused
  · split
    · obtain ⟨_, begun⟩ := begin_infeasible environment solver
      rw [begun]
      exact ⟨_, _, _, _, _, _, rfl⟩
    · exact ⟨_, _, _, _, _, _, rfl⟩

theorem searchStart_frame (given : Option (List R)) :
    ∃ iterate multipliers working verdict systems programs notes,
      (solver.searchStart environment given).2 = { solver with
        iterate, multipliers, working, verdict, systems, programs, notes } := by
  cases outcome : (solver.searched environment given).outcome with
  | error cause =>
      obtain ⟨notes, told⟩ := noteAll_frame
        { solver with programs := (solver.searched environment given).programs }
        (solver.searched environment given).notes
      simp only [searched] at outcome told
      simp only [searchStart, outcome]
      rw [told]
      exact ⟨_, _, _, _, _, _, _, rfl⟩
  | ok start =>
      obtain ⟨notes, settled⟩ := searchStart_settle environment solver given start outcome
      obtain ⟨_, _, _, _, _, _, frame⟩ := settle_frame environment
        { solver with programs := (solver.searched environment given).programs, notes } start
        (solver.searched environment given).info.status
      rw [settled, frame]
      exact ⟨_, _, _, _, _, _, _, rfl⟩

/-- A start leaves the history, the count of iterations and the suggestions alone. -/
theorem findStart_frame (kick : Option (KickStart R)) (found : Bool)
    (next : Solver R Systems Programs)
    (begun : solver.findStart environment kick = (.ok found, next)) :
    ∃ iterate multipliers working verdict systems programs notes, next = { solver with
      iterate, multipliers, working, verdict, systems, programs, notes } := by
  have told : next = (solver.findStart environment kick).2 := by rw [begun]
  rw [told]
  rcases findStart_cases environment solver kick with ⟨cause, refused, ended⟩ |
    ⟨given, searches⟩ | ⟨entries, _, multipliers, working, systems, notes, taken⟩
  · rw [begun] at ended
    simp at ended
  · obtain ⟨iterate, searched, _⟩ := searches.findStart_eq environment
    obtain ⟨_, _, _, _, _, _, _, frame⟩ := searchStart_frame environment
      { solver with working := solver.working.clear, iterate } given
    rw [searched, frame]
    exact ⟨_, _, _, _, _, _, _, rfl⟩
  · rw [taken]
    exact ⟨_, _, _, _, _, _, _, rfl⟩

/-! ### The entry of a pass -/

/-- A landing leaves the history and the suggestions of the pass before alone. -/
theorem landing_frame :
    ∃ iterate multipliers working direction blocking stepLength verdict systems notes,
      (solver.landing environment).2 = { solver with
        iterate, multipliers, working, direction, blocking, stepLength, verdict, systems,
        notes } := by
  obtain ⟨multipliers, working, systems, notes, rounds⟩ := subproblem_frame environment solver
  simp only [landing]
  cases answer : (solver.subproblem environment).systemAnswer environment with
  | none =>
      obtain ⟨_, _, landed⟩ := landed_unsolved environment _ answer
      rw [landed, rounds]
      exact ⟨_, _, _, _, _, _, _, _, _, rfl⟩
  | some entries =>
      obtain ⟨_, _, _, _, _, landed⟩ := landed_frame environment _ entries answer
      rw [landed, rounds]
      exact ⟨_, _, _, _, _, _, _, _, _, rfl⟩

/-- What a pass adds to the history: an entry that tells the state after the pass. -/
structure Recorded (before after : Solver R Systems Programs) (entry : Entry R) : Prop where
  history : after.history = before.history.push entry
  counts : after.iterations = before.iterations +
    if entry.moved || entry.included ≠ before.working.included then 1 else 0
  iteration : entry.iteration = after.iterations
  objective : entry.objective = after.problem.objective after.point
  stepLength : entry.stepLength = after.stepLength
  included : entry.included = after.working.included
  toInclude : entry.toInclude = after.toInclude
  toExclude : entry.toExclude = after.toExclude
  verdict : entry.verdict = after.verdict

/-- The values a pass leads to are not finite, and the pass does not end as infeasible. -/
def Guarded : Prop :=
  (solver.landing environment).2.verdict ≠ .infeasible ∧
    (solver.landing environment).2.allFinite = false

theorem record_recorded (changed : Solver R Systems Programs) (moved : Bool)
    (history : changed.history = solver.history) (iterations : changed.iterations = solver.iterations) :
    ∃ entry, Recorded solver (changed.record moved solver.working.included) entry := by
  obtain ⟨printed, recorded⟩ := record_frame changed moved solver.working.included
  refine ⟨changed.entryOf moved solver.working.included, ?_⟩
  rw [recorded]
  refine ⟨congrArg (Array.push · _) history, ?_, rfl, rfl, rfl, rfl, rfl, rfl, rfl⟩
  simp only [counted, countAfter, entryOf, iterations]
  split
  · rfl
  · rfl

/-- A pass under the guard takes the point back and leaves no entry; any other leaves one. -/
theorem pass_recorded (again : Bool) (next : Solver R Systems Programs)
    (passed : solver.pass environment = (again, next)) :
    (Guarded environment solver → again = false ∧ next.verdict = .failed ∧
        next.history = solver.history ∧ next.iterations = solver.iterations) ∧
      (¬ Guarded environment solver → ∃ entry, Recorded solver next entry) := by
  obtain ⟨spoken, step⟩ := stepOnce_landed environment solver
  change solver.stepOnce environment = ((solver.landing environment).1,
    { (solver.landing environment).2 with notes := spoken }) at step
  obtain ⟨_, _, _, _, _, _, _, _, _, landed⟩ := landing_frame environment solver
  have history : (solver.landing environment).2.history = solver.history := by rw [landed]
  have iterations := landing_iterations environment solver
  simp only [Guarded]
  simp only [pass, step] at passed
  generalize solver.landing environment = landing at passed history iterations ⊢
  constructor
  · rintro ⟨possible, infinite⟩
    have taken : (!({ landing.2 with notes := spoken } : Solver R Systems Programs).allFinite) =
        true := by
      change (!landing.2.allFinite) = true
      rw [infinite]
      rfl
    rw [if_neg possible, if_pos taken, Prod.mk.injEq] at passed
    rw [← passed.1, ← passed.2]
    exact ⟨rfl, rfl, history, iterations⟩
  · intro free
    by_cases worst : landing.2.verdict = .infeasible
    · rw [if_pos worst, Prod.mk.injEq] at passed
      rw [← passed.2]
      exact record_recorded solver { landing.2 with notes := spoken } landing.1 history iterations
    · have finite : ¬ (!({ landing.2 with notes := spoken } :
          Solver R Systems Programs).allFinite) = true := by
        change ¬ (!landing.2.allFinite) = true
        cases known : landing.2.allFinite with
        | false => exact absurd ⟨worst, known⟩ free
        | true => simp
      rw [if_neg worst, if_neg finite, Prod.mk.injEq] at passed
      rw [← passed.2]
      rcases revise_cases environment { landing.2 with notes := spoken } with
        ⟨_, notes, revised⟩ | ⟨row, _, _, notes, revised⟩ | ⟨row, _, _, _, notes, revised⟩
      all_goals
        rw [revised]
        exact record_recorded solver _ landing.1 history iterations

/-- What a recorded pass does after its landing, told by its entry. A pass that ends as infeasible is
recorded before the working set is revised, so its entry repeats the suggestions of the pass
before. -/
inductive Outcome (entry : Entry R) : Bool → Prop
  | infeasible (lost : (solver.landing environment).2.verdict = .infeasible)
      (verdict : entry.verdict = .infeasible)
      (included : entry.included = (solver.landing environment).2.working.included)
      (toInclude : entry.toInclude = solver.toInclude)
      (toExclude : entry.toExclude = solver.toExclude) : Outcome entry false
  | optimal (idle : (solver.landing environment).2.inequalityCount = 0 ∨
        (solver.landing environment).2.blocking = none ∧
          (solver.landing environment).2.rowToExclude = none)
      (verdict : entry.verdict = .optimal)
      (included : entry.included = (solver.landing environment).2.working.included)
      (toInclude : entry.toInclude = none) (toExclude : entry.toExclude = none) :
      Outcome entry false
  | entered (row : Nat) (blocked : (solver.landing environment).2.blocking = some row)
      (verdict : entry.verdict = .approximate)
      (included : entry.included =
        ((solver.landing environment).2.working.insert row).included)
      (toInclude : entry.toInclude = some row) (toExclude : entry.toExclude = none) :
      Outcome entry true
  | left (row : Nat) (free : (solver.landing environment).2.blocking = none)
      (dropped : (solver.landing environment).2.rowToExclude = some row)
      (verdict : entry.verdict = .approximate)
      (included : entry.included =
        ((solver.landing environment).2.working.erase row).included)
      (toInclude : entry.toInclude = none) (toExclude : entry.toExclude = some row) :
      Outcome entry true

theorem recorded_outcome (again : Bool) (next : Solver R Systems Programs) (entry : Entry R)
    (passed : solver.pass environment = (again, next)) (recorded : Recorded solver next entry) :
    entry.stepLength = (solver.landing environment).2.stepLength ∧
      Outcome environment solver entry again := by
  obtain ⟨_, _, _, _, _, _, _, _, _, landed⟩ := landing_frame environment solver
  have toInclude : (solver.landing environment).2.toInclude = solver.toInclude := by rw [landed]
  have toExclude : (solver.landing environment).2.toExclude = solver.toExclude := by rw [landed]
  have history : (solver.landing environment).2.history = solver.history := by rw [landed]
  rcases pass_cases environment solver with ⟨lost, notes, printed, here⟩ | ⟨_, notes, here⟩ |
    ⟨idle, notes, printed, here⟩ | ⟨row, blocked, notes, printed, here⟩ |
    ⟨row, free, dropped, notes, printed, here⟩
  all_goals rw [passed, Prod.mk.injEq] at here
  · obtain ⟨rfl, rfl⟩ := here
    exact ⟨recorded.stepLength, .infeasible lost (recorded.verdict.trans lost) recorded.included
      (recorded.toInclude.trans toInclude) (recorded.toExclude.trans toExclude)⟩
  -- Under the guard the history is as before, but an entry was added.
  · have same : next.history = solver.history := by
      rw [here.2]
      exact history
    have sizes := congrArg Array.size (same.symm.trans recorded.history)
    rw [Array.size_push] at sizes
    omega
  · obtain ⟨rfl, rfl⟩ := here
    exact ⟨recorded.stepLength, .optimal idle recorded.verdict recorded.included
      recorded.toInclude recorded.toExclude⟩
  · obtain ⟨rfl, rfl⟩ := here
    exact ⟨recorded.stepLength, .entered row blocked recorded.verdict recorded.included
      recorded.toInclude recorded.toExclude⟩
  · obtain ⟨rfl, rfl⟩ := here
    exact ⟨recorded.stepLength, .left row free dropped recorded.verdict recorded.included
      recorded.toInclude recorded.toExclude⟩

/-! ### The course of a run -/

/-- What ends a run. -/
inductive Ending where
  /-- There is no point to start from. -/
  | refused
  /-- The count of iterations is at its limit. -/
  | spent
  /-- The time limit has passed. -/
  | late
  /-- A pass led to values that are not finite. -/
  | overflowed
  /-- A pass found the point optimal or the problem infeasible. -/
  | settled
  deriving DecidableEq

/-- The states between the passes of a run that goes on, with the count of passes so far. -/
inductive Course (kick : Option (KickStart R)) : Nat → Solver R Systems Programs → Prop
  | started (start : Solver R Systems Programs) :
      (solver.reset environment).findStart environment kick = (.ok true, start) →
      Course kick 0 start
  | passed (passes : Nat) (before after : Solver R Systems Programs) :
      Course kick passes before → OnePass environment before true after →
      Course kick (passes + 1) after

/-- How a run ends: after how many passes, why, and in which state. -/
inductive Ends (kick : Option (KickStart R)) : Nat → Ending → Solver R Systems Programs → Prop
  | refused (stopped : Solver R Systems Programs) :
      (solver.reset environment).findStart environment kick = (.ok false, stopped) →
      Ends kick 0 .refused stopped
  | spent (passes : Nat) (state : Solver R Systems Programs) (notes : Array (Note R)) :
      Course environment solver kick passes state →
      state.config.iterationLimit ≤ state.iterations →
      Ends kick passes .spent { state with verdict := .failed, notes }
  | late (passes clockReadings : Nat) (state : Solver R Systems Programs)
      (notes : Array (Note R)) :
      Course environment solver kick passes state →
      state.iterations < state.config.iterationLimit → (state.overdue environment).1 ≠ none →
      Ends kick passes .late { state with verdict := .failed, notes, clockReadings }
  | overflowed (passes : Nat) (before ended : Solver R Systems Programs) :
      Course environment solver kick passes before → OnePass environment before false ended →
      Guarded environment (before.overdue environment).2 →
      Ends kick (passes + 1) .overflowed ended
  | settled (passes : Nat) (before ended : Solver R Systems Programs) :
      Course environment solver kick passes before → OnePass environment before false ended →
      ¬ Guarded environment (before.overdue environment).2 →
      Ends kick (passes + 1) .settled ended

variable {environment solver} {kick : Option (KickStart R)}

theorem Course.boundary {passes : Nat} {state : Solver R Systems Programs}
    (course : Course environment solver kick passes state) :
    solver.Boundary environment kick true state := by
  induction course with
  | started start begun => exact .started start begun
  | passed passes before after _ step ih => exact .passed before after true ih step

/-- A run starts with an empty history and without suggestions. -/
theorem started_blank (found : Bool) (start : Solver R Systems Programs)
    (begun : (solver.reset environment).findStart environment kick = (.ok found, start)) :
    start.history = #[] ∧ start.iterations = 0 ∧ start.toInclude = none ∧
      start.toExclude = none := by
  obtain ⟨_, _, _, _, _, _, _, frame⟩ := findStart_frame environment _ kick found start begun
  rw [frame]
  exact ⟨rfl, rfl, rfl, rfl⟩

section Pass
variable {before after : Solver R Systems Programs} {again : Bool}
variable (step : OnePass environment before again after)

/-- A look at the clock is no part of what a pass records. -/
theorem recorded_overdue (entry : Entry R) :
    Recorded (before.overdue environment).2 after entry ↔ Recorded before after entry := by
  obtain ⟨clockReadings, looking⟩ := overdue_frame environment before
  rw [looking]
  constructor
  · intro recorded
    exact { recorded with }
  · intro recorded
    exact { recorded with }

include step in
theorem OnePass.recorded (kept : ¬ Guarded environment (before.overdue environment).2) :
    ∃ entry, Recorded before after entry := by
  obtain ⟨entry, recorded⟩ := (pass_recorded environment _ again after step.passed).2 kept
  exact ⟨entry, (recorded_overdue entry).mp recorded⟩

include step in
theorem OnePass.outcome (entry : Entry R) (recorded : Recorded before after entry) :
    entry.stepLength = ((before.overdue environment).2.landing environment).2.stepLength ∧
      Outcome environment (before.overdue environment).2 entry again :=
  recorded_outcome environment _ again after entry step.passed ((recorded_overdue entry).mpr recorded)

end Pass

/-- A pass that another one follows is not under the guard. -/
theorem OnePass.unguarded {before after : Solver R Systems Programs}
    (step : OnePass environment before true after) :
    ¬ Guarded environment (before.overdue environment).2 := by
  intro guarded
  have ended := ((pass_recorded environment _ true after step.passed).1 guarded).1
  simp at ended

theorem OnePass.follows {before after : Solver R Systems Programs} {again : Bool}
    (step : OnePass environment before again after) : Follows environment before after := by
  have followed := pass_follows environment (before.overdue environment).2
  rw [step.passed] at followed
  exact (overdue_follows environment before).trans followed

theorem Course.follows {passes : Nat} {state : Solver R Systems Programs}
    (course : Course environment solver kick passes state) : Follows environment solver state := by
  induction course with
  | started start begun =>
      have followed := findStart_follows environment (solver.reset environment) kick
      rw [begun] at followed
      exact (reset_follows environment solver).trans followed
  | passed passes before after _ step ih => exact ih.trans step.follows

theorem Course.start {passes : Nat} {state : Solver R Systems Programs}
    (course : Course environment solver kick passes state) :
    ∃ start, (solver.reset environment).findStart environment kick = (.ok true, start) := by
  induction course with
  | started start begun => exact ⟨start, begun⟩
  | passed passes before after _ _ ih => exact ih

/-- Passes go on until something ends the run or the budget is spent. -/
theorem Course.passes_ends {passes : Nat} {state : Solver R Systems Programs}
    (course : Course environment solver kick passes state) (budget : Nat) :
    (∃ spent, Solver.passes environment budget state = (none, spent) ∧
      Course environment solver kick (passes + budget) spent) ∨
    ∃ later ending ended, Solver.passes environment budget state = (some (), ended) ∧
      Ends environment solver kick later ending ended := by
  induction budget generalizing passes state with
  | zero => exact Or.inl ⟨state, rfl, course⟩
  | succ budget ih =>
      simp only [Solver.passes]
      by_cases spent : state.config.iterationLimit ≤ state.iterations
      · rw [if_pos spent]
        exact Or.inr ⟨passes, .spent, _, rfl, .spent passes state _ course spent⟩
      · rw [if_neg spent]
        obtain ⟨clockReadings, looking⟩ := overdue_frame environment state
        cases timely : state.overdue environment with
        | mk late looked =>
            rw [timely] at looking
            cases late with
            | some limit =>
                refine Or.inr ⟨passes, .late, _, rfl, ?_⟩
                have missed : (state.overdue environment).1 ≠ none := by
                  rw [timely]
                  simp
                simp only at looking
                rw [looking]
                exact .late passes clockReadings state _ course (Nat.lt_of_not_le spent) missed
            | none =>
                simp only
                have step (again : Bool) (next : Solver R Systems Programs)
                    (passed : looked.pass environment = (again, next)) :
                    OnePass environment state again next :=
                  ⟨Nat.lt_of_not_le spent, by rw [timely], by rw [timely]; exact passed⟩
                cases outcome : looked.pass environment with
                | mk again next =>
                    cases again with
                    | true =>
                        rw [show passes + (budget + 1) = passes + 1 + budget by omega]
                        exact ih (.passed passes state next course (step true next outcome))
                    | false =>
                        refine Or.inr ⟨passes + 1, ?_⟩
                        by_cases guarded : Guarded environment (state.overdue environment).2
                        · exact ⟨.overflowed, next, rfl,
                            .overflowed passes state next course (step false next outcome) guarded⟩
                        · exact ⟨.settled, next, rfl,
                            .settled passes state next course (step false next outcome) guarded⟩

/-- A run that answers has come to an end, and the answer is the result of its last state. -/
theorem solve_ends (budget : Nat) (result : Result R) (closed : Solver R Systems Programs)
    (answered : solver.solve environment budget kick = (.ok (some result), closed)) :
    ∃ passes ending ended printed, Ends environment solver kick passes ending ended ∧
      closed = { ended with printed } ∧ result = ended.result := by
  simp only [solve] at answered
  split at answered
  · simp at answered
  · rename_i stopped begun
    simp only [Prod.mk.injEq, Except.ok.injEq, Option.some.injEq] at answered
    exact ⟨0, .refused, stopped, stopped.printed, .refused stopped begun, answered.2.symm,
      answered.1.symm⟩
  · rename_i start begun
    rcases (Course.started start begun).passes_ends budget with
      ⟨spent, unfinished, _⟩ | ⟨passes, ending, ended, finished, ends⟩
    · rw [unfinished] at answered
      simp at answered
    · obtain ⟨printed, closing⟩ := printLine_frame ended (.closing ended.verdict ended.iterations)
      simp only [finished, closing, Prod.mk.injEq, Except.ok.injEq, Option.some.injEq] at answered
      exact ⟨passes, ending, ended, printed, ends, answered.2.symm, answered.1.symm⟩

/-- A run that starts leaves the history of one of its states between two passes, or after the last
one. -/
theorem solve_history {start : Solver R Systems Programs}
    (begun : (solver.reset environment).findStart environment kick = (.ok true, start))
    (budget : Nat) : ∃ again state, solver.Boundary environment kick again state ∧
      (solver.solve environment budget kick).2.history = state.history := by
  simp only [solve, begun]
  rcases (Course.started start begun).passes_ends budget with
    ⟨spent, unfinished, course⟩ | ⟨passes, ending, ended, finished, ends⟩
  · rw [unfinished]
    exact ⟨true, spent, course.boundary, rfl⟩
  · obtain ⟨printed, closing⟩ := printLine_frame ended (.closing ended.verdict ended.iterations)
    rw [finished]
    simp only [closing]
    cases ends with
    | refused stopped refused =>
        rw [begun] at refused
        simp at refused
    | spent passes state notes course _ => exact ⟨true, state, course.boundary, rfl⟩
    | late passes clockReadings state notes course _ _ => exact ⟨true, state, course.boundary, rfl⟩
    | overflowed passes before ended course step _ =>
        exact ⟨false, ended, .passed before ended false course.boundary step, rfl⟩
    | settled passes before ended course step _ =>
        exact ⟨false, ended, .passed before ended false course.boundary step, rfl⟩

/-! ### The entries of a run -/

/-- Every entry of a run that goes on was left by the pass of its number. -/
theorem Course.entry {passes : Nat} {state : Solver R Systems Programs}
    (course : Course environment solver kick passes state) :
    state.history.size = passes ∧ ∀ number entry, state.history[number]? = some entry →
      ∃ before after, Course environment solver kick number before ∧
        OnePass environment before true after ∧ Recorded before after entry := by
  induction course with
  | started start begun =>
      rw [(started_blank true start begun).1]
      exact ⟨rfl, by simp⟩
  | passed passes before after here step ih =>
      obtain ⟨entry, recorded⟩ := step.recorded step.unguarded
      rw [recorded.history, Array.size_push, ih.1]
      refine ⟨rfl, ?_⟩
      intro number other found
      rw [Array.getElem?_push, ih.1] at found
      split at found
      · rename_i last
        rw [← Option.some.inj found, last]
        exact ⟨before, after, here, step, recorded⟩
      · exact ih.2 number other found

/-- A run leaves one entry for each of its passes but the one under the guard. -/
theorem Ends.entry {passes : Nat} {ending : Ending} {ended : Solver R Systems Programs}
    (ends : Ends environment solver kick passes ending ended) :
    ended.history.size + (if ending = .overflowed then 1 else 0) = passes ∧
      ∀ number entry, ended.history[number]? = some entry →
        ∃ before after again, Course environment solver kick number before ∧
          OnePass environment before again after ∧ Recorded before after entry := by
  cases ends with
  | refused stopped begun =>
      rw [(started_blank false ended begun).1]
      exact ⟨rfl, by simp⟩
  | spent passes state notes course _ =>
      obtain ⟨size, entries⟩ := course.entry
      refine ⟨size, ?_⟩
      intro number entry found
      obtain ⟨before, after, here, step, recorded⟩ := entries number entry found
      exact ⟨before, after, true, here, step, recorded⟩
  | late passes clockReadings state notes course _ _ =>
      obtain ⟨size, entries⟩ := course.entry
      refine ⟨size, ?_⟩
      intro number entry found
      obtain ⟨before, after, here, step, recorded⟩ := entries number entry found
      exact ⟨before, after, true, here, step, recorded⟩
  | overflowed passes before ended course step guarded =>
      obtain ⟨size, entries⟩ := course.entry
      obtain ⟨clockReadings, looking⟩ := overdue_frame environment before
      have kept := ((pass_recorded environment _ false ended step.passed).1 guarded).2.2.1
      rw [looking] at kept
      rw [kept]
      refine ⟨congrArg (· + 1) size, ?_⟩
      intro number entry found
      obtain ⟨before, after, here, step, recorded⟩ := entries number entry found
      exact ⟨before, after, true, here, step, recorded⟩
  | settled passes before ended course step kept =>
      obtain ⟨size, entries⟩ := course.entry
      obtain ⟨entry, recorded⟩ := step.recorded kept
      rw [recorded.history, Array.size_push, size]
      refine ⟨rfl, ?_⟩
      intro number other found
      rw [Array.getElem?_push, size] at found
      split at found
      · rename_i last
        rw [← Option.some.inj found, last]
        exact ⟨before, ended, false, course, step, recorded⟩
      · obtain ⟨before, after, here, step, recorded⟩ := entries number other found
        exact ⟨before, after, true, here, step, recorded⟩

end ConvexQP.Solver
