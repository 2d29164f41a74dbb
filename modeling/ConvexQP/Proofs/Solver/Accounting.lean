import ConvexQP.Proofs.Scan.StepLength
import ConvexQP.Proofs.Solver.Blocking
import ConvexQP.Proofs.Solver.Course
import ConvexQP.Proofs.Solver.Infeasible

/-!
What the result and the history of a run say of its passes, in any environment: how many there were,
which of them were counted, and how far their steps went.
-/
namespace ConvexQP

/-! ### Sessions in any environment -/

/-- The sessions that requests lead to from a new solver, each request in an environment of its
own. -/
inductive Session.Arises {R Systems Programs : Type} [Scalar R] :
    Session R Systems Programs → Prop
  | fresh (problem : Problem R) (config : Config R) (systems : Systems) (programs : Programs) :
      Arises (Session.new (Solver.new problem config systems programs))
  | later (session : Session R Systems Programs) (environment : Environment R Systems Programs)
      (request : SolverRequest R) : Arises session → Arises (session.run environment request).2
  | quiet (session : Session R Systems Programs) (forget : Programs → Programs) :
      Arises session → Arises (session.quiet forget)

/-- The rows of the working set are those of the problem, also once the buffers are given back. -/
theorem Session.Arises.rows {R Systems Programs : Type} [Scalar R]
    {session : Session R Systems Programs} (arises : session.Arises) :
    session.solver.working.size = session.solver.inequalityCount := by
  induction arises with
  | fresh problem config systems programs =>
      exact (Solver.new_sized problem config systems programs).rows
  | later session environment request _ ih =>
      rcases run_follows environment session request with followed | released
      · rw [followed.rows, ih, Solver.inequalityCount, Solver.inequalityCount, followed.problem]
      · rw [released]
        exact ih
  | quiet session forget _ ih => exact ih

namespace Solver
variable {R Systems Programs : Type} [Scalar R]

/-! ### Counting the changes -/

/-- How many of several entries moved the point or changed the working set, which is given as it was
before the first of them. -/
def changes : List Nat → List (Entry R) → Nat
  | _, [] => 0
  | before, entry :: rest =>
    (if entry.moved || entry.included ≠ before then 1 else 0) + changes entry.included rest

/-- The working set after several entries. -/
def latest (before : List Nat) (entries : List (Entry R)) : List Nat :=
  (entries.getLast?.map Entry.included).getD before

omit [Scalar R] in
theorem changes_append (before : List Nat) (entries : List (Entry R)) (last : Entry R) :
    changes before (entries ++ [last]) = changes before entries +
      if last.moved || last.included ≠ latest before entries then 1 else 0 := by
  induction entries generalizing before with
  | nil => exact Nat.add_comm _ 0
  | cons entry rest ih =>
      have same : latest entry.included rest = latest before (entry :: rest) := by
        simp only [latest]
        cases rest with
        | nil => rfl
        | cons other others => rw [List.getLast?_cons_cons, List.getLast?_cons]; rfl
      rw [List.cons_append, changes, changes, ih, same, Nat.add_assoc]

omit [Scalar R] in
theorem latest_append (before : List Nat) (entries : List (Entry R)) (last : Entry R) :
    latest before (entries ++ [last]) = last.included := by
  simp [latest]

/-- The count of iterations is that of the changes, with each entry and in the end. -/
structure Tally (before : List Nat) (iterations : Nat) (entries : List (Entry R)) : Prop where
  total : iterations = changes before entries
  each : ∀ number entry, entries[number]? = some entry →
    entry.iteration = changes before (entries.take (number + 1))

namespace Tally
variable {before : List Nat} {iterations : Nat} {entries : List (Entry R)}

omit [Scalar R] in
theorem push (tally : Tally before iterations entries) (last : Entry R)
    (counts : last.iteration = iterations +
      if last.moved || last.included ≠ latest before entries then 1 else 0) :
    Tally before last.iteration (entries ++ [last]) := by
  have total : last.iteration = changes before (entries ++ [last]) := by
    rw [changes_append, ← tally.total, counts]
  refine ⟨total, ?_⟩
  intro number entry found
  rcases Nat.lt_or_ge number entries.length with earlier | later
  · rw [List.getElem?_append_left earlier] at found
    rw [List.take_append_of_le_length earlier]
    exact tally.each number entry found
  · rw [List.getElem?_append_right later, List.getElem?_singleton] at found
    split at found
    · rw [← Option.some.inj found, List.take_of_length_le, total]
      rw [List.length_append, List.length_singleton]
      omega
    · simp at found

omit [Scalar R] in
theorem total_eq_last (tally : Tally before iterations entries) :
    iterations = (entries.getLast?.map Entry.iteration).getD 0 := by
  rw [tally.total, List.getLast?_eq_getElem?]
  cases found : entries[entries.length - 1]? with
  | none =>
      have empty : entries = [] := by
        rw [List.getElem?_eq_none_iff] at found
        exact List.length_eq_zero_iff.mp (by omega)
      rw [empty]
      rfl
  | some last =>
      have bound := (List.getElem?_eq_some_iff.mp found).1
      rw [Option.map_some, Option.getD_some, tally.each _ last found, List.take_of_length_le]
      omega

end Tally

section Counts
variable {environment : Environment R Systems Programs} {solver : Solver R Systems Programs}
variable {kick : Option (KickStart R)}

theorem Recorded.tally {before after : Solver R Systems Programs} {entry : Entry R}
    {initial : List Nat} (recorded : Recorded before after entry)
    (included : before.working.included = latest initial before.history.toList)
    (tally : Tally initial before.iterations before.history.toList) :
    after.working.included = latest initial after.history.toList ∧
      Tally initial after.iterations after.history.toList := by
  have counts : entry.iteration = before.iterations +
      if entry.moved || entry.included ≠ latest initial before.history.toList then 1 else 0 := by
    rw [recorded.iteration, recorded.counts, included]
  rw [recorded.history, Array.toList_push, latest_append, ← recorded.iteration]
  exact ⟨recorded.included.symm, tally.push entry counts⟩

variable {start : Solver R Systems Programs}
variable (begun : (solver.reset environment).findStart environment kick = (.ok true, start))

include begun in
/-- A run that goes on has counted the changes so far. -/
theorem Course.tally {passes : Nat} {state : Solver R Systems Programs}
    (course : Course environment solver kick passes state) :
    state.working.included = latest start.working.included state.history.toList ∧
      Tally start.working.included state.iterations state.history.toList := by
  induction course with
  | started other found =>
      rw [begun] at found
      obtain rfl : start = other := congrArg Prod.snd found
      obtain ⟨history, iterations, _⟩ := started_blank true start begun
      rw [history, iterations]
      exact ⟨rfl, ⟨rfl, by simp⟩⟩
  | passed passes before after _ step ih =>
      obtain ⟨entry, recorded⟩ := step.recorded step.unguarded
      exact recorded.tally ih.1 ih.2

theorem Recorded.within {before after : Solver R Systems Programs} {entry : Entry R}
    (recorded : Recorded before after entry) : after.iterations ≤ before.iterations + 1 := by
  rw [recorded.counts]
  split <;> omega

/-- Every pass starts below the limit and adds one at most. -/
theorem Course.within {passes : Nat} {state : Solver R Systems Programs}
    (course : Course environment solver kick passes state) :
    state.iterations ≤ solver.config.iterationLimit := by
  induction course with
  | started start begun =>
      rw [(started_blank true start begun).2.1]
      exact Nat.zero_le _
  | passed passes before after here step ih =>
      obtain ⟨entry, recorded⟩ := step.recorded step.unguarded
      have below := step.counts
      rw [here.follows.config] at below
      exact recorded.within.trans below

/-- As long as a run goes on, no entry is that of an optimal point. -/
theorem Course.unsettled {passes : Nat} {state : Solver R Systems Programs}
    (course : Course environment solver kick passes state) (entry : Entry R)
    (member : entry ∈ state.history.toList) : entry.verdict ≠ .optimal := by
  obtain ⟨number, found⟩ := List.mem_iff_getElem?.mp member
  rw [Array.getElem?_toList] at found
  obtain ⟨before, after, _, step, recorded⟩ := course.entry.2 number entry found
  cases (step.outcome entry recorded).2 with
  | entered row blocked verdict => simp [verdict]
  | left row free dropped verdict => simp [verdict]

end Counts

/-! ### The length of a step -/

section Lengths
variable (environment : Environment R Systems Programs) (solver : Solver R Systems Programs)

theorem landing_stepLength [Scalar.Consistent R] (length : R)
    (stepped : (solver.landing environment).2.stepLength = some length) :
    0 ≤ length ∧ length ≤ 1 ∧
      (length < 1 → (solver.landing environment).2.blocking.isSome) ∧
      (solver.landing environment).2.verdict ≠ .infeasible := by
  obtain ⟨_, _, _, _, rounds⟩ := subproblem_frame environment solver
  have fresh := subproblem_blocking environment solver
  have blank : (solver.subproblem environment).stepLength = none := by rw [rounds]
  simp only [landing] at stepped ⊢
  generalize solver.subproblem environment = decisive at fresh blank stepped ⊢
  simp only [landed] at stepped ⊢
  cases answer : decisive.systemAnswer environment with
  | none =>
      simp only [answer] at stepped
      rw [blank] at stepped
      simp at stepped
  | some entries =>
      simp only [answer] at stepped ⊢
      split at stepped
      · have absent := blank.symm.trans stepped
        simp at absent
      · rename_i long
        rw [if_neg long]
        have range := RatioTest.run_length_range
          ⟨(decisive.answered environment entries).slackTolerance,
            (decisive.answered environment entries).solutionTolerance,
            Linear.norm (decisive.heading entries)⟩
          ((decisive.answered environment entries).candidates (decisive.heading entries))
        rw [stepped_blocking (decisive.answered environment entries) _ fresh]
        rw [← Option.some.inj stepped]
        exact ⟨range.1, range.2.1, range.2.2, by simp [Solver.stepped]⟩

theorem landing_rows (rows : solver.working.size = solver.inequalityCount) :
    (solver.landing environment).2.working.size =
      (solver.landing environment).2.inequalityCount := by
  rw [landing_working, subproblem_size, rows, inequalityCount, inequalityCount, landing_problem]

/-- A step that is recorded is stopped by the row that the entry takes in, or goes all the way. -/
theorem Outcome.stepLength [Scalar.Consistent R]
    (rows : solver.working.size = solver.inequalityCount) (entry : Entry R) (again : Bool)
    (outcome : Outcome environment solver entry again) (length : R)
    (stepped : (solver.landing environment).2.stepLength = some length) :
    0 ≤ length ∧ length ≤ 1 ∧ (length < 1 → entry.toInclude.isSome) := by
  obtain ⟨nonneg, bounded, stopped, possible⟩ :=
    landing_stepLength environment solver length stepped
  refine ⟨nonneg, bounded, ?_⟩
  intro short
  have blocked := stopped short
  cases outcome with
  | infeasible lost => exact absurd lost possible
  | optimal idle =>
      -- A row that stops the step is a row, so there are some.
      rcases idle with none | ⟨free, _⟩
      · obtain ⟨row, here⟩ := Option.isSome_iff_exists.mp blocked
        have excluded := landing_blocking_excluded environment solver row here
        rw [← landing_working] at excluded
        have bound := WorkingSet.lt_size_of_excluded _ row excluded
        rw [landing_rows environment solver rows, none] at bound
        exact absurd bound (Nat.not_lt_zero row)
      · rw [free] at blocked
        simp at blocked
  | entered row _ _ _ toInclude => simp [toInclude]
  | left row free =>
      rw [free] at blocked
      simp at blocked

end Lengths

/-! ### The account of a run -/

section Starts
variable (environment : Environment R Systems Programs) (solver : Solver R Systems Programs)

theorem settle_refused (start : PhaseOne.Start R) (status : ProgramStatus)
    (stopped : Solver R Systems Programs)
    (settled : solver.settle environment start status = (.ok false, stopped)) :
    stopped.verdict = .infeasible ∨ stopped.verdict = .failed := by
  cases found : start.found with
  | false =>
      obtain ⟨next, missing, verdict, _⟩ := settle_missing environment solver start status found
      rw [missing, Prod.mk.injEq] at settled
      rw [← settled.2, verdict]
      split
      · exact Or.inl rfl
      · exact Or.inr rfl
  | true =>
      simp only [settle, found, if_true] at settled
      split at settled
      · simp at settled
      · split at settled
        · simp at settled
        · obtain ⟨_, _, _, _, begun⟩ := begin_feasible environment (by assumption)
          rw [begun] at settled
          simp at settled

/-- A run without a start is infeasible or has failed. -/
theorem findStart_refused (kick : Option (KickStart R)) (stopped : Solver R Systems Programs)
    (begun : solver.findStart environment kick = (.ok false, stopped)) :
    stopped.verdict = .infeasible ∨ stopped.verdict = .failed := by
  rcases findStart_cases environment solver kick with ⟨cause, refused, ended⟩ |
    ⟨given, searches⟩ | ⟨entries, _, _, _, _, _, taken⟩
  · rw [begun] at ended
    simp at ended
  · obtain ⟨iterate, searched, _⟩ := searches.findStart_eq environment
    rw [begun] at searched
    generalize ({ solver with working := solver.working.clear, iterate } :
      Solver R Systems Programs) = cleared at searched
    cases outcome : (cleared.searched environment given).outcome with
    | error cause =>
        simp only [Solver.searched] at outcome
        simp [searchStart, outcome] at searched
    | ok start =>
        obtain ⟨notes, settled⟩ := searchStart_settle environment cleared given start outcome
        rw [settled] at searched
        exact settle_refused environment _ start _ stopped searched.symm
  · rw [begun] at taken
    simp at taken

end Starts

/-- What the result and the history of a run say of its passes. -/
structure Accounts (environment : Environment R Systems Programs)
    (solver : Solver R Systems Programs) (kick : Option (KickStart R)) (passes : Nat)
    (ending : Ending) (result : Result R) (history : List (Entry R)) : Prop where
  verdict : result.verdict = .infeasible ∨ result.verdict = .failed ∨ result.verdict = .optimal
  within : result.iterations ≤ solver.config.iterationLimit
  spent : ending = .spent →
    result.verdict = .failed ∧ result.iterations = solver.config.iterationLimit
  recorded : history.length + (if ending = .overflowed then 1 else 0) = passes
  counted : ∀ start, (solver.reset environment).findStart environment kick = (.ok true, start) →
    ∀ number entry, history[number]? = some entry →
      entry.iteration = changes start.working.included (history.take (number + 1))
  total : result.iterations = (history.getLast?.map Entry.iteration).getD 0
  optimal : result.verdict = .optimal ↔
    ∃ last, history.getLast? = some last ∧ last.verdict = .optimal
  idle : ∀ entry ∈ history, entry.verdict = .optimal →
    entry.toInclude = none ∧ entry.toExclude = none
  lengths : ∀ entry ∈ history, ∀ length, entry.stepLength = some length →
    0 ≤ length ∧ length ≤ 1 ∧ (length < 1 → entry.toInclude.isSome)

section Runs
variable {environment : Environment R Systems Programs} {solver : Solver R Systems Programs}
variable {kick : Option (KickStart R)}

theorem Course.rows {passes : Nat} {state : Solver R Systems Programs}
    (course : Course environment solver kick passes state)
    (rows : solver.working.size = solver.inequalityCount) :
    state.working.size = state.inequalityCount := by
  rw [course.follows.rows, rows, inequalityCount, inequalityCount, course.follows.problem]

/-- What each entry of a run says for itself. -/
theorem Ends.entry_facts [Scalar.Consistent R] {passes : Nat} {ending : Ending}
    {ended : Solver R Systems Programs} (ends : Ends environment solver kick passes ending ended)
    (rows : solver.working.size = solver.inequalityCount) (entry : Entry R)
    (member : entry ∈ ended.history.toList) :
    (entry.verdict = .optimal → entry.toInclude = none ∧ entry.toExclude = none) ∧
      ∀ length, entry.stepLength = some length →
        0 ≤ length ∧ length ≤ 1 ∧ (length < 1 → entry.toInclude.isSome) := by
  obtain ⟨number, found⟩ := List.mem_iff_getElem?.mp member
  rw [Array.getElem?_toList] at found
  obtain ⟨before, after, again, course, step, recorded⟩ := ends.entry.2 number entry found
  obtain ⟨stepLength, outcome⟩ := step.outcome entry recorded
  obtain ⟨clockReadings, looking⟩ := overdue_frame environment before
  have held : (before.overdue environment).2.working.size =
      (before.overdue environment).2.inequalityCount := by
    rw [looking]
    exact course.rows rows
  refine ⟨?_, ?_⟩
  · intro optimal
    cases outcome with
    | infeasible _ verdict => simp [verdict] at optimal
    | optimal _ _ _ toInclude toExclude => exact ⟨toInclude, toExclude⟩
    | entered _ _ verdict => simp [verdict] at optimal
    | left _ _ _ verdict => simp [verdict] at optimal
  · intro length stepped
    rw [stepLength] at stepped
    exact outcome.stepLength environment _ held entry again length stepped

theorem Course.total {passes : Nat} {state : Solver R Systems Programs}
    (course : Course environment solver kick passes state) :
    state.iterations = (state.history.toList.getLast?.map Entry.iteration).getD 0 := by
  obtain ⟨start, begun⟩ := course.start
  exact (course.tally begun).2.total_eq_last

/-- A run that fails after it started has the accounts of the passes it made until then. -/
theorem Course.accounts_failed [Scalar.Consistent R] {passes later : Nat} {ending : Ending}
    {state ended : Solver R Systems Programs}
    (course : Course environment solver kick passes state)
    (ends : Ends environment solver kick later ending ended)
    (rows : solver.working.size = solver.inequalityCount)
    (verdict : ended.verdict = .failed) (iterations : ended.iterations = state.iterations)
    (history : ended.history = state.history)
    (spent : ending = .spent → solver.config.iterationLimit ≤ state.iterations) :
    Accounts environment solver kick later ending ended.result ended.history.toList where
  verdict := Or.inr (Or.inl verdict)
  within := by
    simp only [Solver.result]
    rw [iterations]
    exact course.within
  spent reason := by
    simp only [Solver.result]
    rw [iterations]
    exact ⟨verdict, le_antisymm course.within (spent reason)⟩
  recorded := ends.entry.1
  counted start begun number entry found := by
    rw [history] at found ⊢
    exact (course.tally begun).2.each number entry found
  total := by
    simp only [Solver.result]
    rw [iterations, history]
    exact course.total
  optimal := by
    simp only [Solver.result]
    rw [verdict, history]
    constructor
    · intro optimal
      simp at optimal
    · rintro ⟨last, found, optimal⟩
      exact absurd optimal (course.unsettled last (List.mem_of_getLast? found))
  idle entry member := (ends.entry_facts rows entry member).1
  lengths entry member := (ends.entry_facts rows entry member).2

/-- A run that is refused a start has made no pass. -/
theorem accounts_refused (stopped : Solver R Systems Programs)
    (begun : (solver.reset environment).findStart environment kick = (.ok false, stopped)) :
    Accounts environment solver kick 0 .refused stopped.result stopped.history.toList := by
  obtain ⟨history, iterations, _⟩ := started_blank false stopped begun
  have verdict := findStart_refused environment _ kick stopped begun
  rw [history]
  refine ⟨verdict.imp_right Or.inl, ?_, by simp, by simp, ?_, iterations, ?_, by simp, by simp⟩
  · simp only [Solver.result]
    rw [iterations]
    exact Nat.zero_le _
  · intro start found
    rw [begun] at found
    simp at found
  · constructor
    · intro optimal
      have here : stopped.verdict = .optimal := optimal
      rw [here] at verdict
      simp at verdict
    · simp

/-- A run that settles agrees with the entry of its last pass. -/
theorem Course.accounts_settled [Scalar.Consistent R] {passes : Nat}
    {before ended : Solver R Systems Programs}
    (course : Course environment solver kick passes before)
    (rows : solver.working.size = solver.inequalityCount)
    (step : OnePass environment before false ended)
    (kept : ¬ Guarded environment (before.overdue environment).2) :
    Accounts environment solver kick (passes + 1) .settled ended.result
      ended.history.toList := by
  have ends : Ends environment solver kick (passes + 1) .settled ended :=
    .settled passes before ended course step kept
  obtain ⟨entry, recorded⟩ := step.recorded kept
  obtain ⟨start, begun⟩ := course.start
  have limit := step.counts
  rw [course.follows.config] at limit
  have told : ended.result.verdict = entry.verdict := recorded.verdict.symm
  have tally (start : Solver R Systems Programs)
      (begun : (solver.reset environment).findStart environment kick = (.ok true, start)) :=
    (recorded.tally (course.tally begun).1 (course.tally begun).2).2
  refine ⟨?_, recorded.within.trans limit, by simp, ends.entry.1, fun start begun =>
    (tally start begun).each, (tally start begun).total_eq_last, ?_,
    fun entry member => (ends.entry_facts rows entry member).1,
    fun entry member => (ends.entry_facts rows entry member).2⟩
  · rw [told]
    cases (step.outcome entry recorded).2 with
    | infeasible _ verdict => exact Or.inl verdict
    | optimal _ verdict => exact Or.inr (Or.inr verdict)
  · rw [told, recorded.history, Array.toList_push, List.getLast?_append, List.getLast?_singleton]
    simp

theorem Ends.accounts [Scalar.Consistent R] {passes : Nat} {ending : Ending}
    {ended : Solver R Systems Programs} (ends : Ends environment solver kick passes ending ended)
    (rows : solver.working.size = solver.inequalityCount) :
    Accounts environment solver kick passes ending ended.result ended.history.toList := by
  cases ends with
  | refused stopped begun => exact accounts_refused ended begun
  | spent passes state notes course reached =>
      rw [course.follows.config] at reached
      exact course.accounts_failed (.spent passes state notes course
        (by rw [course.follows.config]; exact reached)) rows rfl rfl rfl fun _ => reached
  | late passes clockReadings state notes course below missed =>
      exact course.accounts_failed (.late passes clockReadings state notes course below missed)
        rows rfl rfl rfl (by simp)
  | overflowed passes before ended course step guarded =>
      obtain ⟨_, verdict, history, iterations⟩ :=
        (pass_recorded environment _ false ended step.passed).1 guarded
      obtain ⟨clockReadings, looking⟩ := overdue_frame environment before
      rw [looking] at history iterations
      exact course.accounts_failed (.overflowed passes before ended course step guarded) rows
        verdict iterations history (by simp)
  | settled passes before ended course step kept => exact course.accounts_settled rows step kept

end Runs

/-- The accounts of every run that answers. Each pass but the one under the guard leaves an entry, an
entry's count is that of the entries so far that moved the point or changed the working set, and the
result agrees with the last entry: it is optimal just if this entry is. The count of iterations stays
within its limit, and is at the limit if that is why the run fails. A step goes some way between
none and all, and falls short only for a row that the pass takes in. -/
theorem run_accounts [Scalar.Consistent R] (session : Session R Systems Programs)
    (arises : session.Arises) (environment : Environment R Systems Programs) (budget : Nat)
    (kick : Option (KickStart R)) (result : Result R) (closed : Solver R Systems Programs)
    (answered : session.solver.solve environment budget kick = (.ok (some result), closed)) :
    ∃ passes ending ended printed, Ends environment session.solver kick passes ending ended ∧
      closed = { ended with printed } ∧ result = closed.result ∧
      Accounts environment session.solver kick passes ending result closed.history.toList := by
  obtain ⟨passes, ending, ended, printed, ends, rfl, rfl⟩ := solve_ends budget result closed answered
  exact ⟨passes, ending, ended, printed, ends, rfl, rfl, ends.accounts arises.rows⟩

end Solver

/-- In the valley half a step is counted, and the pass that finds the point optimal is not. -/
theorem run_accounts_valley : ∃ result closed passes ending,
    (freshSession valley).solver.solve (denseEnvironment stoppedClock) 2 (some (.point [0, 1])) =
        (.ok (some result), closed) ∧
      closed.history.toList.map (fun entry => (entry.iteration, entry.stepLength)) =
        [(1, some (1 / 2)), (1, none)] ∧
      Solver.Accounts (denseEnvironment stoppedClock) (freshSession valley).solver
        (some (.point [0, 1])) passes ending result closed.history.toList := by
  let run := (freshSession valley).solver.solve (denseEnvironment stoppedClock) 2
    (some (.point [0, 1]))
  let result : Result ℚ := ⟨.optimal, [1 / 4, 1], -19 / 16, 1, [0, 1], [1, 1 / 2]⟩
  have ended : run.1.toOption = some (some result) ∧
      run.2.history.toList.map (fun entry => (entry.iteration, entry.stepLength)) =
        [(1, some (1 / 2)), (1, none)] := by
    decide +kernel
  have answered : run = (.ok (some result), run.2) :=
    Prod.ext (ok_of_toOption run.1 (some result) ended.1) rfl
  obtain ⟨passes, ending, _, _, _, _, _, accounts⟩ := Solver.run_accounts (freshSession valley)
    (.fresh valley plainConfig _ _) (denseEnvironment stoppedClock) 2 (some (.point [0, 1]))
    result run.2 answered
  exact ⟨result, run.2, passes, ending, answered, ended.2, accounts⟩

end ConvexQP
