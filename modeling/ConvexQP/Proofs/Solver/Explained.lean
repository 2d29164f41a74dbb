import ConvexQP.Proofs.Solver.Course
import ConvexQP.Proofs.Solver.Infeasible
import ConvexQP.Proofs.Solver.StrictlyConvex

/-!
What the entries of a history explain. The working set after a pass is the one before, less the rows
that the pass gave up while its system could not be solved, and changed by the suggestions of the
entry. Only the entry of a pass that ends as infeasible, after others, explains nothing: its
suggestions are those of the pass before.
-/
namespace ConvexQP
namespace Solver
variable {R Systems Programs : Type} [Scalar R]
variable (environment : Environment R Systems Programs) (solver : Solver R Systems Programs)

/-! ### The rows a pass gives up -/

/-- The rows that several rounds give up, in turn. -/
def givenUpIn : Nat → Solver R Systems Programs → List Nat
  | 0, _ => []
  | rounds + 1, solver =>
    if (solver.systemAnswer environment).isNone && !solver.working.included.isEmpty then
      (MultiplierChoice.largestMagnitude solver.includedEntries).toList ++
        givenUpIn rounds ((solver.solveSubproblem environment).2.relax environment)
    else []

/-- The rows that a pass gives up before its decisive round. -/
def givenUp : List Nat :=
  givenUpIn environment (solver.working.includedCount + 1)
    { solver with blocking := none, stepLength := none }

/-- A round without an answer gives up the included row of largest multiplier. -/
theorem round_gives_up (unsolved : solver.systemAnswer environment = none)
    (some_row : solver.working.included ≠ []) :
    ∃ row ∈ solver.working.included,
      MultiplierChoice.largestMagnitude solver.includedEntries = some row ∧
      ((solver.solveSubproblem environment).2.relax environment).working =
        solver.working.erase row := by
  have nonempty : solver.includedEntries ≠ [] := by
    intro none
    have rows := includedEntries_rows solver
    rw [none] at rows
    exact some_row rows.symm
  obtain ⟨row, chosen⟩ := MultiplierChoice.largestMagnitude_isSome _ nonempty
  have member := MultiplierChoice.largestMagnitude_mem _ row chosen
  rw [includedEntries_rows] at member
  obtain ⟨notes, told⟩ := solveSubproblem_none environment solver unsolved
  have same : MultiplierChoice.largestMagnitude ({ solver with
      systems := solver.systemsAfter environment, notes } :
        Solver R Systems Programs).includedEntries = some row := chosen
  refine ⟨row, member, chosen, ?_⟩
  rw [told]
  simp only [relax, same]
  obtain ⟨spoken, traced⟩ := trace_frame ({ solver with
      systems := solver.systemsAfter environment, notes } : Solver R Systems Programs)
    (.relax row (largestMagnitude (solver.multipliersAt solver.working.included)))
  exact congrArg (fun told => (told.excludeRow environment row).working) traced

/-- Rounds take the rows they give up from the working set, each of them once. -/
theorem givenUpIn_spec (rounds : Nat) :
    (givenUpIn environment rounds solver).Nodup ∧
      (∀ row ∈ givenUpIn environment rounds solver, row ∈ solver.working.included) ∧
      ∀ row, row ∈ (narrowed environment rounds solver).working.included ↔
        row ∈ solver.working.included ∧ row ∉ givenUpIn environment rounds solver := by
  induction rounds generalizing solver with
  | zero => exact ⟨List.nodup_nil, by simp [givenUpIn], by simp [narrowed, givenUpIn]⟩
  | succ rounds ih =>
      simp only [givenUpIn, narrowed]
      split
      · rename_i again
        simp only [Bool.and_eq_true, Option.isNone_iff_eq_none, Bool.not_eq_true',
          List.isEmpty_eq_false_iff] at again
        obtain ⟨first, member, chosen, left⟩ :=
          round_gives_up environment solver again.1 again.2
        obtain ⟨distinct, inside, kept⟩ :=
          ih ((solver.solveSubproblem environment).2.relax environment)
        rw [left] at inside kept
        rw [chosen]
        simp only [Option.toList_some, List.singleton_append, List.nodup_cons, List.mem_cons]
        -- The first row is out of the set when the rest is given up.
        refine ⟨⟨fun later => ?_, distinct⟩, ?_, ?_⟩
        · exact ((WorkingSet.mem_included_erase _ _ _).mp (inside first later)).2 rfl
        · rintro row (rfl | later)
          · exact member
          · exact ((WorkingSet.mem_included_erase _ _ _).mp (inside row later)).1
        · intro row
          rw [kept row, WorkingSet.mem_included_erase, not_or, and_assoc]
      · exact ⟨List.nodup_nil, by simp, by simp⟩

theorem mem_subproblem_included (row : Nat) :
    row ∈ (solver.subproblem environment).working.included ↔
      row ∈ solver.working.included ∧ row ∉ solver.givenUp environment :=
  (givenUpIn_spec environment { solver with blocking := none, stepLength := none } _).2.2 row

/-! ### Explanations -/

/-- An entry explains a pass: from the working set before, less the rows that were given up, its
suggestions lead to its own working set. -/
structure Explains (before givenUp : List Nat) (entry : Entry R) : Prop where
  included : ∀ row, row ∈ entry.included ↔
    ((row ∈ before ∧ row ∉ givenUp) ∨ entry.toInclude = some row) ∧ entry.toExclude ≠ some row
  entering : ∀ row, entry.toInclude = some row → ¬ (row ∈ before ∧ row ∉ givenUp)
  leaving : ∀ row, entry.toExclude = some row → row ∈ before ∧ row ∉ givenUp
  single : entry.toInclude = none ∨ entry.toExclude = none
  idle : entry.toInclude = none → entry.toExclude = none →
    entry.verdict = .optimal ∨ entry.verdict = .infeasible

variable {environment solver} {entry : Entry R} {again : Bool}

/-- Every outcome but an infeasible one explains itself; that one, if nothing is suggested. -/
theorem Outcome.explains (outcome : Outcome environment solver entry again)
    (silent : entry.verdict = .infeasible → solver.toInclude = none ∧ solver.toExclude = none) :
    Explains solver.working.included (solver.givenUp environment) entry := by
  have kept := mem_subproblem_included environment solver
  have working := landing_working environment solver
  cases outcome with
  | infeasible lost verdict included toInclude toExclude =>
      obtain ⟨noneIn, noneOut⟩ := silent verdict
      rw [noneIn] at toInclude
      rw [noneOut] at toExclude
      rw [working] at included
      exact ⟨by simp [included, kept, toInclude, toExclude], by simp [toInclude],
        by simp [toExclude], Or.inl toInclude, fun _ _ => Or.inr verdict⟩
  | optimal _ verdict included toInclude toExclude =>
      rw [working] at included
      exact ⟨by simp [included, kept, toInclude, toExclude], by simp [toInclude],
        by simp [toExclude], Or.inl toInclude, fun _ _ => Or.inl verdict⟩
  | entered row blocked _ included toInclude toExclude =>
      have excluded := landing_blocking_excluded environment solver row blocked
      have absent := WorkingSet.not_mem_included_of_excluded _ row excluded
      have bound := WorkingSet.lt_size_of_excluded _ row excluded
      rw [working] at included
      refine ⟨?_, ?_, by simp [toExclude], Or.inr toExclude, by simp [toInclude]⟩
      · intro other
        rw [included, WorkingSet.mem_included_insert _ row other bound, kept, toInclude, toExclude]
        simp [eq_comm]
      · intro other same
        rw [toInclude, Option.some.injEq] at same
        rw [← kept, ← same]
        exact absent
  | left row _ dropped _ included toInclude toExclude =>
      have member := rowToExclude_mem _ row dropped
      rw [working] at included member
      refine ⟨?_, by simp [toInclude], ?_, Or.inl toInclude, by simp [toExclude]⟩
      · intro other
        rw [included, WorkingSet.mem_included_erase, kept, toInclude, toExclude]
        simp [eq_comm]
      · intro other same
        rw [toExclude, Option.some.injEq] at same
        rw [← kept, ← same]
        exact member

/-- After a pass with another one to follow, something is suggested: the row that is in, or the row
that is out. -/
theorem Outcome.suggests (outcome : Outcome environment solver entry true) :
    (∃ row, entry.toInclude = some row ∧ entry.toExclude = none) ∨
      ∃ row, entry.toInclude = none ∧ entry.toExclude = some row ∧ row ∉ entry.included := by
  cases outcome with
  | entered row _ _ _ toInclude toExclude => exact Or.inl ⟨row, toInclude, toExclude⟩
  | left row _ _ _ included toInclude toExclude =>
      refine Or.inr ⟨row, toInclude, toExclude, ?_⟩
      rw [included, WorkingSet.mem_included_erase]
      exact fun inside => inside.2 rfl

/-- A pass that ends as infeasible empties the working set and repeats the suggestions. -/
theorem Outcome.infeasible_repeats (outcome : Outcome environment solver entry again)
    (verdict : entry.verdict = .infeasible) : entry.included = [] ∧
      entry.toInclude = solver.toInclude ∧ entry.toExclude = solver.toExclude := by
  cases outcome with
  | infeasible lost _ included toInclude toExclude =>
      obtain ⟨unsolved, _⟩ := landed_infeasible environment (solver.subproblem environment) lost
      rw [landing_working] at included
      exact ⟨included.trans (subproblem_unsolved environment solver unsolved), toInclude, toExclude⟩
  | optimal _ other => simp [other] at verdict
  | entered _ _ other => simp [other] at verdict
  | left _ _ _ other => simp [other] at verdict

omit [Scalar R] in
/-- Suggestions that were followed before explain no empty working set, whatever was given up. -/
theorem not_explains_of_repeated (before rows : List Nat) (previous : Entry R)
    (suggested : (∃ row, previous.toInclude = some row ∧ previous.toExclude = none) ∨
      ∃ row, previous.toInclude = none ∧ previous.toExclude = some row ∧ row ∉ before)
    (toInclude : entry.toInclude = previous.toInclude)
    (toExclude : entry.toExclude = previous.toExclude) (empty : entry.included = []) :
    ¬ Explains before rows entry := by
  intro explains
  rcases suggested with ⟨row, entered, kept⟩ | ⟨row, _, left, absent⟩
  · have inside := (explains.included row).mpr
      ⟨Or.inr (toInclude.trans entered), by rw [toExclude, kept]; simp⟩
    rw [empty] at inside
    simp at inside
  · exact absent (explains.leaving row (toExclude.trans left)).1

/-! ### A whole run -/

variable {kick : Option (KickStart R)} {state : Solver R Systems Programs} {passes : Nat}

/-- Between two passes the suggestions are those of the last entry, and were followed. -/
theorem Course.suggested (course : Course environment solver kick (passes + 1) state) :
    ∃ previous, state.history.back? = some previous ∧
      state.toInclude = previous.toInclude ∧ state.toExclude = previous.toExclude ∧
      ((∃ row, previous.toInclude = some row ∧ previous.toExclude = none) ∨
        ∃ row, previous.toInclude = none ∧ previous.toExclude = some row ∧
          row ∉ state.working.included) := by
  cases course with
  | passed _ before _ here step =>
      obtain ⟨previous, recorded⟩ := step.recorded step.unguarded
      have suggests := (step.outcome previous recorded).2.suggests
      rw [recorded.included] at suggests
      refine ⟨previous, ?_, recorded.toInclude.symm, recorded.toExclude.symm, suggests⟩
      rw [recorded.history, Array.back?_push]

/-- Every entry of a run explains its pass, by the rows that this pass gave up, unless the pass ends
as infeasible and is not the first. Such an entry has an empty working set, repeats the suggestions
of the entry before, and explains nothing. -/
theorem history_explained (environment : Environment R Systems Programs)
    (solver : Solver R Systems Programs) (budget : Nat) (kick : Option (KickStart R))
    (result : Result R) (closed : Solver R Systems Programs)
    (answered : solver.solve environment budget kick = (.ok (some result), closed))
    (number : Nat) (entry : Entry R) (found : closed.history[number]? = some entry) :
    ∃ before after again, Course environment solver kick number before ∧
      OnePass environment before again after ∧ Recorded before after entry ∧
      (∀ row ∈ (before.overdue environment).2.givenUp environment,
        row ∈ before.working.included) ∧
      ((entry.verdict = .infeasible → number = 0) →
        Explains before.working.included ((before.overdue environment).2.givenUp environment)
          entry) ∧
      (entry.verdict = .infeasible → number ≠ 0 →
        (∀ rows, ¬ Explains before.working.included rows entry) ∧ entry.included = [] ∧
          ∃ previous, before.history.back? = some previous ∧
            entry.toInclude = previous.toInclude ∧ entry.toExclude = previous.toExclude) := by
  obtain ⟨passes, ending, ended, printed, ends, rfl, _⟩ := solve_ends budget result closed answered
  obtain ⟨before, after, again, course, step, recorded⟩ := ends.entry.2 number entry found
  obtain ⟨_, outcome⟩ := step.outcome entry recorded
  obtain ⟨clockReadings, looking⟩ := overdue_frame environment before
  refine ⟨before, after, again, course, step, recorded, ?_, ?_, ?_⟩
  · have inside := (givenUpIn_spec environment
      { (before.overdue environment).2 with blocking := none, stepLength := none }
      ((before.overdue environment).2.working.includedCount + 1)).2.1
    rw [looking] at inside ⊢
    exact inside
  · intro first
    have explains := outcome.explains (by
      intro lost
      obtain rfl := first lost
      cases course with
      | started start begun =>
          rw [looking]
          exact (started_blank true before begun).2.2)
    rw [looking] at explains ⊢
    exact explains
  · intro lost later
    obtain ⟨empty, toInclude, toExclude⟩ := outcome.infeasible_repeats lost
    obtain ⟨count, rfl⟩ := Nat.exists_eq_succ_of_ne_zero later
    obtain ⟨previous, last, repeatsIn, repeatsOut, suggested⟩ := course.suggested
    rw [looking] at toInclude toExclude
    have sameIn := toInclude.trans repeatsIn
    have sameOut := toExclude.trans repeatsOut
    exact ⟨fun rows => not_explains_of_repeated _ rows previous suggested sameIn sameOut empty,
      empty, previous, last, sameIn, sameOut⟩

end Solver

/-! ### Rows that are given up, and a suggestion that is repeated -/

/-- Half of `x² + y²` less `x`, where `x` is not positive, which is said twice. -/
def twinWalls : Problem ℚ :=
  { twinRows with
    linear := [1, 0]
    equalities := Constraints.none
    inequalities := twinRows.equalities
    linear_length := rfl }

/-- Between the walls both rows are active, and the only pass gives up the second. -/
theorem history_explained_twinWalls : ∃ result closed entry, ∃ before : DenseSolver ℚ,
    (freshSession twinWalls).solver.solve (denseEnvironment stoppedClock) 1 (some (.point [0, 0])) =
        (.ok (some result), closed) ∧ closed.history[0]? = some entry ∧
      before.working.included = [0, 1] ∧ entry.included = [0] ∧
      Solver.Explains before.working.included [1] entry := by
  let run := (freshSession twinWalls).solver.solve (denseEnvironment stoppedClock) 1
    (some (.point [0, 0]))
  let started := ((freshSession twinWalls).solver.reset (denseEnvironment stoppedClock)).findStart
    (denseEnvironment stoppedClock) (some (.point [0, 0]))
  have facts : run.1.toOption = some (some ⟨.optimal, [0, 0], 0, 1, [0], [1, 0]⟩) ∧
      (run.2.history[0]?).map (fun entry => (entry.verdict, entry.included)) =
        some (.optimal, [0]) ∧
      started.2.working.included = [0, 1] ∧
      (started.2.overdue (denseEnvironment stoppedClock)).2.givenUp
        (denseEnvironment stoppedClock) = [1] := by
    decide +kernel
  obtain ⟨ended, told, included, givenUp⟩ := facts
  obtain ⟨entry, found, same⟩ := Option.map_eq_some_iff.mp told
  rw [Prod.mk.injEq] at same
  have answered : run = (.ok (some _), run.2) := Prod.ext (ok_of_toOption run.1 _ ended) rfl
  obtain ⟨before, _, _, course, _, _, _, explains, _⟩ := Solver.history_explained
    (denseEnvironment stoppedClock) (freshSession twinWalls).solver 1 (some (.point [0, 0])) _ run.2
    answered 0 entry found
  obtain rfl : started.2 = before := by
    cases course with
    | started _ begun => exact congrArg Prod.snd begun
  have explained := explains fun _ => rfl
  rw [givenUp] at explained
  exact ⟨_, run.2, entry, started.2, answered, found, included, same.2, explained⟩

/-- The second pass ends as infeasible, with no row in the working set before or after it, and
suggests again to let go of the row that the first pass let go of. -/
theorem faintWall_repeats_suggestion : ∃ result closed first last,
    (freshSession faintWall).solver.solve (denseEnvironment stoppedClock) 3 (some (.point [0, 0])) =
        (.ok (some result), closed) ∧ closed.history.toList = [first, last] ∧
      first.included = [] ∧ first.toExclude = some 0 ∧
      last.included = [] ∧ last.toExclude = some 0 ∧ last.verdict = .infeasible ∧
      ∀ rows, ¬ Solver.Explains first.included rows last := by
  let run := (freshSession faintWall).solver.solve (denseEnvironment stoppedClock) 3
    (some (.point [0, 0]))
  have facts : run.1.toOption = some (some ⟨.infeasible, [1000000, 0], -500000000000, 1, [],
        [0, 0, 0]⟩) ∧
      run.2.history.toList.map (fun entry => (entry.included, entry.toExclude, entry.verdict)) =
        [([], some 0, .approximate), ([], some 0, .infeasible)] := by
    decide +kernel
  obtain ⟨ended, told⟩ := facts
  obtain ⟨first, last, both⟩ : ∃ first last, run.2.history.toList = [first, last] := by
    have length := congrArg List.length told
    rw [List.length_map] at length
    exact List.length_eq_two.mp length
  rw [both] at told
  simp only [List.map_cons, List.map_nil, List.cons.injEq, Prod.mk.injEq] at told
  obtain ⟨⟨emptied, left, _⟩, ⟨empty, again, lost⟩, _⟩ := told
  refine ⟨_, run.2, first, last, Prod.ext (ok_of_toOption run.1 _ ended) rfl, both, emptied, left,
    empty, again, lost, ?_⟩
  intro rows explains
  have inside := (explains.leaving 0 again).1
  rw [emptied] at inside
  simp at inside

end ConvexQP
