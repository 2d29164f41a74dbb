import ConvexQP.Proofs.Solver.Subproblem

/-!
Passes and runs. A run starts, and passes follow each other until one of them ends it; its states
between the passes are told by `Boundary`, and the state in which the pass that ends the run starts
by `lastPass`.
-/
namespace ConvexQP.Solver
variable {R Systems Programs : Type} [Scalar R]
variable (environment : Environment R Systems Programs)

/-! ### One pass -/

/-- Where a pass lands before the working set is revised, and whether the point moved. -/
def landing (solver : Solver R Systems Programs) : Bool × Solver R Systems Programs :=
  (solver.subproblem environment).landed environment

variable (solver : Solver R Systems Programs)

theorem pass_cases :
    ((solver.landing environment).2.verdict = .infeasible ∧ ∃ notes printed,
      solver.pass environment = (false,
        { (solver.landing environment).2.counted (solver.landing environment).1
            solver.working.included with notes, printed })) ∨
    ((solver.landing environment).2.allFinite = false ∧ ∃ notes,
      solver.pass environment = (false,
        { (solver.landing environment).2.setPoint solver.point with verdict := .failed, notes })) ∨
    (((solver.landing environment).2.inequalityCount = 0 ∨
        (solver.landing environment).2.blocking = none ∧
          (solver.landing environment).2.rowToExclude = none) ∧ ∃ notes printed,
      solver.pass environment = (false,
        { (solver.landing environment).2.optimal.counted (solver.landing environment).1
            solver.working.included with notes, printed })) ∨
    (∃ row, (solver.landing environment).2.blocking = some row ∧ ∃ notes printed,
      solver.pass environment = (true,
        { ((solver.landing environment).2.entered environment row).counted
            (solver.landing environment).1 solver.working.included with notes, printed })) ∨
    (∃ row, (solver.landing environment).2.blocking = none ∧
      (solver.landing environment).2.rowToExclude = some row ∧ ∃ notes printed,
      solver.pass environment = (true,
        { ((solver.landing environment).2.left environment row).counted
            (solver.landing environment).1 solver.working.included with notes, printed })) := by
  obtain ⟨spoken, step⟩ := stepOnce_landed environment solver
  -- Notes are all that a step adds to the landing.
  change solver.stepOnce environment = ((solver.landing environment).1,
    { (solver.landing environment).2 with notes := spoken }) at step
  generalize solver.landing environment = landing at step ⊢
  unfold pass
  simp only [step]
  by_cases worst : landing.2.verdict = .infeasible
  · obtain ⟨printed, recorded⟩ := record_frame { landing.2 with notes := spoken } landing.1
      solver.working.included
    exact Or.inl ⟨worst, spoken, printed, by rw [if_pos worst, recorded]; rfl⟩
  · rw [if_neg worst]
    cases finite : landing.2.allFinite with
    | false =>
        have infinite : (!({ landing.2 with notes := spoken } : Solver R Systems Programs).allFinite)
            = true := by
          change (!landing.2.allFinite) = true
          rw [finite]
          rfl
        refine Or.inr (Or.inl ⟨rfl, spoken.push .notFinite, ?_⟩)
        rw [if_pos infinite]
        rfl
    | true =>
        have allowed : ¬(!({ landing.2 with notes := spoken } : Solver R Systems Programs).allFinite)
            = true := by
          change ¬(!landing.2.allFinite) = true
          rw [finite]
          simp
        rw [if_neg allowed]
        -- Only the revision decides whether the run goes on; the record adds an entry and a line.
        rcases revise_cases environment { landing.2 with notes := spoken } with
          ⟨reason, notes, revised⟩ | ⟨row, _, blocked, notes, revised⟩ |
          ⟨row, _, free, dropped, notes, revised⟩
        · obtain ⟨printed, recorded⟩ := record_frame
            { landing.2.optimal with notes } landing.1 solver.working.included
          refine Or.inr (Or.inr (Or.inl ⟨reason, notes, printed, ?_⟩))
          rw [revised]
          exact congrArg (Prod.mk false) recorded
        · obtain ⟨printed, recorded⟩ := record_frame
            { landing.2.entered environment row with notes } landing.1 solver.working.included
          refine Or.inr (Or.inr (Or.inr (Or.inl ⟨row, blocked, notes, printed, ?_⟩)))
          rw [revised]
          exact congrArg (Prod.mk true) recorded
        · obtain ⟨printed, recorded⟩ := record_frame
            { landing.2.left environment row with notes } landing.1 solver.working.included
          refine Or.inr (Or.inr (Or.inr (Or.inr ⟨row, free, dropped, notes, printed, ?_⟩)))
          rw [revised]
          exact congrArg (Prod.mk true) recorded

theorem pass_again (next : Solver R Systems Programs)
    (passed : solver.pass environment = (true, next)) : ∃ row notes printed,
    ((solver.landing environment).2.blocking = some row ∧
      next = { ((solver.landing environment).2.entered environment row).counted
        (solver.landing environment).1 solver.working.included with notes, printed }) ∨
    ((solver.landing environment).2.blocking = none ∧
      (solver.landing environment).2.rowToExclude = some row ∧
      next = { ((solver.landing environment).2.left environment row).counted
        (solver.landing environment).1 solver.working.included with notes, printed }) := by
  rcases pass_cases environment solver with ⟨_, notes, printed, ended⟩ | ⟨_, notes, ended⟩ |
    ⟨_, notes, printed, ended⟩ | ⟨row, blocked, notes, printed, ended⟩ |
    ⟨row, free, dropped, notes, printed, ended⟩
  · rw [passed] at ended
    simp at ended
  · rw [passed] at ended
    simp at ended
  · rw [passed] at ended
    simp at ended
  · rw [passed, Prod.mk.injEq] at ended
    exact ⟨row, notes, printed, Or.inl ⟨blocked, ended.2⟩⟩
  · rw [passed, Prod.mk.injEq] at ended
    exact ⟨row, notes, printed, Or.inr ⟨free, dropped, ended.2⟩⟩

/-- A pass that found the point optimal had no row to let in or out. -/
theorem pass_optimal (ended : Solver R Systems Programs)
    (passed : solver.pass environment = (false, ended)) (optimal : ended.verdict = .optimal) :
    ((solver.landing environment).2.inequalityCount = 0 ∨
      (solver.landing environment).2.blocking = none ∧
        (solver.landing environment).2.rowToExclude = none) ∧ ∃ notes printed,
      ended = { (solver.landing environment).2.optimal.counted (solver.landing environment).1
        solver.working.included with notes, printed } := by
  rcases pass_cases environment solver with ⟨worst, notes, printed, here⟩ | ⟨_, notes, here⟩ |
    ⟨reason, notes, printed, here⟩ | ⟨row, blocked, notes, printed, here⟩ |
    ⟨row, free, dropped, notes, printed, here⟩
  · rw [passed, Prod.mk.injEq] at here
    rw [here.2] at optimal
    exact absurd (worst.symm.trans optimal) (by simp)
  · rw [passed, Prod.mk.injEq] at here
    rw [here.2] at optimal
    simp at optimal
  · rw [passed, Prod.mk.injEq] at here
    exact ⟨reason, notes, printed, here.2⟩
  · rw [passed] at here
    simp at here
  · rw [passed] at here
    simp at here

/-! ### A whole run -/

/-- One pass of a run, within the limits. -/
structure OnePass (before : Solver R Systems Programs) (again : Bool)
    (after : Solver R Systems Programs) : Prop where
  counts : before.iterations < before.config.iterationLimit
  timely : (before.overdue environment).1 = none
  passed : (before.overdue environment).2.pass environment = (again, after)

/-- The states between the passes of a run, and whether the run goes on. -/
inductive Boundary (kick : Option (KickStart R)) : Bool → Solver R Systems Programs → Prop
  | started (start : Solver R Systems Programs) :
      (solver.reset environment).findStart environment kick = (.ok true, start) →
      Boundary kick true start
  | passed (before after : Solver R Systems Programs) (again : Bool) :
      Boundary kick true before → OnePass environment before again after →
      Boundary kick again after

/-- The state in which the last of several passes starts, if a pass is the last thing that
happens. -/
def lastOfPasses : Nat → Solver R Systems Programs → Option (Solver R Systems Programs)
  | 0, _ => none
  | budget + 1, solver =>
    if solver.config.iterationLimit ≤ solver.iterations then none
    else
      match solver.overdue environment with
      | (some _, _) => none
      | (none, looked) =>
        match looked.pass environment with
        | (true, next) => lastOfPasses budget next
        | (false, _) => some looked

/-- The state in which the last pass of a run starts. -/
def lastPass (budget : Nat) (solver : Solver R Systems Programs) (kick : Option (KickStart R)) :
    Option (Solver R Systems Programs) :=
  match (solver.reset environment).findStart environment kick with
  | (.ok true, started) => lastOfPasses environment budget started
  | _ => none

theorem overdue_frame : ∃ clockReadings,
    (solver.overdue environment).2 = { solver with clockReadings } := by
  unfold overdue
  split
  · exact ⟨_, rfl⟩
  · exact ⟨_, rfl⟩

theorem begin_false (feasible : Bool) (stopped : Solver R Systems Programs)
    (begun : solver.begin environment feasible = (false, stopped)) :
    stopped.verdict ≠ .optimal := by
  unfold begin at begun
  simp only [Prod.mk.injEq] at begun
  intro optimal
  rw [begun.2, optimal] at begun
  simp [Verdict.isFeasible, Verdict.rank] at begun

theorem searchStart_false (given : Option (List R)) (stopped : Solver R Systems Programs)
    (searched : solver.searchStart environment given = (.ok false, stopped)) :
    stopped.verdict ≠ .optimal := by
  unfold searchStart at searched
  simp only at searched
  split at searched
  · simp at searched
  · split at searched
    · split at searched
      · simp at searched
      · split at searched
        · simp at searched
        · simp only [Prod.mk.injEq, Except.ok.injEq] at searched
          exact begin_false environment _ true stopped (Prod.ext searched.1 searched.2)
    · split at searched
      · simp only [Prod.mk.injEq, Except.ok.injEq] at searched
        exact begin_false environment _ false stopped (Prod.ext searched.1 searched.2)
      · simp only [Prod.mk.injEq, true_and] at searched
        rw [← searched]
        simp [setPoint]

theorem findStart_false (kick : Option (KickStart R)) (stopped : Solver R Systems Programs)
    (refused : solver.findStart environment kick = (.ok false, stopped)) :
    stopped.verdict ≠ .optimal := by
  unfold findStart at refused
  simp only at refused
  split at refused
  · exact searchStart_false environment _ none stopped refused
  · split at refused
    · simp at refused
    · split at refused
      · split at refused
        · simp only [Prod.mk.injEq, Except.ok.injEq] at refused
          exact begin_false environment _ true stopped (Prod.ext refused.1 refused.2)
        · exact searchStart_false environment _ _ stopped refused
      · exact searchStart_false environment _ none stopped refused

theorem passes_optimal (budget : Nat) (ended : Solver R Systems Programs)
    (done : passes environment budget solver = (some (), ended))
    (optimal : ended.verdict = .optimal) : ∃ before,
    lastOfPasses environment budget solver = some before ∧
      before.pass environment = (false, ended) := by
  induction budget generalizing solver with
  | zero => simp [passes] at done
  | succ budget ih =>
      unfold passes at done
      unfold lastOfPasses
      -- A run that is cut short by a limit or the clock has failed, which is not optimal.
      by_cases spent : solver.config.iterationLimit ≤ solver.iterations
      · rw [if_pos spent, Prod.mk.injEq] at done
        rw [← done.2] at optimal
        simp at optimal
      · rw [if_neg spent] at done ⊢
        cases timely : overdue environment solver with
        | mk late looked =>
            rw [timely] at done
            cases late with
            | some limit =>
                simp only [Prod.mk.injEq, true_and] at done
                rw [← done] at optimal
                simp at optimal
            | none =>
                simp only at done ⊢
                cases outcome : looked.pass environment with
                | mk again next =>
                    rw [outcome] at done
                    cases again with
                    | true => exact ih next done
                    | false =>
                        rw [Prod.mk.injEq] at done
                        exact ⟨looked, rfl, by rw [outcome, done.2]⟩

/-- A run that no limit cuts short ends with a pass. -/
theorem passes_decided (kick : Option (KickStart R)) (budget : Nat)
    (state ended : Solver R Systems Programs)
    (here : solver.Boundary environment kick true state)
    (done : passes environment budget state = (some (), ended))
    (decided : ended.verdict ≠ .failed) : ∃ before,
    solver.Boundary environment kick true before ∧ OnePass environment before false ended := by
  induction budget generalizing state with
  | zero => simp [passes] at done
  | succ budget ih =>
      simp only [passes] at done
      split at done
      · rw [Prod.mk.injEq] at done
        rw [← done.2] at decided
        exact absurd rfl decided
      · rename_i counts
        split at done
        · rw [Prod.mk.injEq] at done
          rw [← done.2] at decided
          exact absurd rfl decided
        · rename_i looked timely
          have pass (again : Bool) (next : Solver R Systems Programs)
              (passed : looked.pass environment = (again, next)) :
              OnePass environment state again next :=
            ⟨Nat.lt_of_not_le counts, by rw [timely], by rw [timely]; exact passed⟩
          split at done
          · rename_i next passed
            exact ih next (.passed state next true here (pass true next passed)) done
          · rename_i next passed
            rw [Prod.mk.injEq] at done
            exact ⟨state, here, done.2 ▸ pass false next passed⟩

/-- Passes that come to an end do so with any greater budget. -/
theorem passes_more (budget more : Nat) (state ended : Solver R Systems Programs)
    (done : passes environment budget state = (some (), ended)) :
    passes environment (budget + more) state = (some (), ended) := by
  induction budget generalizing state with
  | zero => simp [passes] at done
  | succ budget ih =>
      rw [Nat.add_right_comm]
      simp only [passes] at done ⊢
      -- A limit or the clock ends the run whatever is left of the budget; so does the last pass.
      split at done
      · rename_i spent
        rw [if_pos spent]
        exact done
      · rename_i counts
        rw [if_neg counts]
        split at done
        · exact done
        · split at done
          · rename_i next _
            exact ih next done
          · exact done

/-- The budget decides whether a run finishes, and nothing about a run that does. -/
theorem solve_more (budget more : Nat) (kick : Option (KickStart R))
    (finished : (solver.solve environment budget kick).1 ≠ .ok none) :
    solver.solve environment (budget + more) kick = solver.solve environment budget kick := by
  unfold solve at finished ⊢
  split
  · rfl
  · rfl
  · rename_i started begun
    simp only [begun] at finished
    cases done : passes environment budget started with
    | mk spent ended =>
        cases spent with
        | none => simp [done] at finished
        | some _ => rw [passes_more environment budget more started ended done]

/-- A run that ends at an optimal point ends with a pass, and the result tells its state. -/
theorem solve_optimal (budget : Nat) (kick : Option (KickStart R)) (result : Result R)
    (answered : (solver.solve environment budget kick).1 = .ok (some result))
    (optimal : result.verdict = .optimal) : ∃ before ended,
    solver.lastPass environment budget kick = some before ∧
      before.pass environment = (false, ended) ∧ ended.verdict = .optimal ∧
      result = ended.result := by
  unfold solve at answered
  unfold lastPass
  split at answered
  · simp at answered
  · rename_i stopped start
    have same : stopped.result = result := by simpa using answered
    have verdict := findStart_false environment _ kick stopped start
    rw [← same] at optimal
    exact absurd optimal verdict
  -- The start was feasible, so the verdict is that of the passes.
  · rename_i started start
    split at answered
    · simp at answered
    · rename_i ended finished
      obtain ⟨printed, closing⟩ := printLine_frame ended (.closing ended.verdict ended.iterations)
      simp only [closing, Except.ok.injEq, Option.some.injEq] at answered
      have verdict : ended.verdict = .optimal := by
        rw [← answered] at optimal
        exact optimal
      obtain ⟨before, last, ends⟩ := passes_optimal environment started budget ended finished
        verdict
      exact ⟨before, ended, by simp only [start, last], ends, verdict, answered.symm⟩

/-- A run that did not fail was stopped at its start, or ends with a pass. -/
theorem solve_decided (budget : Nat) (kick : Option (KickStart R)) (result : Result R)
    (answered : (solver.solve environment budget kick).1 = .ok (some result))
    (decided : result.verdict ≠ .failed) :
    (∃ stopped, (solver.reset environment).findStart environment kick = (.ok false, stopped) ∧
      result = stopped.result) ∨
    ∃ start before ended,
      (solver.reset environment).findStart environment kick = (.ok true, start) ∧
      solver.Boundary environment kick true before ∧ OnePass environment before false ended ∧
      result = ended.result := by
  simp only [solve] at answered
  split at answered
  · simp at answered
  · rename_i stopped begun
    simp only [Except.ok.injEq, Option.some.injEq] at answered
    exact Or.inl ⟨stopped, begun, answered.symm⟩
  · rename_i start begun
    split at answered
    · simp at answered
    · rename_i ended finished
      obtain ⟨printed, closing⟩ := printLine_frame ended (.closing ended.verdict ended.iterations)
      simp only [closing, Except.ok.injEq, Option.some.injEq] at answered
      rw [← answered] at decided
      obtain ⟨before, here, step⟩ := passes_decided environment solver kick budget start ended
        (.started start begun) finished decided
      exact Or.inr ⟨start, before, ended, begun, here, step, answered.symm⟩

/-- What passes preserve holds where the last one starts. -/
theorem lastOfPasses_induction {motive : Solver R Systems Programs → Prop}
    (look : ∀ solver clockReadings, motive solver → motive { solver with clockReadings })
    (step : ∀ solver next, motive solver → solver.pass environment = (true, next) → motive next)
    (budget : Nat) (before : Solver R Systems Programs) (start : motive solver)
    (last : lastOfPasses environment budget solver = some before) : motive before := by
  induction budget generalizing solver with
  | zero => simp [lastOfPasses] at last
  | succ budget ih =>
      obtain ⟨clockReadings, looking⟩ := overdue_frame environment solver
      unfold lastOfPasses at last
      split at last
      · simp at last
      · split at last
        · simp at last
        · rename_i looked timely
          rw [timely] at looking
          change looked = { solver with clockReadings } at looking
          have here : motive looked := by
            rw [looking]
            exact look solver clockReadings start
          split at last
          · rename_i next again
            exact ih next (step looked next here again) last
          · rw [← Option.some.inj last]
            exact here

end ConvexQP.Solver
