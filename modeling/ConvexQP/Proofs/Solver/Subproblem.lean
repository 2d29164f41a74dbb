import ConvexQP.Proofs.Solver.Follows

/-!
The decisive round of a pass. A pass solves the system of its working set and gives up a row each
time there is no answer; the last round is the one that is answered, or the one without a row left.
What a pass does is told from the state in which this round starts.
-/
namespace ConvexQP.Solver
variable {R Systems Programs : Type} [Scalar R]
variable (environment : Environment R Systems Programs)

/-- The state in which the last of several rounds starts. -/
def narrowed : Nat → Solver R Systems Programs → Solver R Systems Programs
  | 0, solver => solver
  | rounds + 1, solver =>
    if (solver.systemAnswer environment).isNone && !solver.working.included.isEmpty then
      narrowed rounds ((solver.solveSubproblem environment).2.relax environment)
    else solver

/-- The state in which the decisive round of a pass starts. -/
def subproblem (solver : Solver R Systems Programs) : Solver R Systems Programs :=
  narrowed environment (solver.working.includedCount + 1)
    { solver with blocking := none, stepLength := none }

variable (solver : Solver R Systems Programs)

theorem round_frame (unsolved : solver.systemAnswer environment = none)
    (some : solver.working.included ≠ []) :
    ∃ row ∈ solver.working.included, ∃ notes,
      (solver.solveSubproblem environment).2.relax environment =
        { { solver with systems := solver.systemsAfter environment }.excludeRow environment row with
          notes } := by
  obtain ⟨spoken, failed⟩ := solveSubproblem_none environment solver unsolved
  obtain ⟨row, member, notes, relaxed⟩ := relax_frame environment
    { solver with systems := solver.systemsAfter environment, notes := spoken } some
  exact ⟨row, member, notes, by rw [failed, relaxed]; rfl⟩

/-- Rounds change the working set, the multipliers and what the method for systems remembers. -/
theorem narrowed_frame (rounds : Nat) : ∃ multipliers working systems notes,
    narrowed environment rounds solver =
      { solver with multipliers, working, systems, notes } := by
  induction rounds generalizing solver with
  | zero => exact ⟨_, _, _, _, rfl⟩
  | succ rounds ih =>
      unfold narrowed
      split
      · rename_i again
        simp only [Bool.and_eq_true, Option.isNone_iff_eq_none, Bool.not_eq_true',
          List.isEmpty_eq_false_iff] at again
        obtain ⟨row, _, spoken, relaxed⟩ := round_frame environment solver again.1 again.2
        obtain ⟨multipliers, working, systems, notes, later⟩ :=
          ih ((solver.solveSubproblem environment).2.relax environment)
        refine ⟨multipliers, working, systems, notes, ?_⟩
        rw [later, relaxed]
        rfl
      · exact ⟨_, _, _, _, rfl⟩

theorem narrowed_follows (rounds : Nat) :
    Follows environment solver (narrowed environment rounds solver) := by
  induction rounds generalizing solver with
  | zero => exact .refl solver
  | succ rounds ih =>
      unfold narrowed
      split
      · exact ((solveSubproblem_follows environment solver).trans
          (relax_follows environment _)).trans (ih _)
      · exact .refl solver

theorem narrowed_included (rounds : Nat) (row : Nat)
    (member : row ∈ (narrowed environment rounds solver).working.included) :
    row ∈ solver.working.included := by
  induction rounds generalizing solver with
  | zero => exact member
  | succ rounds ih =>
      unfold narrowed at member
      split at member
      · rename_i again
        simp only [Bool.and_eq_true, Option.isNone_iff_eq_none, Bool.not_eq_true',
          List.isEmpty_eq_false_iff] at again
        obtain ⟨other, _, notes, relaxed⟩ := round_frame environment solver again.1 again.2
        have kept := ih _ member
        rw [relaxed] at kept
        exact ((WorkingSet.mem_included_erase solver.working other row).mp kept).1
      · exact member

/-- With a round for each row and one more, the last round is decisive. -/
theorem narrowed_decides (rounds : Nat) (enough : solver.working.includedCount < rounds) :
    (narrowed environment rounds solver).systemAnswer environment = none →
      (narrowed environment rounds solver).working.included = [] := by
  induction rounds generalizing solver with
  | zero => exact absurd enough (Nat.not_lt_zero _)
  | succ rounds ih =>
      unfold narrowed
      split
      · rename_i again
        simp only [Bool.and_eq_true, Option.isNone_iff_eq_none, Bool.not_eq_true',
          List.isEmpty_eq_false_iff] at again
        obtain ⟨row, member, notes, relaxed⟩ := round_frame environment solver again.1 again.2
        apply ih
        rw [relaxed]
        -- The round that goes on has one row less, so there are rounds enough for the rest.
        have fewer := WorkingSet.includedCount_erase solver.working row member
        have less : (solver.working.erase row).includedCount < rounds := by omega
        exact less
      · rename_i done
        intro unsolved
        simpa [unsolved] using done

/-- The decisive round starts with no blocking row, and where the pass started. -/
theorem subproblem_frame : ∃ multipliers working systems notes,
    solver.subproblem environment =
      { solver with
        blocking := none, stepLength := none
        multipliers, working, systems, notes } := by
  obtain ⟨multipliers, working, systems, notes, rounds⟩ := narrowed_frame environment
    { solver with blocking := none, stepLength := none } (solver.working.includedCount + 1)
  exact ⟨multipliers, working, systems, notes, rounds⟩

theorem subproblem_blocking : (solver.subproblem environment).blocking = none := by
  obtain ⟨_, _, _, _, rounds⟩ := subproblem_frame environment solver
  rw [rounds]

theorem subproblem_point : (solver.subproblem environment).point = solver.point := by
  obtain ⟨_, _, _, _, rounds⟩ := subproblem_frame environment solver
  rw [rounds]
  rfl

/-- When the decisive round has no answer, every row was given up. -/
theorem subproblem_unsolved
    (unsolved : (solver.subproblem environment).systemAnswer environment = none) :
    (solver.subproblem environment).working.included = [] :=
  narrowed_decides environment { solver with blocking := none, stepLength := none } _
    (Nat.lt_succ_self _) unsolved

/-- The solver with an answer of its system. -/
def answered (entries : List R) : Solver R Systems Programs :=
  { solver.storeMultipliers solver.working.included (entries.drop solver.problem.size) with
    systems := solver.systemsAfter environment }

/-- From the point to the point of an answer. -/
def heading (entries : List R) : List R :=
  Linear.subtract (entries.take solver.problem.size) solver.point

/-- Where a pass lands after its decisive round, and whether the point moved. -/
def landed : Bool × Solver R Systems Programs :=
  match solver.systemAnswer environment with
  | some entries =>
    let next := solver.answered environment entries
    let direction := solver.heading entries
    if next.stands direction then (false, { next with direction, verdict := .feasible })
    else (decide (0 < (next.stepLimit direction).length), next.stepped direction)
  | none =>
    (false, { solver with
      systems := solver.systemsAfter environment
      verdict := if solver.isFeasible false then .feasible else .infeasible })

/-- With an answer the multipliers are stored, and the working set stays. -/
theorem landed_frame (entries : List R) (answer : solver.systemAnswer environment = some entries) :
    ∃ iterate direction blocking stepLength verdict, (solver.landed environment).2 =
      { solver.answered environment entries with
        iterate, direction, blocking, stepLength, verdict } := by
  unfold landed
  rw [answer]
  simp only
  split
  · exact ⟨_, _, _, _, _, rfl⟩
  · exact ⟨_, _, _, _, _, rfl⟩

/-- Without an answer the point and the working set stay. -/
theorem landed_unsolved (unsolved : solver.systemAnswer environment = none) :
    ∃ systems verdict, (solver.landed environment).2 = { solver with systems, verdict } := by
  unfold landed
  rw [unsolved]
  exact ⟨_, _, rfl⟩

theorem landed_blocking (fresh : solver.blocking = none) (row : Nat)
    (blocked : (solver.landed environment).2.blocking = some row) : ∃ entries,
    solver.systemAnswer environment = some entries ∧
      (solver.answered environment entries).stands (solver.heading entries) = false ∧
      ((solver.answered environment entries).stepLimit (solver.heading entries)).blocking =
        some row ∧
      (solver.landed environment).1 = decide (0 <
        ((solver.answered environment entries).stepLimit (solver.heading entries)).length) := by
  unfold landed at blocked ⊢
  cases answer : solver.systemAnswer environment with
  | none =>
      simp only [answer] at blocked
      rw [fresh] at blocked
      simp at blocked
  | some entries =>
      simp only [answer] at blocked ⊢
      split at blocked
      · have absent := fresh.symm.trans blocked
        simp at absent
      · rename_i long
        rw [if_neg long]
        have blocking := stepped_blocking (solver.answered environment entries)
          (solver.heading entries) fresh
        exact ⟨entries, rfl, Bool.not_eq_true _ ▸ long, blocking.symm.trans blocked, rfl⟩

theorem round_decided (decisive : solver.systemAnswer environment = none →
      solver.working.included = []) : ∃ notes,
    (solver.solveSubproblem environment).2.respond environment
        (solver.solveSubproblem environment).1 =
      (some (solver.landed environment).1, { (solver.landed environment).2 with notes }) := by
  unfold landed
  cases answer : solver.systemAnswer environment with
  | some entries =>
      obtain ⟨spoken, solved⟩ := solveSubproblem_some environment solver entries answer
      rw [solved]
      simp only [respond]
      cases short : (solver.answered environment entries).stands (solver.heading entries) with
      | true =>
          obtain ⟨notes, stayed⟩ := acceptSolution_stands
            { solver.answered environment entries with notes := spoken } (solver.heading entries)
            short
          refine ⟨notes, ?_⟩
          have outcome := congrArg (fun step : Bool × Solver R Systems Programs =>
            (some step.1, step.2)) stayed
          exact outcome
      | false =>
          obtain ⟨notes, moved⟩ := acceptSolution_moves
            { solver.answered environment entries with notes := spoken } (solver.heading entries)
            short
          refine ⟨notes, ?_⟩
          have outcome := congrArg (fun step : Bool × Solver R Systems Programs =>
            (some step.1, step.2)) moved
          exact outcome
  | none =>
      obtain ⟨spoken, unsolved⟩ := solveSubproblem_none environment solver answer
      obtain ⟨notes, failed⟩ := acceptFailure_frame
        { solver with systems := solver.systemsAfter environment, notes := spoken }
      refine ⟨notes, ?_⟩
      have empty : solver.working.included.isEmpty = true :=
        List.isEmpty_iff.mpr (decisive answer)
      rw [unsolved]
      simp only [respond, empty, if_true]
      rw [failed]
      rfl

theorem attempt_landed (rounds : Nat) (enough : solver.working.includedCount < rounds) :
    ∃ notes, attempt environment rounds solver =
      (((narrowed environment rounds solver).landed environment).1,
        { ((narrowed environment rounds solver).landed environment).2 with notes }) := by
  induction rounds generalizing solver with
  | zero => exact absurd enough (Nat.not_lt_zero _)
  | succ rounds ih =>
      have decides := narrowed_decides environment solver (rounds + 1) enough
      unfold attempt
      unfold narrowed at decides ⊢
      split at decides
      · rename_i again
        rw [if_pos again]
        simp only [Bool.and_eq_true, Option.isNone_iff_eq_none, Bool.not_eq_true',
          List.isEmpty_eq_false_iff] at again
        obtain ⟨row, member, spoken, relaxed⟩ := round_frame environment solver again.1 again.2
        have fewer := WorkingSet.includedCount_erase solver.working row member
        have less : ((solver.solveSubproblem environment).2.relax
            environment).working.includedCount < rounds := by
          rw [relaxed]
          have count : (solver.working.erase row).includedCount < rounds := by omega
          exact count
        obtain ⟨notes, later⟩ := ih _ less
        obtain ⟨told, unsolved⟩ := solveSubproblem_none environment solver again.1
        refine ⟨notes, ?_⟩
        rw [← later]
        have nonempty : solver.working.included.isEmpty = false :=
          List.isEmpty_eq_false_iff.mpr again.2
        rw [unsolved]
        -- The model takes the same turn: without an answer it tries again with fewer rows.
        simp only [respond, nonempty, Bool.false_eq_true, if_false]
      · rename_i done
        rw [if_neg done]
        obtain ⟨notes, decided⟩ := round_decided environment solver decides
        exact ⟨notes, by simp only [decided]⟩

theorem stepOnce_landed : ∃ notes, solver.stepOnce environment =
    (((solver.subproblem environment).landed environment).1,
      { ((solver.subproblem environment).landed environment).2 with notes }) :=
  attempt_landed environment { solver with blocking := none, stepLength := none } _
    (Nat.lt_succ_self _)

end ConvexQP.Solver
