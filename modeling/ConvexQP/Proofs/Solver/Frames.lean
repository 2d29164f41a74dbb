import ConvexQP.Proofs.Scan.Choice
import ConvexQP.Proofs.WorkingSet.Membership
import ConvexQP.Solver.Run

/-!
What each step of the solver writes. A step is given as its input with some fields replaced, so
every other field is read off unchanged. Notes are never read back, and stand in these equations
as some list.
-/
namespace ConvexQP.Solver

/-! ### Notes and lines -/

section Notes
variable {R Systems Programs : Type} (solver : Solver R Systems Programs)

theorem trace_frame (entry : Note R) : ∃ notes, solver.trace entry = { solver with notes } := by
  unfold trace
  split
  · exact ⟨_, rfl⟩
  · exact ⟨_, rfl⟩

theorem noteAll_frame (entries : List (Note R)) :
    ∃ notes, solver.noteAll entries = { solver with notes } := by
  unfold noteAll
  induction entries generalizing solver with
  | nil => exact ⟨_, rfl⟩
  | cons entry rest ih =>
      obtain ⟨notes, later⟩ := ih (solver.note entry)
      exact ⟨notes, later⟩

theorem printLine_frame (line : TableLine R) :
    ∃ printed, solver.printLine line = { solver with printed } := by
  unfold printLine
  split
  · exact ⟨_, rfl⟩
  · exact ⟨_, rfl⟩

end Notes

variable {R Systems Programs : Type} [Scalar R]
variable (environment : Environment R Systems Programs) (solver : Solver R Systems Programs)

theorem traceSlacks_frame (moment : Moment) :
    ∃ notes, solver.traceSlacks moment = { solver with notes } := by
  unfold traceSlacks
  simp only
  split
  · exact noteAll_frame solver _
  · exact ⟨_, rfl⟩

/-! ### The subproblem -/

/-- What the system of the working set is answered with. -/
def systemAnswer : Option (List R) :=
  (environment.solveSystem solver.systems (Kkt.matrix solver.problem solver.working.included)
    (Kkt.rhs solver.problem solver.working.included) solver.working.included).1

/-- The state of the method for systems once the system of the working set is answered. -/
def systemsAfter : Systems :=
  (environment.solveSystem solver.systems (Kkt.matrix solver.problem solver.working.included)
    (Kkt.rhs solver.problem solver.working.included) solver.working.included).2.2

theorem solveSubproblem_some (entries : List R)
    (solved : solver.systemAnswer environment = some entries) :
    ∃ notes, solver.solveSubproblem environment =
      (some (entries.take solver.problem.size),
        { solver.storeMultipliers solver.working.included (entries.drop solver.problem.size) with
          systems := solver.systemsAfter environment
          notes }) := by
  let answer := environment.solveSystem solver.systems
    (Kkt.matrix solver.problem solver.working.included)
    (Kkt.rhs solver.problem solver.working.included) solver.working.included
  obtain ⟨notes, told⟩ := noteAll_frame
    { solver with systems := answer.2.2 } (answer.2.1.map Note.factor)
  refine ⟨notes, ?_⟩
  unfold systemAnswer at solved
  unfold solveSubproblem
  simp only [solved]
  simp only [answer] at told
  rw [told]
  rfl

theorem solveSubproblem_none (unsolved : solver.systemAnswer environment = none) :
    ∃ notes, solver.solveSubproblem environment =
      (none, { solver with systems := solver.systemsAfter environment, notes }) := by
  let answer := environment.solveSystem solver.systems
    (Kkt.matrix solver.problem solver.working.included)
    (Kkt.rhs solver.problem solver.working.included) solver.working.included
  obtain ⟨spoken, told⟩ := noteAll_frame
    { solver with systems := answer.2.2 } (answer.2.1.map Note.factor)
  obtain ⟨notes, traced⟩ := trace_frame
    { solver with systems := answer.2.2, notes := spoken }
    (.systemNotSolved solver.working.included)
  refine ⟨notes, ?_⟩
  unfold systemAnswer at unsolved
  unfold solveSubproblem
  simp only [unsolved]
  simp only [answer] at told traced
  rw [told, traced]
  rfl

/-! ### Giving up a row -/

theorem includedEntries_rows : solver.includedEntries.map Prod.fst = solver.working.included := by
  unfold includedEntries multipliersAt
  rw [List.map_fst_zip]
  simp

theorem relax_frame (some : solver.working.included ≠ []) :
    ∃ row ∈ solver.working.included, ∃ notes,
      solver.relax environment = { solver.excludeRow environment row with notes } := by
  have nonempty : solver.includedEntries ≠ [] := by
    intro none
    have rows := includedEntries_rows solver
    rw [none] at rows
    exact some rows.symm
  obtain ⟨row, chosen⟩ := MultiplierChoice.largestMagnitude_isSome _ nonempty
  have member := MultiplierChoice.largestMagnitude_mem _ row chosen
  rw [includedEntries_rows] at member
  obtain ⟨notes, traced⟩ := trace_frame solver
    (.relax row (largestMagnitude (solver.multipliersAt solver.working.included)))
  refine ⟨row, member, notes, ?_⟩
  unfold relax
  simp only [chosen]
  rw [traced]
  rfl

/-! ### Acting on the outcome -/

/-- The step length along a direction and the row that stops the step. -/
def stepLimit (direction : List R) : StepLimit R Nat :=
  (⟨solver.slackTolerance, solver.solutionTolerance, Linear.norm direction⟩ : RatioTest R).run
    (solver.candidates direction)

/-- The direction is too short to be followed. -/
def stands (direction : List R) : Bool :=
  solver.solutionTolerance.isSmall (Linear.norm solver.point) (Linear.norm direction)

/-- The solver once it went along a direction, as far as the rows let it. -/
def stepped (direction : List R) : Solver R Systems Programs :=
  let limit := solver.stepLimit direction
  { solver with
    direction
    iterate := if 0 < limit.length then
        solver.iterate.overwrite (Linear.addScaled limit.length direction solver.point)
      else solver.iterate
    blocking := if (solver.candidates direction).isEmpty then solver.blocking else limit.blocking
    stepLength := some limit.length
    verdict := .approximate }

/-- Without rows to run into, none blocks either way. -/
theorem stepped_blocking (direction : List R) (free : solver.blocking = none) :
    (solver.stepped direction).blocking = (solver.stepLimit direction).blocking := by
  unfold stepped
  simp only
  split
  · rename_i empty
    rw [free, stepLimit, List.isEmpty_iff.mp empty]
    rfl
  · rfl

theorem advance_frame (direction : List R) (here : solver.direction = direction) :
    ∃ notes, solver.advance direction (Linear.norm direction) =
      (decide (0 < (solver.stepLimit direction).length),
        { solver.stepped direction with notes }) := by
  obtain ⟨notes, ratios⟩ := trace_frame solver
    (.stepLengths ((solver.candidates direction).map fun row => row.slack / row.slope))
  subst here
  unfold advance stepped
  simp only [ratios]
  by_cases empty : (solver.candidates solver.direction).isEmpty = true
  · refine ⟨solver.notes, congrArg (Prod.mk _) ?_⟩
    by_cases moved : 0 < (solver.stepLimit solver.direction).length
    · have forward := moved
      unfold stepLimit at forward
      simp only [empty, forward, moved, decide_true, if_true]
      rfl
    · have still := moved
      unfold stepLimit at still
      simp only [empty, still, moved, decide_false, if_true, if_false, Bool.false_eq_true]
      rfl
  · refine ⟨notes, congrArg (Prod.mk _) ?_⟩
    by_cases moved : 0 < (solver.stepLimit solver.direction).length
    · have forward := moved
      unfold stepLimit at forward
      simp only [empty, forward, moved, decide_true, if_true, if_false, Bool.false_eq_true]
      rfl
    · have still := moved
      unfold stepLimit at still
      simp only [empty, still, moved, decide_false, if_false, Bool.false_eq_true]
      rfl

omit [Scalar R] in
theorem note_direction (direction : List R) : ∃ notes,
    ({ solver with direction }.trace (.current solver.point)).trace (.step direction) =
      { solver with direction, notes } := by
  obtain ⟨first, current⟩ := trace_frame { solver with direction } (.current solver.point)
  obtain ⟨second, step⟩ := trace_frame { solver with direction, notes := first } (.step direction)
  exact ⟨second, by rw [current, step]⟩

theorem acceptSolution_stands (direction : List R) (short : solver.stands direction = true) :
    ∃ notes, solver.acceptSolution direction =
      (false, { solver with direction, verdict := .feasible, notes }) := by
  obtain ⟨first, noted⟩ := note_direction solver direction
  obtain ⟨second, small⟩ := trace_frame { solver with direction, notes := first } .stepTooSmall
  obtain ⟨notes, slacks⟩ := traceSlacks_frame
    { solver with direction, notes := second, verdict := .feasible } .afterIteration
  refine ⟨notes, ?_⟩
  unfold stands at short
  unfold acceptSolution
  simp only [short, if_true, noted, small]
  rw [slacks]

theorem acceptSolution_moves (direction : List R) (long : solver.stands direction = false) :
    ∃ notes, solver.acceptSolution direction =
      (decide (0 < (solver.stepLimit direction).length),
        { solver.stepped direction with notes }) := by
  obtain ⟨first, noted⟩ := note_direction solver direction
  obtain ⟨second, advanced⟩ := advance_frame { solver with direction, notes := first } direction rfl
  obtain ⟨notes, slacks⟩ := traceSlacks_frame
    { ({ solver with direction, notes := first } : Solver R Systems Programs).stepped direction with
      notes := second } .afterIteration
  refine ⟨notes, ?_⟩
  unfold stands at long
  unfold acceptSolution
  simp only [long, Bool.false_eq_true, if_false, noted]
  rw [advanced]
  simp only
  rw [slacks]
  rfl

theorem acceptFailure_frame :
    ∃ notes, solver.acceptFailure =
      (false, { solver with
        verdict := if solver.isFeasible false then .feasible else .infeasible
        notes }) := by
  unfold acceptFailure
  obtain ⟨notes, slacks⟩ := traceSlacks_frame
    { solver with verdict := if solver.isFeasible false then .feasible else .infeasible }
    .afterIteration
  exact ⟨notes, congrArg (Prod.mk false) slacks⟩

/-! ### Changing the working set -/

/-- The solver when no row is to enter or to leave. -/
def optimal (solver : Solver R Systems Programs) : Solver R Systems Programs :=
  { solver with toInclude := none, toExclude := none, verdict := .optimal }

/-- The solver once the row that stopped the step entered the working set. -/
def entered (row : Nat) : Solver R Systems Programs :=
  { solver.includeRow environment row with
    toInclude := some row, toExclude := none, verdict := .approximate }

/-- The solver once a row left the working set for its multiplier. -/
def left (row : Nat) : Solver R Systems Programs :=
  { solver.excludeRow environment row with
    toInclude := none, toExclude := some row, verdict := .approximate }

theorem revise_cases :
    ((solver.inequalityCount = 0 ∨ solver.blocking = none ∧ solver.rowToExclude = none) ∧
      ∃ notes, solver.revise environment = (false, { solver.optimal with notes })) ∨
    (∃ row, solver.inequalityCount ≠ 0 ∧ solver.blocking = some row ∧
      ∃ notes, solver.revise environment = (true, { solver.entered environment row with notes })) ∨
    (∃ row, solver.inequalityCount ≠ 0 ∧ solver.blocking = none ∧
      solver.rowToExclude = some row ∧
      ∃ notes, solver.revise environment = (true, { solver.left environment row with notes })) := by
  have noted : ∀ toInclude toExclude, ∃ notes,
      ({ solver with toInclude, toExclude }.trace (.workingSet solver.working)).trace
        (.suggestion toInclude toExclude) = { solver with toInclude, toExclude, notes } := by
    intro toInclude toExclude
    obtain ⟨first, working⟩ := trace_frame { solver with toInclude, toExclude }
      (.workingSet solver.working)
    obtain ⟨second, suggested⟩ := trace_frame
      { solver with toInclude, toExclude, notes := first } (.suggestion toInclude toExclude)
    exact ⟨second, by rw [working, suggested]⟩
  by_cases rows : solver.inequalityCount = 0
  · obtain ⟨notes, told⟩ := noted none none
    refine Or.inl ⟨Or.inl rows, notes, ?_⟩
    unfold revise
    simp only [rows, if_true, decide_true, Bool.true_or, told]
    rfl
  · have entering : (if solver.inequalityCount = 0 then none else solver.rowToInclude) =
        solver.blocking := if_neg rows
    have some_rows : decide (solver.inequalityCount = 0) = false := decide_eq_false rows
    rcases Option.eq_none_or_eq_some solver.blocking with free | ⟨row, blocked⟩
    · rcases Option.eq_none_or_eq_some solver.rowToExclude with kept | ⟨row, dropped⟩
      · obtain ⟨notes, told⟩ := noted none none
        refine Or.inl ⟨Or.inr ⟨free, kept⟩, notes, ?_⟩
        rw [free] at entering
        unfold revise
        simp only [entering, some_rows, kept, Option.isSome_none, Bool.or_false,
          Bool.false_eq_true, if_false, told]
        rfl
      · obtain ⟨notes, told⟩ := noted none (some row)
        refine Or.inr (Or.inr ⟨row, rows, free, dropped, notes, ?_⟩)
        rw [free] at entering
        unfold revise
        simp only [entering, some_rows, dropped, Option.isSome_none, Bool.or_false,
          Bool.false_eq_true, if_false, told]
        rfl
    · obtain ⟨notes, told⟩ := noted (some row) none
      refine Or.inr (Or.inl ⟨row, rows, blocked, notes, ?_⟩)
      rw [blocked] at entering
      unfold revise
      simp only [entering, Option.isSome_some, Bool.or_true, if_true, told]
      rfl

theorem rowToExclude_mem (row : Nat) (dropped : solver.rowToExclude = some row) :
    row ∈ solver.working.included := by
  have member := MultiplierChoice.rowToDrop_mem _ _ _ row dropped
  rw [includedEntries_rows] at member
  exact member

theorem candidates_rows (direction : List R) (row : Nat)
    (member : row ∈ (solver.candidates direction).map Candidate.row) :
    row ∈ solver.working.excluded := by
  unfold candidates at member
  simp only [List.map_zipWith] at member
  obtain ⟨index, bound, here⟩ := List.mem_iff_getElem.mp member
  rw [List.getElem_zipWith] at here
  rw [← here]
  exact List.getElem_mem _

theorem stepLimit_blocking (direction : List R) (row : Nat)
    (blocked : (solver.stepLimit direction).blocking = some row) :
    row ∈ solver.working.excluded :=
  candidates_rows solver direction row (RatioTest.blocking_mem _ _ row blocked)

/-! ### Counting -/

/-- The count of iterations once a pass is over. -/
def countAfter (moved : Bool) (before : List Nat) : Nat :=
  if moved || solver.working.included ≠ before then solver.iterations + 1 else solver.iterations

def entryOf (moved : Bool) (before : List Nat) : Entry R where
  iteration := solver.countAfter moved before
  objective := solver.problem.objective solver.point
  stepLength := solver.stepLength
  stepNorm := Linear.norm solver.direction
  moved := moved
  included := solver.working.included
  toInclude := solver.toInclude
  toExclude := solver.toExclude
  verdict := solver.verdict

def counted (moved : Bool) (before : List Nat) : Solver R Systems Programs :=
  { solver with
    iterations := solver.countAfter moved before
    history := solver.history.push (solver.entryOf moved before) }

theorem record_frame (moved : Bool) (before : List Nat) :
    ∃ printed, solver.record moved before = { solver.counted moved before with printed } := by
  obtain ⟨heading, headed⟩ := printLine_frame (solver.counted moved before) .heading
  by_cases first : solver.history.size % 20 = 0
  · obtain ⟨printed, line⟩ := printLine_frame
      { solver.counted moved before with printed := heading }
      (.pass solver.history.size (solver.entryOf moved before))
    have both : ((solver.counted moved before).printLine .heading).printLine
          (.pass solver.history.size (solver.entryOf moved before)) =
        { solver.counted moved before with printed } := by rw [headed, line]
    refine ⟨printed, ?_⟩
    unfold record
    simp only [first, if_true]
    exact both
  · obtain ⟨printed, line⟩ := printLine_frame (solver.counted moved before)
      (.pass solver.history.size (solver.entryOf moved before))
    refine ⟨printed, ?_⟩
    unfold record
    simp only [first, if_false]
    exact line

end ConvexQP.Solver
