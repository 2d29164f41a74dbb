import ConvexQP.Proofs.Solver.Reached
import ConvexQP.Proofs.Storage.Access

/-!
Solvers that cannot be told apart by what they answer. Two solvers are alike if they solve the same
problem with settings that decide alike, hold the same items in their buffers, whatever the blocks,
and their methods for systems and programmes give the same answers from now on. What they noted or
printed is not compared. Every small step keeps solvers alike.
-/
namespace ConvexQP

/-! ### Settings and buffers -/

/-- The settings that a decision depends on are the same. Storage and output are left open. -/
structure Config.Alike {R : Type} (left right : Config R) : Prop where
  slackTolerance : left.slackTolerance = right.slackTolerance
  solutionTolerance : left.solutionTolerance = right.solutionTolerance
  pivotTolerance : left.pivotTolerance = right.pivotTolerance
  iterationLimit : left.iterationLimit = right.iterationLimit
  timeLimit : left.timeLimit = right.timeLimit
  programTimeLimit : left.programTimeLimit = right.programTimeLimit
  programTolerance : left.programTolerance = right.programTolerance
  programPresolve : left.programPresolve = right.programPresolve

theorem Config.Alike.refl {R : Type} (config : Config R) : config.Alike config :=
  ⟨rfl, rfl, rfl, rfl, rfl, rfl, rfl, rfl⟩

/-- Outcomes are refused for the same cause, or both are answered, with related answers. -/
def Except.Both {Answer Other : Type} (related : Answer → Other → Prop)
    (left : Except Error Answer) (right : Except Error Other) : Prop :=
  (∃ cause, left = .error cause ∧ right = .error cause) ∨
    ∃ answer other, left = .ok answer ∧ right = .ok other ∧ related answer other

/-- Vectors with the same items, in blocks of any size. -/
structure SegmentedVector.Alike {Item : Type} (left right : SegmentedVector Item) : Prop where
  valid : WellFormed left
  otherValid : WellFormed right
  items : left.toList = right.toList

namespace SegmentedVector.Alike
variable {Item : Type} {left right : SegmentedVector Item} (alike : Alike left right)

include alike in
theorem length : left.length = right.length := by
  rw [← length_toList left alike.valid, ← length_toList right alike.otherValid, alike.items]

include alike in
theorem overwriteLeading (items : List Item) :
    Except.Both Alike (left.overwriteLeading items) (right.overwriteLeading items) := by
  rcases Nat.lt_or_ge left.length items.length with long | fits
  · refine Or.inl ⟨.sourceTooLong items.length left.length, ?_, ?_⟩
    · rw [SegmentedVector.overwriteLeading, if_pos long]
    · rw [SegmentedVector.overwriteLeading, if_pos (alike.length ▸ long), alike.length]
  · obtain ⟨written, accepted, valid, _, _, found⟩ :=
      overwriteLeading_spec left items alike.valid fits
    obtain ⟨other, taken, otherValid, _, _, otherFound⟩ :=
      overwriteLeading_spec right items alike.otherValid (alike.length ▸ fits)
    refine Or.inr ⟨written, other, accepted, taken, valid, otherValid, ?_⟩
    rw [found, otherFound, alike.items]

include alike in
theorem set (index : Int) (item : Item) :
    Except.Both Alike (left.set index item) (right.set index item) := by
  have position : left.position index = right.position index := by
    unfold SegmentedVector.position
    rw [alike.length]
  unfold SegmentedVector.set
  rw [position]
  cases right.position index with
  | error cause => exact Or.inl ⟨cause, rfl, rfl⟩
  | ok place =>
      refine Or.inr ⟨_, _, rfl, rfl, write_wellFormed left place item alike.valid,
        write_wellFormed right place item alike.otherValid, ?_⟩
      rw [toList_write _ _ _ alike.valid, toList_write _ _ _ alike.otherValid, alike.items]

end SegmentedVector.Alike

theorem Stored.overwrite_alike {Item : Type} {left right : Stored Item}
    (alike : left.vector.Alike right.vector) (items : List Item) :
    (left.overwrite items).vector.Alike (right.overwrite items).vector := by
  unfold Stored.overwrite
  rcases alike.overwriteLeading items with
    ⟨cause, refused, other⟩ | ⟨written, other, accepted, taken, later⟩
  · rw [refused, other]
    exact alike
  · rw [accepted, taken]
    exact later

/-! ### Methods -/

namespace Environment
variable {R Systems Others Programs : Type} [Scalar R]

/-- Two methods give the same answers to the systems of a problem, now and after any further use:
some relation that holds of their states is kept by every use. The key of a system names its
matrix. -/
def SystemsAlike (environment : Environment R Systems Programs)
    (peer : Environment R Others Programs) (problem : Problem R) (left : Systems)
    (right : Others) : Prop :=
  ∃ related : Systems → Others → Prop, related left right ∧ ∀ one other, related one other →
    related (environment.forgetSystem one) (peer.forgetSystem other) ∧
    ∀ rhs key,
      (environment.solveSystem one (Kkt.matrix problem key) rhs key).1 =
        (peer.solveSystem other (Kkt.matrix problem key) rhs key).1 ∧
      related (environment.solveSystem one (Kkt.matrix problem key) rhs key).2.2
        (peer.solveSystem other (Kkt.matrix problem key) rhs key).2.2

/-- Two methods give the same answers to programmes, now and after any further use. -/
def ProgramsAlike (environment : Environment R Systems Programs)
    (peer : Environment R Others Programs) (left right : Programs) : Prop :=
  ∃ related : Programs → Programs → Prop, related left right ∧
    ∀ one other program, related one other →
      (environment.solveProgram one program).1 = (peer.solveProgram other program).1 ∧
      related (environment.solveProgram one program).2 (peer.solveProgram other program).2

variable {environment : Environment R Systems Programs} {peer : Environment R Others Programs}
variable {problem : Problem R}

theorem SystemsAlike.forget {left : Systems} {right : Others}
    (alike : environment.SystemsAlike peer problem left right) :
    environment.SystemsAlike peer problem (environment.forgetSystem left)
      (peer.forgetSystem right) := by
  obtain ⟨related, here, kept⟩ := alike
  exact ⟨related, (kept left right here).1, kept⟩

theorem SystemsAlike.solve {left : Systems} {right : Others}
    (alike : environment.SystemsAlike peer problem left right) (rhs : List R) (key : List Nat) :
    (environment.solveSystem left (Kkt.matrix problem key) rhs key).1 =
        (peer.solveSystem right (Kkt.matrix problem key) rhs key).1 ∧
      environment.SystemsAlike peer problem
        (environment.solveSystem left (Kkt.matrix problem key) rhs key).2.2
        (peer.solveSystem right (Kkt.matrix problem key) rhs key).2.2 := by
  obtain ⟨related, here, kept⟩ := alike
  obtain ⟨answer, later⟩ := (kept left right here).2 rhs key
  exact ⟨answer, related, later, kept⟩

omit [Scalar R] in
theorem ProgramsAlike.solve {left right : Programs}
    (alike : environment.ProgramsAlike peer left right) (program : LinearProgram R) :
    (environment.solveProgram left program).1 = (peer.solveProgram right program).1 ∧
      environment.ProgramsAlike peer (environment.solveProgram left program).2
        (peer.solveProgram right program).2 := by
  obtain ⟨related, here, kept⟩ := alike
  obtain ⟨answer, later⟩ := kept left right program here
  exact ⟨answer, related, later, kept⟩

/-- The same for a programme over the rows of a problem. -/
theorem ProgramsAlike.solveCost {left right : Programs}
    (alike : environment.ProgramsAlike peer left right) (problem : Problem R)
    (options : ProgramOptions R) (cost : List R) :
    (PhaseOne.solveCost environment.solveProgram problem options left cost).1 =
        (PhaseOne.solveCost peer.solveProgram problem options right cost).1 ∧
      environment.ProgramsAlike peer
        (PhaseOne.solveCost environment.solveProgram problem options left cost).2
        (PhaseOne.solveCost peer.solveProgram problem options right cost).2 := by
  obtain ⟨answer, later⟩ :=
    alike.solve ⟨cost, some (PhaseOne.rows problem, PhaseOne.bounds problem), options⟩
  exact ⟨congrArg (LinearProgram.interpret _) answer, later⟩

end Environment

/-! ### Solvers -/

namespace Solver
variable {R Systems Others Programs : Type} [Scalar R]
variable (environment : Environment R Systems Programs) (peer : Environment R Others Programs)

/-- The solvers answer alike, each with its own methods. Their verdicts are compared only if they
are `judged`; a run forms a verdict of its own before it looks at it. -/
structure Alike (judged : Prop) (left : Solver R Systems Programs)
    (right : Solver R Others Programs) : Prop where
  problem : left.problem = right.problem
  config : left.config.Alike right.config
  iterate : left.iterate.vector.Alike right.iterate.vector
  multipliers : left.multipliers.vector.Alike right.multipliers.vector
  working : left.working = right.working
  direction : left.direction = right.direction
  blocking : left.blocking = right.blocking
  verdict : judged → left.verdict = right.verdict
  iterations : left.iterations = right.iterations
  history : left.history = right.history
  stepLength : left.stepLength = right.stepLength
  toInclude : left.toInclude = right.toInclude
  toExclude : left.toExclude = right.toExclude
  clockReadings : left.clockReadings = right.clockReadings
  systems : environment.SystemsAlike peer left.problem left.systems right.systems
  programs : environment.ProgramsAlike peer left.programs right.programs
  clock : environment.elapsed = peer.elapsed

/-- A step gives the same answer for both solvers and leaves them alike. -/
def Together {Answer : Type} (judged : Prop) (left : Answer × Solver R Systems Programs)
    (right : Answer × Solver R Others Programs) : Prop :=
  left.1 = right.1 ∧ Alike environment peer judged left.2 right.2

variable {environment peer} {judged : Prop}
variable {left : Solver R Systems Programs} {right : Solver R Others Programs}

theorem Together.split {Answer : Type} {left : Answer × Solver R Systems Programs}
    {right : Answer × Solver R Others Programs}
    (together : Together environment peer judged left right) :
    ∃ answer one other, left = (answer, one) ∧ right = (answer, other) ∧
      Alike environment peer judged one other :=
  ⟨right.1, left.2, right.2, Prod.ext together.1 rfl, rfl, together.2⟩

theorem Together.map {Answer Reply : Type} {left : Answer × Solver R Systems Programs}
    {right : Answer × Solver R Others Programs}
    (together : Together environment peer judged left right) (reply : Answer → Reply) :
    Together environment peer judged (left.map reply id) (right.map reply id) :=
  ⟨congrArg reply together.1, together.2⟩

namespace Alike
variable (alike : Alike environment peer judged left right)

/-! ### What is read -/

include alike in
theorem point : left.point = right.point := alike.iterate.items

include alike in
theorem multiplierList : left.multiplierList = right.multiplierList := alike.multipliers.items

include alike in
theorem equalityCount : left.equalityCount = right.equalityCount := by
  unfold Solver.equalityCount
  rw [alike.problem]

include alike in
theorem inequalityCount : left.inequalityCount = right.inequalityCount := by
  unfold Solver.inequalityCount
  rw [alike.problem]

include alike in
theorem slackTolerance : left.slackTolerance = right.slackTolerance :=
  congrArg Tolerance.mk alike.config.slackTolerance

include alike in
theorem solutionTolerance : left.solutionTolerance = right.solutionTolerance :=
  congrArg Tolerance.mk alike.config.solutionTolerance

include alike in
theorem programOptions : left.programOptions = right.programOptions := by
  unfold Solver.programOptions
  rw [alike.config.programPresolve, alike.config.programTolerance, alike.config.programTimeLimit]

include alike in
theorem judge {other : Prop} (verdict : other → left.verdict = right.verdict) :
    Alike environment peer other left right :=
  { alike with verdict }

include alike in
theorem equalityMultipliers : left.equalityMultipliers = right.equalityMultipliers := by
  unfold Solver.equalityMultipliers
  rw [alike.multiplierList, alike.equalityCount]

include alike in
theorem inequalityMultipliers : left.inequalityMultipliers = right.inequalityMultipliers := by
  unfold Solver.inequalityMultipliers
  rw [alike.multiplierList, alike.equalityCount]

include alike in
theorem multipliersAt (rows : List Nat) : left.multipliersAt rows = right.multipliersAt rows := by
  unfold Solver.multipliersAt
  rw [alike.inequalityMultipliers]

include alike in
theorem activeMultipliers : left.activeMultipliers = right.activeMultipliers := by
  unfold Solver.activeMultipliers
  rw [alike.equalityMultipliers, alike.multipliersAt, alike.working]

include alike in
theorem includedEntries : left.includedEntries = right.includedEntries := by
  simp only [Solver.includedEntries, alike.working, alike.multipliersAt]

include alike in
theorem isFeasible (onlyExcluded : Bool) :
    left.isFeasible onlyExcluded = right.isFeasible onlyExcluded := by
  unfold Solver.isFeasible
  rw [alike.problem, alike.slackTolerance, alike.point, alike.working]

include alike in
theorem candidates (direction : List R) :
    left.candidates direction = right.candidates direction := by
  unfold Solver.candidates
  rw [alike.problem, alike.point, alike.working]

include alike in
theorem stepLimit (direction : List R) : left.stepLimit direction = right.stepLimit direction := by
  unfold Solver.stepLimit
  rw [alike.slackTolerance, alike.solutionTolerance, alike.candidates]

include alike in
theorem stands (direction : List R) : left.stands direction = right.stands direction := by
  unfold Solver.stands
  rw [alike.solutionTolerance, alike.point]

include alike in
theorem rowToExclude : left.rowToExclude = right.rowToExclude := by
  unfold Solver.rowToExclude
  rw [alike.solutionTolerance, alike.working, alike.includedEntries]

include alike in
theorem allFinite : left.allFinite = right.allFinite := by
  unfold Solver.allFinite
  rw [alike.point, alike.multiplierList]

include alike in
theorem result (verdict : left.verdict = right.verdict) : left.result = right.result := by
  unfold Solver.result
  rw [verdict, alike.point, alike.problem, alike.iterations, alike.working,
    alike.equalityMultipliers, alike.inequalityMultipliers]

end Alike

/-! ### Small steps -/

namespace Alike
variable (alike : Alike environment peer judged left right)

include alike in
/-- What is noted is not compared. -/
theorem note (entry other : Note R) : Alike environment peer judged (left.note entry) (right.note other) :=
  { alike with }

include alike in
theorem trace (entry other : Note R) :
    Alike environment peer judged (left.trace entry) (right.trace other) := by
  obtain ⟨notes, told⟩ := trace_frame left entry
  obtain ⟨otherNotes, otherTold⟩ := trace_frame right other
  rw [told, otherTold]
  exact { alike with }

include alike in
theorem noteAll (entries others : List (Note R)) :
    Alike environment peer judged (left.noteAll entries) (right.noteAll others) := by
  obtain ⟨notes, told⟩ := noteAll_frame left entries
  obtain ⟨otherNotes, otherTold⟩ := noteAll_frame right others
  rw [told, otherTold]
  exact { alike with }

include alike in
theorem printLine (line other : TableLine R) :
    Alike environment peer judged (left.printLine line) (right.printLine other) := by
  obtain ⟨printed, told⟩ := printLine_frame left line
  obtain ⟨otherPrinted, otherTold⟩ := printLine_frame right other
  rw [told, otherTold]
  exact { alike with }

include alike in
theorem setPoint (entries : List R) :
    Alike environment peer judged (left.setPoint entries) (right.setPoint entries) :=
  { alike with iterate := Stored.overwrite_alike alike.iterate entries }

include alike in
theorem setMultipliers (entries : List R) :
    Alike environment peer judged (left.setMultipliers entries) (right.setMultipliers entries) :=
  { alike with multipliers := Stored.overwrite_alike alike.multipliers entries }

include alike in
theorem forgetSystem :
    Alike environment peer judged (left.forgetSystem environment) (right.forgetSystem peer) :=
  { alike with systems := alike.systems.forget }

include alike in
theorem includeRow (row : Nat) : Alike environment peer judged (left.includeRow environment row)
    (right.includeRow peer row) :=
  { alike with
    working := congrArg (WorkingSet.insert · row) alike.working
    systems := alike.systems.forget }

include alike in
theorem traceSlacks (moment other : Moment) :
    Alike environment peer judged (left.traceSlacks moment) (right.traceSlacks other) := by
  obtain ⟨notes, told⟩ := traceSlacks_frame left moment
  obtain ⟨otherNotes, otherTold⟩ := traceSlacks_frame right other
  rw [told, otherTold]
  exact { alike with }

include alike in
theorem excludeRow (row : Nat) : Alike environment peer judged (left.excludeRow environment row)
    (right.excludeRow peer row) := by
  have erased : Alike environment peer judged { left with working := left.working.erase row }
      { right with working := right.working.erase row } :=
    { alike with working := congrArg (WorkingSet.erase · row) alike.working }
  unfold Solver.excludeRow
  rw [alike.equalityMultipliers, alike.inequalityMultipliers]
  exact (erased.setMultipliers _).forgetSystem

include alike in
theorem storeMultipliers (included : List Nat) (found : List R) :
    Alike environment peer judged (left.storeMultipliers included found)
      (right.storeMultipliers included found) := by
  unfold Solver.storeMultipliers
  rw [alike.equalityCount, alike.inequalityMultipliers]
  exact alike.setMultipliers _

include alike in
theorem relax : Alike environment peer judged (left.relax environment) (right.relax peer) := by
  unfold Solver.relax
  rw [alike.includedEntries]
  split
  · exact alike
  · exact (alike.trace _ _).excludeRow _

end Alike

end Solver
end ConvexQP
