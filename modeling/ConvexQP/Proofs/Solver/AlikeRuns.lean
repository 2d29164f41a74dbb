import ConvexQP.Proofs.Solver.Alike
import ConvexQP.Proofs.Solver.Start

/-!
Runs of alike solvers. A pass, a start and a whole run give the same answer for both solvers and
leave them alike.
-/
namespace ConvexQP

namespace Solver
variable {R Systems Others Programs : Type} [Scalar R]
variable {environment : Environment R Systems Programs} {peer : Environment R Others Programs}
variable {judged : Prop} {left : Solver R Systems Programs} {right : Solver R Others Programs}

namespace Alike
variable (alike : Alike environment peer judged left right)

/-! ### A pass -/

include alike in
theorem systemAnswer : left.systemAnswer environment = right.systemAnswer peer ∧
    environment.SystemsAlike peer left.problem (left.systemsAfter environment)
      (right.systemsAfter peer) := by
  unfold Solver.systemAnswer Solver.systemsAfter
  rw [← alike.problem, ← alike.working]
  exact alike.systems.solve _ _

include alike in
theorem solveSubproblem : Together environment peer judged (left.solveSubproblem environment)
    (right.solveSubproblem peer) := by
  obtain ⟨answers, systems⟩ := alike.systemAnswer
  cases answer : right.systemAnswer peer with
  | some entries =>
      obtain ⟨notes, solved⟩ := solveSubproblem_some environment left entries (answers.trans answer)
      obtain ⟨otherNotes, otherSolved⟩ := solveSubproblem_some peer right entries answer
      have stored := alike.storeMultipliers right.working.included
        (entries.drop right.problem.size)
      rw [solved, otherSolved, alike.problem, alike.working]
      exact ⟨rfl, { stored with systems }⟩
  | none =>
      obtain ⟨notes, unsolved⟩ := solveSubproblem_none environment left (answers.trans answer)
      obtain ⟨otherNotes, otherUnsolved⟩ := solveSubproblem_none peer right answer
      rw [unsolved, otherUnsolved]
      exact ⟨rfl, { alike with systems }⟩

include alike in
theorem stepped (direction : List R) :
    Alike environment peer judged (left.stepped direction) (right.stepped direction) := by
  have moved : (left.stepped direction).iterate.vector.Alike
      (right.stepped direction).iterate.vector := by
    unfold Solver.stepped
    simp only [alike.stepLimit, alike.point]
    split
    · exact Stored.overwrite_alike alike.iterate _
    · exact alike.iterate
  have blocking : (left.stepped direction).blocking = (right.stepped direction).blocking := by
    unfold Solver.stepped
    simp only [alike.stepLimit, alike.candidates, alike.blocking]
  have length : (left.stepped direction).stepLength = (right.stepped direction).stepLength :=
    congrArg (fun limit : StepLimit R Nat => some limit.length) (alike.stepLimit direction)
  exact { alike with
    iterate := moved, direction := rfl, blocking, stepLength := length, verdict := fun _ => rfl }

include alike in
theorem acceptSolution (direction : List R) : Together environment peer judged
    (left.acceptSolution direction) (right.acceptSolution direction) := by
  have same := alike.stands direction
  cases short : right.stands direction with
  | true =>
      obtain ⟨notes, stayed⟩ := acceptSolution_stands left direction (same.trans short)
      obtain ⟨otherNotes, otherStayed⟩ := acceptSolution_stands right direction short
      rw [stayed, otherStayed]
      exact ⟨rfl, { alike with direction := rfl, verdict := fun _ => rfl }⟩
  | false =>
      obtain ⟨notes, moved⟩ := acceptSolution_moves left direction (same.trans short)
      obtain ⟨otherNotes, otherMoved⟩ := acceptSolution_moves right direction short
      rw [moved, otherMoved]
      refine ⟨?_, { alike.stepped direction with }⟩
      exact congrArg (fun limit => decide (0 < limit.length)) (alike.stepLimit direction)

include alike in
theorem acceptFailure : Together environment peer judged left.acceptFailure right.acceptFailure := by
  obtain ⟨notes, failed⟩ := acceptFailure_frame left
  obtain ⟨otherNotes, otherFailed⟩ := acceptFailure_frame right
  rw [failed, otherFailed, alike.isFeasible]
  exact ⟨rfl, { alike with verdict := fun _ => rfl }⟩

include alike in
theorem respond (target : Option (List R)) : Together environment peer judged
    (left.respond environment target) (right.respond peer target) := by
  unfold Solver.respond
  rw [alike.working]
  cases target with
  | some target =>
      simp only [alike.point]
      exact (alike.acceptSolution (Linear.subtract target right.point)).map some
  | none =>
      simp only
      split
      · exact alike.acceptFailure.map some
      · exact ⟨rfl, alike.relax⟩

end Alike

theorem attempt_alike (rounds : Nat) (alike : Alike environment peer judged left right) :
    Together environment peer judged (attempt environment rounds left)
      (attempt peer rounds right) := by
  induction rounds generalizing left right with
  | zero => exact ⟨rfl, alike⟩
  | succ rounds ih =>
      obtain ⟨target, told⟩ := alike.solveSubproblem
      obtain ⟨answer, next, otherNext, acted, otherActed, later⟩ :=
        (told.respond (right.solveSubproblem peer).1).split
      unfold attempt
      simp only [target, acted, otherActed]
      cases answer with
      | some moved => exact ⟨rfl, later⟩
      | none => exact ih later

/-- The row that is to enter the working set, and the row that is to leave it. -/
def suggestion (solver : Solver R Systems Programs) : Option Nat × Option Nat :=
  let toInclude := if solver.inequalityCount = 0 then none else solver.rowToInclude
  (toInclude, if solver.inequalityCount = 0 || toInclude.isSome then none
    else solver.rowToExclude)

/-- Changes the working set by a suggestion. -/
def takeUp (environment : Environment R Systems Programs) (solver : Solver R Systems Programs)
    (suggested : Option Nat × Option Nat) : Bool × Solver R Systems Programs :=
  let told := ({ solver with toInclude := suggested.1, toExclude := suggested.2 }.trace
    (.workingSet solver.working)).trace (.suggestion suggested.1 suggested.2)
  match suggested.1, suggested.2 with
  | none, none => (false, { told with verdict := .optimal })
  | some row, _ => (true, { told.includeRow environment row with verdict := .approximate })
  | none, some row => (true, { told.excludeRow environment row with verdict := .approximate })

theorem revise_eq (solver : Solver R Systems Programs) :
    solver.revise environment = solver.takeUp environment solver.suggestion := rfl

namespace Alike

theorem stepOnce (alike : Alike environment peer judged left right) : Together environment peer judged
    (left.stepOnce environment) (right.stepOnce peer) := by
  unfold Solver.stepOnce
  rw [congrArg WorkingSet.includedCount alike.working]
  exact attempt_alike _ { alike with blocking := rfl, stepLength := rfl }

theorem suggestion (alike : Alike environment peer judged left right) :
    left.suggestion = right.suggestion := by
  unfold Solver.suggestion Solver.rowToInclude
  rw [alike.inequalityCount, alike.blocking, alike.rowToExclude]

theorem revise (alike : Alike environment peer judged left right) : Together environment peer judged
    (left.revise environment) (right.revise peer) := by
  rw [revise_eq, revise_eq, alike.suggestion]
  obtain ⟨toInclude, toExclude⟩ := right.suggestion
  have suggested : Alike environment peer judged { left with toInclude, toExclude }
      { right with toInclude, toExclude } :=
    { alike with toInclude := rfl, toExclude := rfl }
  have told := (suggested.trace (.workingSet left.working) (.workingSet right.working)).trace
    (.suggestion toInclude toExclude) (.suggestion toInclude toExclude)
  unfold takeUp
  cases toInclude with
  | some row => exact ⟨rfl, { told.includeRow row with verdict := fun _ => rfl }⟩
  | none =>
      cases toExclude with
      | some row => exact ⟨rfl, { told.excludeRow row with verdict := fun _ => rfl }⟩
      | none => exact ⟨rfl, { told with verdict := fun _ => rfl }⟩

theorem record (alike : Alike environment peer True left right) (moved : Bool) (before : List Nat) :
    Alike environment peer True (left.record moved before) (right.record moved before) := by
  obtain ⟨printed, recorded⟩ := record_frame left moved before
  obtain ⟨otherPrinted, otherRecorded⟩ := record_frame right moved before
  have count : left.countAfter moved before = right.countAfter moved before := by
    unfold countAfter
    rw [alike.working, alike.iterations]
  have entry : left.entryOf moved before = right.entryOf moved before := by
    unfold entryOf
    rw [count, alike.problem, alike.point, alike.stepLength, alike.direction, alike.working,
      alike.toInclude, alike.toExclude, alike.verdict trivial]
  have history : (left.counted moved before).history = (right.counted moved before).history := by
    unfold counted
    rw [alike.history, entry]
  rw [recorded, otherRecorded]
  exact { alike with iterations := count, history }

theorem pass (alike : Alike environment peer True left right) : Together environment peer True
    (left.pass environment) (right.pass peer) := by
  obtain ⟨moved, stepped⟩ := alike.stepOnce
  obtain ⟨again, changed⟩ := stepped.revise
  unfold Solver.pass
  simp only
  rw [moved, stepped.verdict trivial, stepped.allFinite, alike.working, alike.point]
  split
  · exact ⟨rfl, stepped.record _ _⟩
  · split
    · exact ⟨rfl, { (stepped.note .notFinite .notFinite).setPoint right.point with
        verdict := fun _ => rfl }⟩
    · exact ⟨again, changed.record _ _⟩

theorem overdue (alike : Alike environment peer judged left right) : Together environment peer judged
    (left.overdue environment) (right.overdue peer) := by
  unfold Solver.overdue
  rw [alike.config.timeLimit, alike.clockReadings, alike.clock]
  split
  · exact ⟨rfl, alike⟩
  · exact ⟨rfl, { alike with clockReadings := rfl }⟩

end Alike

theorem passes_alike (budget : Nat) (alike : Alike environment peer True left right) :
    Together environment peer True (passes environment budget left)
      (passes peer budget right) := by
  induction budget generalizing left right with
  | zero => exact ⟨rfl, alike⟩
  | succ budget ih =>
      obtain ⟨late, clocked, otherClocked, looked, otherLooked, later⟩ := alike.overdue.split
      unfold passes
      rw [alike.config.iterationLimit, alike.iterations, looked, otherLooked]
      split
      · exact ⟨rfl, { alike with verdict := fun _ => rfl }⟩
      · cases late with
        | some limit => exact ⟨rfl, { later with verdict := fun _ => rfl }⟩
        | none =>
            obtain ⟨again, _, _, passed, otherPassed, next⟩ := later.pass.split
            simp only [passed, otherPassed]
            cases again with
            | true => exact ih next
            | false => exact ⟨rfl, next⟩

/-! ### The start of a run -/

theorem trim_alike (steps : Nat) (alike : Alike environment peer judged left right) :
    Alike environment peer judged (trim environment steps left) (trim peer steps right) := by
  induction steps generalizing left right with
  | zero => exact alike
  | succ steps ih =>
      unfold trim
      rw [alike.problem, alike.equalityCount, alike.working]
      split
      · exact ih alike.relax
      · exact alike

namespace Alike
variable (alike : Alike environment peer judged left right)

include alike in
theorem includeTight : Alike environment peer judged left.includeTight right.includeTight := by
  have working : left.includeTight.working = right.includeTight.working := by
    unfold Solver.includeTight
    rw [alike.working, alike.problem, alike.point, alike.config.slackTolerance]
  exact { alike with working }

include alike in
theorem activate : Alike environment peer True (left.activate environment)
    (right.activate peer) := by
  have filled := alike.includeTight
  have trimmed : Alike environment peer judged
      (trim environment left.includeTight.working.includedCount left.includeTight)
      (trim peer right.includeTight.working.includedCount right.includeTight) := by
    rw [filled.working]
    exact trim_alike _ filled
  exact { trimmed.forgetSystem with verdict := fun _ => rfl }

include alike in
theorem begin (feasible : Bool) : Together environment peer True (left.begin environment feasible)
    (right.begin peer feasible) := by
  have settled : Alike environment peer True
      (if feasible then left.activate environment
        else { left with verdict := .infeasible }.setPoint (Linear.zeros left.problem.size))
      (if feasible then right.activate peer
        else { right with verdict := .infeasible }.setPoint (Linear.zeros right.problem.size)) := by
    split
    · exact alike.activate
    · have worst : Alike environment peer True { left with verdict := .infeasible }
          { right with verdict := .infeasible } := { alike with verdict := fun _ => rfl }
      rw [congrArg Problem.size alike.problem]
      exact worst.setPoint _
  have traced := settled.traceSlacks .initial .initial
  exact ⟨congrArg Verdict.isFeasible (traced.verdict trivial), traced⟩

include alike in
theorem seedMultipliers (seeds : List R) : Except.Both (Alike environment peer judged)
    (left.seedMultipliers seeds) (right.seedMultipliers seeds) := by
  unfold Solver.seedMultipliers
  rw [alike.inequalityMultipliers, alike.equalityMultipliers]
  simp only
  split
  · exact Or.inr ⟨left, right, rfl, rfl, alike⟩
  · split
    · exact Or.inr ⟨_, _, rfl, rfl, alike.setMultipliers _⟩
    · split
      · exact Or.inr ⟨_, _, rfl, rfl, alike.setMultipliers _⟩
      · exact Or.inl ⟨.shapesDiffer, rfl, rfl⟩

include alike in
/-- Tracing adds notes to a search and nothing else. -/
theorem searched (given : Option (List R)) :
    (left.searched environment given).outcome = (right.searched peer given).outcome ∧
      (left.searched environment given).info.status =
        (right.searched peer given).info.status ∧
      environment.ProgramsAlike peer (left.searched environment given).programs
        (right.searched peer given).programs := by
  unfold Solver.searched PhaseOne.search
  rw [alike.problem, alike.programOptions]
  simp only
  split
  · exact ⟨rfl, rfl, alike.programs⟩
  · split
    · exact ⟨rfl, rfl, alike.programs⟩
    · rename_i gradient _
      obtain ⟨first, later⟩ := alike.programs.solveCost right.problem right.programOptions
        (PhaseOne.costOf right.problem gradient)
      obtain ⟨second, last⟩ := later.solveCost right.problem right.programOptions
        (Linear.zeros (PhaseOne.costOf right.problem gradient).length)
      rw [first]
      split
      · simp only [second]
        exact ⟨trivial, trivial, last⟩
      · exact ⟨rfl, rfl, later⟩

include alike in
/-- A start that is not refused leaves verdicts that agree, whatever they were. -/
theorem settle (start : PhaseOne.Start R) (status : ProgramStatus) :
    Together environment peer (judged ∨ ∃ found, (left.settle environment start status).1 = .ok found)
      (left.settle environment start status) (right.settle peer start status) := by
  unfold Solver.settle
  rw [alike.iterate.length]
  split
  · split
    · exact ⟨rfl, alike.judge fun known => alike.verdict (by simpa using known)⟩
    · have placed := alike.setPoint start.point
      rcases placed.seedMultipliers start.multipliers with
        ⟨cause, refused, otherRefused⟩ | ⟨seeded, other, taken, otherTaken, same⟩
      · rw [refused, otherRefused]
        exact ⟨rfl, placed.judge fun known => placed.verdict (by simpa using known)⟩
      · rw [taken, otherTaken]
        obtain ⟨feasible, begun⟩ := same.begin true
        exact ⟨congrArg Except.ok feasible, begun.judge fun _ => begun.verdict trivial⟩
  · split
    · obtain ⟨feasible, begun⟩ := alike.begin false
      exact ⟨congrArg Except.ok feasible, begun.judge fun _ => begun.verdict trivial⟩
    · have failed : Alike environment peer True
          { left.note (.noStart status) with verdict := .failed }
          { right.note (.noStart status) with verdict := .failed } :=
        { alike with verdict := fun _ => rfl }
      exact ⟨rfl, (failed.setPoint start.point).judge fun _ => rfl⟩

include alike in
theorem searchStart (given : Option (List R)) :
    Together environment peer (judged ∨ ∃ found, (left.searchStart environment given).1 = .ok found)
      (left.searchStart environment given) (right.searchStart peer given) := by
  obtain ⟨outcome, status, programs⟩ := alike.searched given
  have searched : Alike environment peer judged
      { left with programs := (left.searched environment given).programs }
      { right with programs := (right.searched peer given).programs } :=
    { alike with programs }
  cases found : (right.searched peer given).outcome with
  | ok start =>
      obtain ⟨notes, told⟩ := searchStart_settle environment left given start (outcome.trans found)
      obtain ⟨otherNotes, otherTold⟩ := searchStart_settle peer right given start found
      rw [told, otherTold, status]
      have noted : Alike environment peer judged
          { left with programs := (left.searched environment given).programs, notes }
          { right with
            programs := (right.searched peer given).programs, notes := otherNotes } :=
        { searched with }
      exact noted.settle start _
  | error cause =>
      have told := searched.noteAll (left.searched environment given).notes
        (right.searched peer given).notes
      have refused := outcome.trans found
      simp only [Solver.searched] at refused found told
      simp only [Solver.searchStart, refused, found]
      exact ⟨rfl, told.judge fun known => told.verdict (by simpa using known)⟩

include alike in
theorem findStart (kick : Option (KickStart R)) :
    Together environment peer (judged ∨ ∃ found, (left.findStart environment kick).1 = .ok found)
      (left.findStart environment kick) (right.findStart peer kick) := by
  have emptied : Alike environment peer judged { left with working := left.working.clear }
      { right with working := right.working.clear } :=
    { alike with working := congrArg WorkingSet.clear alike.working }
  unfold Solver.findStart
  cases kick with
  | none => exact emptied.searchStart none
  | some kick =>
      have placed := emptied.setPoint kick.entries
      simp only [congrArg Problem.size alike.problem, placed.isFeasible]
      split
      · exact ⟨rfl, emptied.judge fun known => emptied.verdict (by simpa using known)⟩
      · split
        · split
          · obtain ⟨feasible, begun⟩ := placed.begin true
            exact ⟨congrArg Except.ok feasible, begun.judge fun _ => begun.verdict trivial⟩
          · exact placed.searchStart _
        · exact emptied.searchStart none

end Alike

/-! ### A run -/

theorem Alike.reset (alike : Alike environment peer judged left right) :
    Alike environment peer judged (left.reset environment) (right.reset peer) := by
  unfold Solver.reset
  rw [alike.equalityCount, alike.inequalityCount, congrArg Problem.size alike.problem]
  have cleared := (alike.setPoint (Linear.zeros right.problem.size)).setMultipliers
    (Linear.zeros (right.equalityCount + right.inequalityCount))
  exact { cleared with
    working := congrArg WorkingSet.clear alike.working
    direction := rfl
    blocking := rfl
    iterations := rfl
    history := rfl
    stepLength := rfl
    toInclude := rfl
    toExclude := rfl
    clockReadings := rfl
    systems := alike.systems.forget }

/-- Runs that start alike end alike: each is refused for the same cause, or gives the same
result. Verdicts agree in the end unless the start is refused. -/
theorem Alike.solve (budget : Nat) (kick : Option (KickStart R))
    (alike : Alike environment peer judged (left.reset environment) (right.reset peer)) :
    Together environment peer (judged ∨ ∃ answer, (solve environment budget left kick).1 = .ok answer)
      (solve environment budget left kick) (solve peer budget right kick) := by
  obtain ⟨outcome, started, otherStarted, opens, otherOpens, begun⟩ := (alike.findStart kick).split
  rw [opens] at begun
  unfold Solver.solve
  simp only [opens, otherOpens]
  cases outcome with
  | error cause => exact ⟨rfl, begun.judge fun known => begun.verdict (by simpa using known)⟩
  | ok found =>
      have verdict := begun.verdict (Or.inr ⟨found, rfl⟩)
      cases found with
      | false =>
          exact ⟨congrArg (Except.ok ∘ some) (begun.result verdict), begun.judge fun _ => verdict⟩
      | true =>
          obtain ⟨ended, last, otherLast, passed, otherPassed, ran⟩ :=
            (passes_alike budget (begun.judge fun _ => verdict)).split
          simp only [passed, otherPassed]
          cases ended with
          | none => exact ⟨rfl, ran.judge fun _ => ran.verdict trivial⟩
          | some done =>
              have closed := ran.printLine (.closing last.verdict last.iterations)
                (.closing otherLast.verdict otherLast.iterations)
              exact ⟨congrArg (Except.ok ∘ some) (closed.result (closed.verdict trivial)),
                closed.judge fun _ => closed.verdict trivial⟩

end Solver
end ConvexQP
