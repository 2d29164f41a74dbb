import ConvexQP.Proofs.Solver.Frames
import ConvexQP.Solver.Session
import Mathlib.Logic.Relation

/-!
The writes of a solver. Whatever a request does is a row of single writes, so what each write keeps
is kept by every request, in any order and also when the request is refused half-way.
-/
namespace ConvexQP

/-- One move of rows between the two sides. -/
inductive WorkingSet.Moves (set : WorkingSet) : WorkingSet → Prop
  | insert (row : Nat) : Moves set (set.insert row)
  | erase (row : Nat) : Moves set (set.erase row)
  | fill : Moves set set.fill
  | clear : Moves set set.clear

theorem WorkingSet.Moves.size {before after : WorkingSet} (moved : before.Moves after) :
    after.size = before.size := by
  cases moved with
  | insert row => exact size_insert before row
  | erase row => exact size_erase before row
  | fill => exact size_fill before
  | clear => exact size_clear before

namespace Solver
variable {R Systems Programs : Type} [Scalar R] (environment : Environment R Systems Programs)

/-- One write to a solver. -/
inductive Write : Solver R Systems Programs → Solver R Systems Programs → Prop
  /-- Fields that no other write names are written at will. -/
  | aside {before after : Solver R Systems Programs} (problem : after.problem = before.problem)
      (config : after.config = before.config) (working : after.working = before.working)
      (iterate : after.iterate = before.iterate)
      (multipliers : after.multipliers = before.multipliers)
      (systems : after.systems = before.systems) (blocking : after.blocking = before.blocking) :
      Write before after
  | point (solver : Solver R Systems Programs) (entries : List R) :
      Write solver (solver.setPoint entries)
  | multipliers (solver : Solver R Systems Programs) (entries : List R) :
      Write solver (solver.setMultipliers entries)
  | multiplier (solver : Solver R Systems Programs) (index : Int) (entry : R)
      (vector : SegmentedVector R)
      (accepted : solver.multipliers.vector.set index entry = .ok vector) :
      Write solver { solver with multipliers := { solver.multipliers with vector } }
  | working (solver : Solver R Systems Programs) (working : WorkingSet)
      (moved : solver.working.Moves working) : Write solver { solver with working }
  | blocking (solver : Solver R Systems Programs) (stopping : Option Nat)
      (out : ∀ row ∈ stopping, row ∈ solver.working.excluded) :
      Write solver { solver with blocking := stopping }
  | solves (solver : Solver R Systems Programs) (rhs : List R) (key : List Nat) :
      Write solver { solver with systems := (environment.solveSystem solver.systems
        (Kkt.matrix solver.problem key) rhs key).2.2 }
  | forgets (solver : Solver R Systems Programs) : Write solver (solver.forgetSystem environment)

/-- Any number of writes, one after the other. -/
abbrev Writes : Solver R Systems Programs → Solver R Systems Programs → Prop :=
  Relation.ReflTransGen (Write environment)

namespace Writes
variable {environment : Environment R Systems Programs}
variable {before middle after : Solver R Systems Programs}

theorem aside (problem : after.problem = before.problem) (config : after.config = before.config)
    (working : after.working = before.working) (iterate : after.iterate = before.iterate)
    (multipliers : after.multipliers = before.multipliers)
    (systems : after.systems = before.systems) (blocking : after.blocking = before.blocking) :
    Writes environment before after :=
  .single (.aside problem config working iterate multipliers systems blocking)

theorem trans (first : Writes environment before middle)
    (second : Writes environment middle after) : Writes environment before after :=
  Relation.ReflTransGen.trans first second

/-- Writes to a state that differs in other fields only. -/
theorem preceded (writes : Writes environment middle after)
    (problem : middle.problem = before.problem) (config : middle.config = before.config)
    (working : middle.working = before.working) (iterate : middle.iterate = before.iterate)
    (multipliers : middle.multipliers = before.multipliers)
    (systems : middle.systems = before.systems) (blocking : middle.blocking = before.blocking) :
    Writes environment before after :=
  (aside problem config working iterate multipliers systems blocking).trans writes

end Writes

variable (solver : Solver R Systems Programs)

theorem trace_writes (entry : Note R) : Writes environment solver (solver.trace entry) := by
  obtain ⟨notes, told⟩ := trace_frame solver entry
  rw [told]
  exact .aside rfl rfl rfl rfl rfl rfl rfl

theorem noteAll_writes (entries : List (Note R)) :
    Writes environment solver (solver.noteAll entries) := by
  obtain ⟨notes, told⟩ := noteAll_frame solver entries
  rw [told]
  exact .aside rfl rfl rfl rfl rfl rfl rfl

theorem traceSlacks_writes (moment : Moment) :
    Writes environment solver (solver.traceSlacks moment) := by
  obtain ⟨notes, told⟩ := traceSlacks_frame solver moment
  rw [told]
  exact .aside rfl rfl rfl rfl rfl rfl rfl

theorem setPoint_writes (entries : List R) :
    Writes environment solver (solver.setPoint entries) := .single (.point solver entries)

theorem setMultipliers_writes (entries : List R) :
    Writes environment solver (solver.setMultipliers entries) :=
  .single (.multipliers solver entries)

theorem forgetSystem_writes : Writes environment solver (solver.forgetSystem environment) :=
  .single (.forgets solver)

theorem working_writes (working : WorkingSet) (moved : solver.working.Moves working) :
    Writes environment solver { solver with working } := .single (.working solver working moved)

/-- No row stops a step before it is taken. -/
theorem unblocked_writes :
    Writes environment solver { solver with blocking := none, stepLength := none } := by
  have free : Writes environment solver { solver with blocking := none } :=
    .single (.blocking solver none fun _ absent => absurd absent (Option.not_mem_none _))
  exact free.trans (.aside rfl rfl rfl rfl rfl rfl rfl)

theorem includeRow_writes (row : Nat) :
    Writes environment solver (solver.includeRow environment row) :=
  (working_writes environment solver _ (.insert row)).trans (forgetSystem_writes environment _)

theorem excludeRow_writes (row : Nat) :
    Writes environment solver (solver.excludeRow environment row) :=
  ((working_writes environment solver _ (.erase row)).trans
    (setMultipliers_writes environment _ _)).trans (forgetSystem_writes environment _)

/-! ### A pass -/

theorem solveSubproblem_writes :
    Writes environment solver (solver.solveSubproblem environment).2 := by
  have served : Writes environment solver
      { solver with systems := solver.systemsAfter environment } := .single (.solves solver _ _)
  cases answer : solver.systemAnswer environment with
  | some entries =>
      obtain ⟨notes, solved⟩ := solveSubproblem_some environment solver entries answer
      rw [solved]
      exact (served.trans (setMultipliers_writes environment _ _)).trans
        (.aside rfl rfl rfl rfl rfl rfl rfl)
  | none =>
      obtain ⟨notes, unsolved⟩ := solveSubproblem_none environment solver answer
      rw [unsolved]
      exact served.trans (.aside rfl rfl rfl rfl rfl rfl rfl)

theorem relax_writes : Writes environment solver (solver.relax environment) := by
  unfold relax
  split
  · exact .refl
  · exact (trace_writes environment solver _).trans (excludeRow_writes environment _ _)

theorem stepped_writes (direction : List R) :
    Writes environment solver (solver.stepped direction) := by
  let limit := solver.stepLimit direction
  have placed : Writes environment solver { solver with
      iterate := if 0 < limit.length then
          solver.iterate.overwrite (Linear.addScaled limit.length direction solver.point)
        else solver.iterate } := by
    split
    · exact setPoint_writes environment solver _
    · exact .refl
  by_cases free : (solver.candidates direction).isEmpty = true
  · refine placed.trans (.aside rfl rfl rfl rfl rfl rfl ?_)
    simp only [stepped, free, if_true]
  · have stopped : Writes environment solver _ :=
      placed.tail (.blocking _ limit.blocking (stepLimit_blocking solver direction))
    refine stopped.trans (.aside rfl rfl rfl rfl rfl rfl ?_)
    simp only [stepped, free, if_false, Bool.false_eq_true, limit]

theorem acceptSolution_writes (direction : List R) :
    Writes environment solver (solver.acceptSolution direction).2 := by
  cases short : solver.stands direction with
  | true =>
      obtain ⟨notes, stayed⟩ := acceptSolution_stands solver direction short
      rw [stayed]
      exact .aside rfl rfl rfl rfl rfl rfl rfl
  | false =>
      obtain ⟨notes, moved⟩ := acceptSolution_moves solver direction short
      rw [moved]
      exact (stepped_writes environment solver direction).trans (.aside rfl rfl rfl rfl rfl rfl rfl)

theorem acceptFailure_writes : Writes environment solver solver.acceptFailure.2 := by
  obtain ⟨notes, failed⟩ := acceptFailure_frame solver
  rw [failed]
  exact .aside rfl rfl rfl rfl rfl rfl rfl

theorem respond_writes (target : Option (List R)) :
    Writes environment solver (solver.respond environment target).2 := by
  unfold respond
  split
  · exact acceptSolution_writes environment solver _
  · split
    · exact acceptFailure_writes environment solver
    · exact relax_writes environment solver

theorem attempt_writes (rounds : Nat) :
    Writes environment solver (attempt environment rounds solver).2 := by
  induction rounds generalizing solver with
  | zero => exact .refl
  | succ rounds ih =>
      have solved := solveSubproblem_writes environment solver
      have acted := solved.trans (respond_writes environment _
        (solver.solveSubproblem environment).1)
      unfold attempt
      simp only
      split
      · rename_i moved next decided
        rw [decided] at acted
        exact acted
      · rename_i next undecided
        rw [undecided] at acted
        exact acted.trans (ih next)

theorem stepOnce_writes : Writes environment solver (solver.stepOnce environment).2 :=
  (unblocked_writes environment solver).trans (attempt_writes environment _ _)

theorem revise_writes : Writes environment solver (solver.revise environment).2 := by
  rcases revise_cases environment solver with ⟨_, notes, revised⟩ | ⟨row, _, _, notes, revised⟩ |
    ⟨row, _, _, _, notes, revised⟩
  · rw [revised]
    exact .aside rfl rfl rfl rfl rfl rfl rfl
  · rw [revised]
    exact (includeRow_writes environment solver row).trans (.aside rfl rfl rfl rfl rfl rfl rfl)
  · rw [revised]
    exact (excludeRow_writes environment solver row).trans (.aside rfl rfl rfl rfl rfl rfl rfl)

theorem record_writes (moved : Bool) (before : List Nat) :
    Writes environment solver (solver.record moved before) := by
  obtain ⟨printed, recorded⟩ := record_frame solver moved before
  rw [recorded]
  exact .aside rfl rfl rfl rfl rfl rfl rfl

theorem pass_writes : Writes environment solver (solver.pass environment).2 := by
  have stepped := stepOnce_writes environment solver
  unfold pass
  simp only
  split
  · exact stepped.trans (record_writes environment _ _ _)
  · split
    · exact (stepped.trans (setPoint_writes environment _ solver.point)).trans (.aside rfl rfl rfl rfl rfl rfl rfl)
    · exact (stepped.trans (revise_writes environment _)).trans (record_writes environment _ _ _)

theorem overdue_writes : Writes environment solver (solver.overdue environment).2 := by
  unfold overdue
  split
  · exact .refl
  · exact .aside rfl rfl rfl rfl rfl rfl rfl

theorem passes_writes (budget : Nat) :
    Writes environment solver (passes environment budget solver).2 := by
  induction budget generalizing solver with
  | zero => exact .refl
  | succ budget ih =>
      have looked := overdue_writes environment solver
      unfold passes
      split
      · exact .aside rfl rfl rfl rfl rfl rfl rfl
      · split
        · rename_i limit after late
          rw [late] at looked
          exact looked.trans (.aside rfl rfl rfl rfl rfl rfl rfl)
        · rename_i after late
          rw [late] at looked
          have passed := looked.trans (pass_writes environment after)
          split
          · rename_i next again
            rw [again] at passed
            exact passed.trans (ih next)
          · rename_i next again
            rw [again] at passed
            exact passed

/-! ### The start of a run -/

theorem insertAll_writes (rows : List Nat) :
    Writes environment solver { solver with working := rows.foldl WorkingSet.insert solver.working } := by
  induction rows generalizing solver with
  | nil => exact .refl
  | cons row rest ih =>
      exact (working_writes environment solver _ (.insert row)).trans
        (ih { solver with working := solver.working.insert row })

theorem includeTight_writes : Writes environment solver solver.includeTight :=
  insertAll_writes environment solver _

theorem trim_writes (steps : Nat) : Writes environment solver (trim environment steps solver) := by
  induction steps generalizing solver with
  | zero => exact .refl
  | succ steps ih =>
      unfold trim
      split
      · exact (relax_writes environment solver).trans (ih _)
      · exact .refl

theorem activate_writes : Writes environment solver (solver.activate environment) :=
  ((includeTight_writes environment solver).trans (trim_writes environment _ _)).trans
    ((forgetSystem_writes environment _).trans (.aside rfl rfl rfl rfl rfl rfl rfl))

theorem begin_writes (feasible : Bool) :
    Writes environment solver (solver.begin environment feasible).2 := by
  have settled : Writes environment solver (if feasible then solver.activate environment
      else { solver with verdict := .infeasible }.setPoint
        (Linear.zeros solver.problem.size)) := by
    split
    · exact activate_writes environment solver
    · exact (setPoint_writes environment { solver with verdict := .infeasible } _).preceded
        rfl rfl rfl rfl rfl rfl rfl
  exact settled.trans (traceSlacks_writes environment _ .initial)

theorem seedMultipliers_writes (seeds : List R) (seeded : Solver R Systems Programs)
    (accepted : solver.seedMultipliers seeds = .ok seeded) :
    Writes environment solver seeded := by
  unfold seedMultipliers at accepted
  simp only at accepted
  split at accepted
  · rw [← Except.ok.inj accepted]
  · split at accepted
    · rw [← Except.ok.inj accepted]
      exact setMultipliers_writes environment solver _
    · split at accepted
      · rw [← Except.ok.inj accepted]
        exact setMultipliers_writes environment solver _
      · simp at accepted

theorem searchStart_writes (given : Option (List R)) :
    Writes environment solver (solver.searchStart environment given).2 := by
  have told (programs : Programs) (entries : List (Note R)) :
      Writes environment solver ({ solver with programs }.noteAll entries) :=
    (noteAll_writes environment { solver with programs } entries).preceded
      rfl rfl rfl rfl rfl rfl rfl
  unfold searchStart
  simp only
  split
  · exact told _ _
  · split
    · split
      · exact told _ _
      · split
        · exact (told _ _).trans (setPoint_writes environment _ _)
        · rename_i seeded accepted
          have begun := (seedMultipliers_writes environment _ _ seeded accepted).trans
            (begin_writes environment seeded true)
          exact ((told _ _).trans (setPoint_writes environment _ _)).trans begun
    · split
      · exact (told _ _).trans (begin_writes environment _ false)
      · exact (told _ _).trans ((setPoint_writes environment _ _).preceded
          rfl rfl rfl rfl rfl rfl rfl)

theorem findStart_writes (kick : Option (KickStart R)) :
    Writes environment solver (solver.findStart environment kick).2 := by
  have emptied : Writes environment solver { solver with working := solver.working.clear } :=
    working_writes environment solver _ .clear
  unfold findStart
  simp only
  split
  · exact emptied.trans (searchStart_writes environment _ _)
  · split
    · exact emptied
    · split
      · split
        · exact (emptied.trans (setPoint_writes environment _ _)).trans
            (begin_writes environment _ true)
        · exact (emptied.trans (setPoint_writes environment _ _)).trans
            (searchStart_writes environment _ _)
      · exact emptied.trans (searchStart_writes environment _ _)

theorem reset_writes : Writes environment solver (solver.reset environment) := by
  have zeroed := (setPoint_writes environment solver (Linear.zeros solver.problem.size)).trans
    (setMultipliers_writes environment _
      (Linear.zeros (solver.equalityCount + solver.inequalityCount)))
  have emptied := (zeroed.trans (working_writes environment _ solver.working.clear .clear)).trans
    (unblocked_writes environment _)
  have told : Writes environment _ { solver.reset environment with systems := solver.systems } :=
    emptied.trans (.aside rfl rfl rfl rfl rfl rfl rfl)
  exact told.trans (forgetSystem_writes environment _)

theorem solve_writes (budget : Nat) (kick : Option (KickStart R)) :
    Writes environment solver (solver.solve environment budget kick).2 := by
  have begun := (reset_writes environment solver).trans (findStart_writes environment _ kick)
  unfold solve
  split
  · rename_i cause refused start
    rw [start] at begun
    exact begun
  · rename_i stopped start
    rw [start] at begun
    exact begun
  · rename_i started start
    rw [start] at begun
    have passed := begun.trans (passes_writes environment started budget)
    split
    · rename_i spent ended
      rw [ended] at passed
      exact passed
    · rename_i ended finished
      rw [finished] at passed
      obtain ⟨printed, closing⟩ := printLine_frame ended (.closing ended.verdict ended.iterations)
      simp only
      rw [closing]
      exact passed.trans (.aside rfl rfl rfl rfl rfl rfl rfl)

/-! ### Requests to a solver without buffers -/

namespace Released
variable (environment : Environment R Systems Programs) (solver : Solver R Systems Programs)

theorem emptied_writes : Writes environment solver { solver with working := solver.working.clear } :=
  working_writes environment solver _ .clear

theorem searchStart_writes : Writes environment solver (searchStart environment solver).2 := by
  have told (programs : Programs) (entries : List (Note R)) :
      Writes environment solver ({ solver with programs }.noteAll entries) :=
    (noteAll_writes environment { solver with programs } entries).preceded
      rfl rfl rfl rfl rfl rfl rfl
  unfold searchStart
  simp only
  split
  · exact told _ _
  · split
    · exact told _ _
    · split
      · exact (told _ _).trans (.aside rfl rfl rfl rfl rfl rfl rfl)
      · exact (told _ _).trans (.aside rfl rfl rfl rfl rfl rfl rfl)

theorem findStart_writes (kick : Option (KickStart R)) :
    Writes environment solver (findStart environment solver kick).2 := by
  have emptied := emptied_writes environment solver
  unfold findStart
  simp only
  split
  · exact emptied.trans (searchStart_writes environment _)
  · split
    · exact emptied
    · split
      · exact emptied
      · exact emptied.trans (searchStart_writes environment _)

theorem activate_writes : Writes environment solver (activate environment solver).2 := by
  unfold activate
  simp only
  split
  · exact .refl
  · exact (forgetSystem_writes environment solver).trans (.aside rfl rfl rfl rfl rfl rfl rfl)

theorem traceSlacks_writes (moved : Bool) (moment : Moment) :
    Writes environment solver (traceSlacks solver moved moment).2 := by
  unfold traceSlacks
  split
  · exact .aside rfl rfl rfl rfl rfl rfl rfl
  · exact .refl

theorem acceptSolution_writes (target : List R) :
    Writes environment solver (acceptSolution solver target).2 := by
  unfold acceptSolution
  split
  · exact .refl
  · have noted : Writes environment solver
        ((({ solver with direction := [] }.trace (.current [])).trace (.step [])).trace
          .stepTooSmall) :=
      (((trace_writes environment { solver with direction := [] } (.current [])).trans
        (trace_writes environment _ (.step []))).trans
          (trace_writes environment _ .stepTooSmall)).preceded rfl rfl rfl rfl rfl rfl rfl
    simp only
    generalize (({ solver with direction := [] }.trace (.current [])).trace (.step [])).trace
      .stepTooSmall = told at noted ⊢
    exact noted.trans ((traceSlacks_writes environment { told with verdict := .feasible } false
      .afterIteration).preceded rfl rfl rfl rfl rfl rfl rfl)

theorem respond_writes (target : Option (List R)) :
    Writes environment solver (respond solver target).2 := by
  unfold respond
  simp only
  split
  · exact acceptSolution_writes environment solver _
  · split
    · exact .refl
    · exact .refl
    · exact (traceSlacks_writes environment { solver with verdict := .feasible } false
        .afterIteration).preceded rfl rfl rfl rfl rfl rfl rfl

theorem stepOnce_writes : Writes environment solver (stepOnce environment solver).2 := by
  have solved := (unblocked_writes environment solver).trans (solveSubproblem_writes environment _)
  unfold stepOnce
  simp only
  split
  · exact solved
  · exact solved.trans (respond_writes environment _ _)

theorem revise_writes : Writes environment solver (revise environment solver).2 := by
  unfold revise
  split
  · exact .refl
  · exact Solver.revise_writes environment solver

end Released
end Solver

/-! ### Requests -/

/-- The request runs or steps the solver; it does not ask for its storage or give it back. -/
def SolverRequest.isStep {R : Type} : SolverRequest R → Bool
  | .liveBytes | .close | .useAndClose => false
  | _ => true

namespace Session
variable {R Systems Programs : Type} [Scalar R] (environment : Environment R Systems Programs)

open Solver (Writes)

theorem forgetMultiplier_writes (solver cleared : Solver R Systems Programs) (index : Datum)
    (accepted : forgetMultiplier solver index = .ok cleared) :
    Writes environment solver cleared := by
  unfold forgetMultiplier at accepted
  cases read : index.toIndex with
  | error cause =>
      rw [read] at accepted
      exact absurd accepted (by simp [bind, Except.bind])
  | ok row =>
      cases written : solver.multipliers.vector.set (solver.equalityCount + row) 0 with
      | error cause =>
          simp only [read, bind, Except.bind, written] at accepted
          simp at accepted
      | ok vector =>
          simp only [read, bind, Except.bind, written, pure, Except.pure] at accepted
          rw [← Except.ok.inj accepted]
          exact .single (.multiplier solver _ _ vector written)

variable (solver : Solver R Systems Programs)

theorem insertMany_writes (indices : List Datum) : Writes environment solver
    { solver with working := (solver.working.insertMany indices).2 } := by
  induction indices generalizing solver with
  | nil => exact .refl
  | cons index rest ih =>
      unfold WorkingSet.insertMany
      split
      · rename_i found _
        exact (Solver.working_writes environment solver _ (.insert found)).trans
          (ih { solver with working := solver.working.insert found })
      · exact .refl

theorem move_writes (move : WorkingSet.Move) : Writes environment solver
    { solver with working := (solver.working.move move).2 } := by
  unfold WorkingSet.move
  split
  · exact insertMany_writes environment solver _
  · split
    · exact Solver.working_writes environment solver _ (.erase _)
    · exact .refl
  · exact insertMany_writes environment solver _
  · exact .refl
  · exact Solver.working_writes environment solver _ .fill
  · exact Solver.working_writes environment solver _ .clear

theorem moveRow_writes (move : WorkingSet.Move) :
    Writes environment solver (moveRow environment solver move).2 := by
  have changed := move_writes environment solver move
  unfold moveRow
  split
  · rename_i cause working outcome
    rw [outcome] at changed
    exact changed
  · rename_i working outcome
    rw [outcome] at changed
    simp only at changed ⊢
    split
    · exact changed
    · rename_i cleared found
      have forgotten := Solver.forgetSystem_writes environment cleared
      split at found
      · exact (changed.trans (forgetMultiplier_writes environment _ _ _ found)).trans forgotten
      · rw [← Except.ok.inj found] at forgotten ⊢
        exact changed.trans forgotten

omit [Scalar R] in
/-- An overwriting that is accepted is one of the solver. -/
theorem overwrite_accepted (buffer written : Stored R) (entries : List R)
    (accepted : overwrite buffer entries = .ok written) : written = buffer.overwrite entries := by
  unfold overwrite at accepted
  unfold Stored.overwrite
  cases found : buffer.vector.overwriteLeading entries with
  | error cause => simp [found, Except.map] at accepted
  | ok vector =>
      rw [found] at accepted
      exact (Except.ok.inj accepted).symm

theorem respondTo_writes (target : List R) :
    Writes environment solver (respondTo solver target).2 := by
  unfold respondTo
  split
  · exact .refl
  · simp only
    split
    · exact Solver.acceptSolution_writes environment solver _
    · obtain ⟨notes, noted⟩ := Solver.note_direction solver _
      rw [noted]
      exact .aside rfl rfl rfl rfl rfl rfl rfl

theorem respond_writes (solved : Bool) (target : Option (List R)) :
    Writes environment solver (respond environment solver solved target).2 := by
  unfold respond
  split
  · exact .refl
  · split
    · exact Solver.Released.respond_writes environment solver _
    · exact respondTo_writes environment solver _
  · split
    · exact Solver.Released.respond_writes environment solver none
    · exact Solver.respond_writes environment solver none

theorem take_writes (step : SolverStep) :
    Writes environment solver (take environment solver step).2 := by
  cases step with
  | activate => exact Solver.activate_writes environment solver
  | stepOnce => exact Solver.stepOnce_writes environment solver
  | revise => exact Solver.revise_writes environment solver
  | relax => exact Solver.relax_writes environment solver
  | isFeasible | rowToInclude | rowToExclude | activeMultipliers => exact .refl

theorem takeReleased_writes (step : SolverStep) :
    Writes environment solver (takeReleased environment solver step).2 := by
  cases step with
  | activate => exact Solver.Released.activate_writes environment solver
  | stepOnce => exact Solver.Released.stepOnce_writes environment solver
  | revise => exact Solver.Released.revise_writes environment solver
  | isFeasible | rowToInclude | rowToExclude | activeMultipliers | relax => exact .refl

theorem runSolve_writes (session : Session R Systems Programs) (budget : Nat) (kick : Kick R) :
    Writes environment session.solver (session.runSolve environment budget kick).2.solver := by
  unfold runSolve
  simp only
  split
  · exact Solver.Released.emptied_writes environment session.solver
  · have solved := Solver.solve_writes environment session.solver budget (session.start kick)
    split <;> exact solved

theorem runFindStart_writes (session : Session R Systems Programs) (kick : Kick R) :
    Writes environment session.solver (session.runFindStart environment kick).2 := by
  unfold runFindStart
  simp only
  split
  · exact Solver.Released.findStart_writes environment session.solver _
  · exact Solver.findStart_writes environment session.solver _

theorem run_writes_step (session : Session R Systems Programs) (request : SolverRequest R)
    (stepping : request.isStep = true) :
    Writes environment session.solver (session.run environment request).2.solver := by
  cases request with
  | solve kick budget => exact runSolve_writes environment session budget kick
  | findStart kick => exact runFindStart_writes environment session kick
  | respond solved target => exact respond_writes environment session.solver solved target
  | take step =>
      unfold run
      simp only
      split
      · exact takeReleased_writes environment session.solver step
      · exact take_writes environment session.solver step
  | includeRow index => exact moveRow_writes environment session.solver (.insert index)
  | excludeRow index => exact moveRow_writes environment session.solver (.erase index)
  | setPoint entries =>
      unfold run
      simp only
      split
      · exact .refl
      · rename_i iterate written
        rw [overwrite_accepted _ _ _ written]
        exact Solver.setPoint_writes environment session.solver entries
  | setMultipliers entries =>
      unfold run
      simp only
      split
      · exact .refl
      · rename_i multipliers written
        rw [overwrite_accepted _ _ _ written]
        exact Solver.setMultipliers_writes environment session.solver entries
  | liveBytes | close | useAndClose => cases stepping

end Session
end ConvexQP
