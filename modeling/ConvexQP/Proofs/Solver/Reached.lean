import ConvexQP.Proofs.Exact.Systems
import ConvexQP.Proofs.Solver.Follows

/-!
The sessions that requests lead to, from a solver that is new. Problem and configuration stay, no
memory of systems goes stale, and until the buffers are given back they hold a point and the
multipliers in full length.
-/
namespace ConvexQP

namespace Solver

section Sized
variable {R Systems Programs : Type}

/-- The buffers hold a point and a multiplier for each row, and the rows are those of the problem. -/
structure Sized (solver : Solver R Systems Programs) : Prop where
  iterate : solver.iterate.vector.WellFormed
  multipliers : solver.multipliers.vector.WellFormed
  point_length : solver.iterate.vector.length = solver.problem.size
  multipliers_length :
    solver.multipliers.vector.length = solver.equalityCount + solver.inequalityCount
  rows : solver.working.size = solver.inequalityCount

theorem overwrite_all {Item : Type} (stored : Stored Item) (items : List Item)
    (valid : stored.vector.WellFormed) (fits : items.length = stored.vector.length) :
    (stored.overwrite items).vector.toList = items := by
  obtain ⟨written, accepted, _, _, _, found⟩ :=
    SegmentedVector.overwriteLeading_spec stored.vector items valid fits.le
  unfold Stored.overwrite
  rw [accepted]
  simp only
  rw [found, List.drop_of_length_le, List.append_nil]
  rw [SegmentedVector.length_toList _ valid, fits]

namespace Sized
variable {solver : Solver R Systems Programs} (sized : Sized solver)

include sized in
theorem length_point : solver.point.length = solver.problem.size := by
  rw [point, SegmentedVector.length_toList _ sized.iterate, sized.point_length]

include sized in
theorem length_multiplierList :
    solver.multiplierList.length = solver.equalityCount + solver.inequalityCount := by
  rw [multiplierList, SegmentedVector.length_toList _ sized.multipliers,
    sized.multipliers_length]

include sized in
theorem point_setPoint (entries : List R) (fits : entries.length = solver.problem.size) :
    (solver.setPoint entries).point = entries :=
  overwrite_all solver.iterate entries sized.iterate (fits.trans sized.point_length.symm)

include sized in
theorem multiplierList_setMultipliers (entries : List R)
    (fits : entries.length = solver.equalityCount + solver.inequalityCount) :
    (solver.setMultipliers entries).multiplierList = entries :=
  overwrite_all solver.multipliers entries sized.multipliers
    (fits.trans sized.multipliers_length.symm)

include sized in
theorem inside (row : Nat) (member : row ∈ solver.working.included) :
    row < solver.problem.inequalities.count := by
  have bound := WorkingSet.lt_size_of_included solver.working row member
  rwa [sized.rows] at bound

include sized in
theorem outside (row : Nat) (member : row ∈ solver.working.excluded) :
    row < solver.problem.inequalities.count := by
  have bound := WorkingSet.lt_size_of_excluded solver.working row member
  rwa [sized.rows] at bound

include sized in
theorem length_equalityMultipliers :
    solver.equalityMultipliers.length = solver.equalityCount := by
  rw [equalityMultipliers, List.length_take, sized.length_multiplierList]
  exact Nat.min_eq_left (Nat.le_add_right _ _)

include sized in
theorem length_inequalityMultipliers :
    solver.inequalityMultipliers.length = solver.inequalityCount := by
  rw [inequalityMultipliers, List.length_drop, sized.length_multiplierList]
  exact Nat.add_sub_cancel_left _ _

include sized in
/-- Multipliers that fit are read as they were stored. -/
theorem multipliers_stored (equalities inequalities : List R)
    (leading : equalities.length = solver.equalityCount)
    (rest : inequalities.length = solver.inequalityCount) :
    (solver.setMultipliers (equalities ++ inequalities)).equalityMultipliers = equalities ∧
      (solver.setMultipliers (equalities ++ inequalities)).inequalityMultipliers =
        inequalities := by
  have written := sized.multiplierList_setMultipliers (equalities ++ inequalities)
    (by rw [List.length_append, leading, rest])
  have count : (solver.setMultipliers (equalities ++ inequalities)).equalityCount =
    equalities.length := leading.symm
  constructor
  · rw [equalityMultipliers, written, count, List.take_left]
  · rw [inequalityMultipliers, written, count, List.drop_left]

end Sized
end Sized

variable {R Systems Programs : Type} [Scalar R]

theorem buffer_spec (config : Config R) (size : Nat) :
    (buffer config size).vector.Extendable ∧
      (buffer config size).vector.toList = Linear.zeros size := by
  obtain ⟨_, ready, items⟩ := Stored.extend_spec
    (Stored.new (Allocator.new config.allocator) config.capacities (0 : R) realBytes)
    (Linear.zeros size) (Stored.new_extendable _ _ _ _)
  rw [Stored.toList_new, List.nil_append] at items
  exact ⟨ready, items⟩

theorem buffer_sized (config : Config R) (size : Nat) :
    (buffer config size).vector.WellFormed ∧ (buffer config size).vector.length = size := by
  obtain ⟨ready, items⟩ := buffer_spec config size
  refine ⟨ready.valid, ?_⟩
  rw [← SegmentedVector.length_toList _ ready.valid, items]
  exact List.length_replicate

theorem new_sized (problem : Problem R) (config : Config R) (systems : Systems)
    (programs : Programs) : Sized (Solver.new problem config systems programs) where
  iterate := (buffer_sized config _).1
  multipliers := (buffer_sized config _).1
  point_length := (buffer_sized config _).2
  multipliers_length := (buffer_sized config _).2
  rows := by simp [Solver.new, WorkingSet.empty, WorkingSet.size, inequalityCount]

theorem Sized.follows {environment : Environment R Systems Programs}
    {before after : Solver R Systems Programs} (sized : Sized before)
    (step : Follows environment before after) : Sized after where
  iterate := step.iterate.wellFormed sized.iterate
  multipliers := step.multipliers.wellFormed sized.multipliers
  point_length := by rw [step.iterate.length, sized.point_length, step.problem]
  multipliers_length := by
    rw [step.multipliers.length, sized.multipliers_length, equalityCount, equalityCount,
      inequalityCount, inequalityCount, step.problem]
  rows := by rw [step.rows, sized.rows, inequalityCount, inequalityCount, step.problem]

/-! ### Requests to a solver without buffers -/

omit [Scalar R] in
theorem isReleased_release (solver : Solver R Systems Programs) :
    solver.release.isReleased = true := by
  unfold release isReleased Stored.close
  simp only
  split
  · assumption
  · rfl

end Solver

/-! ### Requests -/

namespace Session
variable {R Systems Programs : Type} [Scalar R] (environment : Environment R Systems Programs)

open Solver (Follows)

theorem run_follows_step (session : Session R Systems Programs) (request : SolverRequest R)
    (stepping : request.isStep = true) :
    Follows environment session.solver (session.run environment request).2.solver :=
  (run_writes_step environment session request stepping).follows

theorem run_follows (session : Session R Systems Programs) (request : SolverRequest R) :
    Follows environment session.solver (session.run environment request).2.solver ∨
      (session.run environment request).2.solver = session.solver.release := by
  cases request with
  | liveBytes => exact Or.inl (.refl session.solver)
  | close | useAndClose => exact Or.inr rfl
  | _ => exact Or.inl (run_follows_step environment session _ rfl)

end Session

/-! ### Sessions over dense systems -/

/-- The sessions of one problem and configuration, over dense systems that nothing disturbs. Each
request has its own clock. -/
inductive Session.Reached {R : Type} [Scalar R] (problem : Problem R) (config : Config R)
    (method : ProgramMethod R) : Session R (DenseSystems R) (ProgramSource R) → Prop
  | fresh : Reached problem config method
      (Session.new (DenseSolver.new problem config none method))
  | later (session : Session R (DenseSystems R) (ProgramSource R)) (elapsed : Nat → R)
      (request : SolverRequest R) : Reached problem config method session →
      Reached problem config method (session.run (denseEnvironment elapsed) request).2
  | quiet (session : Session R (DenseSystems R) (ProgramSource R))
      (forget : ProgramSource R → ProgramSource R) : Reached problem config method session →
      Reached problem config method (session.quiet forget)

namespace DenseSolver
variable {R : Type} [Scalar R]

/-- What every reached session keeps of its solver. -/
structure Kept (problem : Problem R) (config : Config R) (solver : DenseSolver R) : Prop where
  problem_eq : solver.problem = problem
  config_eq : solver.config = config
  tolerance : solver.systems.pivotTolerance = config.pivotTolerance
  systems : DenseSystems.Sound problem solver.systems
  held : solver.isReleased = false → solver.Sized

theorem served (elapsed : Nat → R) (problem : Problem R) (before after : DenseSystems R)
    (served : (denseEnvironment elapsed).Served problem before after)
    (sound : DenseSystems.Sound problem before) :
    after.pivotTolerance = before.pivotTolerance ∧ DenseSystems.Sound problem after := by
  induction served with
  | start => exact ⟨rfl, sound⟩
  | solved systems rhs key _ ih =>
      exact ⟨ih.1, DenseSystems.solve_sound problem systems rhs key ih.2⟩
  | forgot systems _ ih => exact ⟨ih.1, DenseSystems.forget_sound problem systems ih.2⟩

variable {problem : Problem R} {config : Config R}

theorem Kept.follows {before after : DenseSolver R} (kept : Kept problem config before)
    (elapsed : Nat → R) (step : Solver.Follows (denseEnvironment elapsed) before after) :
    Kept problem config after := by
  have systems := step.systems
  rw [kept.problem_eq] at systems
  obtain ⟨tolerance, sound⟩ := served elapsed problem _ _ systems kept.systems
  refine ⟨step.problem.trans kept.problem_eq, step.config.trans kept.config_eq,
    tolerance.trans kept.tolerance, sound, ?_⟩
  intro opened
  have still : before.isReleased = false := step.iterate.closed.symm.trans opened
  exact (kept.held still).follows step

end DenseSolver

theorem Session.Reached.kept {R : Type} [Scalar R] {problem : Problem R} {config : Config R}
    {method : ProgramMethod R} {session : Session R (DenseSystems R) (ProgramSource R)}
    (reached : Reached problem config method session) :
    DenseSolver.Kept problem config session.solver := by
  induction reached with
  | fresh =>
      exact ⟨rfl, rfl, rfl, ⟨rfl, FactorCache.empty_coherent _ _⟩,
        fun _ => Solver.new_sized problem config _ _⟩
  | later session elapsed request _ ih =>
      rcases run_follows (denseEnvironment elapsed) session request with followed | released
      · exact ih.follows elapsed followed
      · rw [released]
        refine ⟨ih.problem_eq, ih.config_eq, ih.tolerance, ih.systems, ?_⟩
        -- Buffers that were given back are not open, so nothing is said of them.
        intro opened
        rw [session.solver.isReleased_release] at opened
        cases opened
  | quiet session forget _ ih =>
      exact ⟨ih.problem_eq, ih.config_eq, ih.tolerance, ih.systems,
        fun opened => ⟨(ih.held opened).iterate, (ih.held opened).multipliers,
          (ih.held opened).point_length, (ih.held opened).multipliers_length,
          (ih.held opened).rows⟩⟩

end ConvexQP
