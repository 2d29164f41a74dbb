import ConvexQP.Proofs.Solver.Start

/-!
What giving up rows leaves behind. A row that is given up has the multiplier zero; the point, the
multipliers of the equality rows and those of all other inequality rows stay. This holds of one row,
of the rows that a start has no room for, and of the rows that a pass gives up while its system has
no solution.
-/
namespace ConvexQP.Solver
variable {R Systems Programs : Type} [Scalar R]

/-- The solver after some of its included rows were given up. -/
structure GivesUp (before after : Solver R Systems Programs) : Prop where
  problem : after.problem = before.problem
  point : after.point = before.point
  equalities : after.equalityMultipliers = before.equalityMultipliers
  included : ∀ row ∈ after.working.included, row ∈ before.working.included
  cleared : ∀ row ∈ before.working.included, row ∉ after.working.included →
    after.inequalityMultipliers[row]? = some 0
  kept : ∀ row, (row ∈ before.working.included → row ∈ after.working.included) →
    after.inequalityMultipliers[row]? = before.inequalityMultipliers[row]?

namespace GivesUp
variable {before middle after : Solver R Systems Programs}

theorem refl (solver : Solver R Systems Programs) : GivesUp solver solver :=
  ⟨rfl, rfl, rfl, fun _ member => member, fun _ inside outside => absurd inside outside,
    fun _ _ => rfl⟩

/-- A row that is gone stays out, so its multiplier stays zero. -/
theorem trans (first : GivesUp before middle) (second : GivesUp middle after) :
    GivesUp before after where
  problem := second.problem.trans first.problem
  point := second.point.trans first.point
  equalities := second.equalities.trans first.equalities
  included row member := first.included row (second.included row member)
  cleared row inside outside := by
    by_cases still : row ∈ middle.working.included
    · exact second.cleared row still outside
    · rw [second.kept row fun member => absurd member still]
      exact first.cleared row inside still
  kept row stays := by
    have later : row ∈ middle.working.included → row ∈ after.working.included :=
      fun member => stays (first.included row member)
    have earlier : row ∈ before.working.included → row ∈ middle.working.included :=
      fun member => second.included row (stays member)
    rw [second.kept row later, first.kept row earlier]

end GivesUp

/-! ### One row -/

section Multipliers
variable {solver : Solver R Systems Programs} (sized : solver.Sized)

variable (environment : Environment R Systems Programs)

include sized in
/-- A row that is moved out loses its multiplier, and no other row does. -/
theorem Sized.excludeRow_multipliers (row : Nat) :
    (solver.excludeRow environment row).equalityMultipliers = solver.equalityMultipliers ∧
      (solver.excludeRow environment row).inequalityMultipliers =
        solver.inequalityMultipliers.set row 0 :=
  sized.multipliers_stored _ _ sized.length_equalityMultipliers
    (by rw [List.length_set, sized.length_inequalityMultipliers])

include sized in
theorem Sized.excludeRow_givesUp (row : Nat) (member : row ∈ solver.working.included) :
    GivesUp solver (solver.excludeRow environment row) := by
  obtain ⟨equalities, inequalities⟩ := sized.excludeRow_multipliers environment row
  have moved (other : Nat) : other ∈ (solver.excludeRow environment row).working.included ↔
      other ∈ solver.working.included ∧ other ≠ row :=
    WorkingSet.mem_included_erase solver.working row other
  refine ⟨rfl, rfl, equalities, ?_, ?_, ?_⟩
  · intro other inside
    exact ((moved other).mp inside).1
  · intro other inside outside
    have same : other = row := by
      by_contra apart
      exact outside ((moved other).mpr ⟨inside, apart⟩)
    subst same
    have bound : other < solver.inequalityMultipliers.length :=
      sized.length_inequalityMultipliers ▸ sized.inside other inside
    rw [inequalities, List.getElem?_set_self bound]
  · intro other stays
    have apart : row ≠ other := by
      rintro rfl
      exact ((moved row).mp (stays member)).2 rfl
    rw [inequalities, List.getElem?_set_ne apart]

include sized in
theorem Sized.relax_givesUp : GivesUp solver (solver.relax environment) := by
  by_cases empty : solver.working.included = []
  · -- Without an included row there is nothing to choose from.
    have none : solver.includedEntries = [] := by
      rw [includedEntries, empty]
      rfl
    have still : solver.relax environment = solver := by
      rw [relax, none]
      rfl
    rw [still]
    exact .refl solver
  · obtain ⟨row, member, notes, relaxed⟩ := relax_frame environment solver empty
    have given := sized.excludeRow_givesUp environment row member
    rw [relaxed]
    exact { given with }

end Multipliers

/-! ### Many rows -/

variable (environment : Environment R Systems Programs) {solver : Solver R Systems Programs}

/-- The rows that there is no room for. -/
theorem Sized.trim_givesUp (steps : Nat) (sized : solver.Sized) :
    GivesUp solver (trim environment steps solver) := by
  induction steps generalizing solver with
  | zero => exact .refl solver
  | succ steps ih =>
      unfold trim
      split
      · have held := sized.follows (relax_follows environment solver)
        exact (sized.relax_givesUp environment).trans (ih held)
      · exact .refl solver

/-- The rows that a pass gives up before its decisive round. -/
theorem Sized.narrowed_givesUp (rounds : Nat) (sized : solver.Sized) :
    GivesUp solver (narrowed environment rounds solver) := by
  induction rounds generalizing solver with
  | zero => exact .refl solver
  | succ rounds ih =>
      unfold narrowed
      split
      · rename_i again
        simp only [Bool.and_eq_true, Option.isNone_iff_eq_none, Bool.not_eq_true',
          List.isEmpty_eq_false_iff] at again
        obtain ⟨notes, unsolved⟩ := solveSubproblem_none environment solver again.1
        have solved := sized.follows (solveSubproblem_follows environment solver)
        have held := solved.follows (relax_follows environment _)
        have given := solved.relax_givesUp environment
        have asked : GivesUp solver (solver.solveSubproblem environment).2 := by
          rw [unsolved]
          exact { GivesUp.refl solver with }
        exact (asked.trans given).trans (ih held)
      · exact .refl solver

end ConvexQP.Solver
