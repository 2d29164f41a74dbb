import ConvexQP.Proofs.Solver.Writes
import ConvexQP.Proofs.Storage.Growth

/-!
What no step of a solver changes: problem and configuration, the count of rows, the layout of the
buffers and their lengths. The state of the method for systems changes only by systems that belong
to their key. Steps are followed one after the other, so the relation is reflexive and transitive.
-/
namespace ConvexQP

/-- A vector of the same length in use; a well formed one stays so. -/
structure SegmentedVector.Reuses {Item : Type} (before after : SegmentedVector Item) : Prop where
  closed : after.closed = before.closed
  length : after.length = before.length
  wellFormed : WellFormed before → WellFormed after

namespace SegmentedVector.Reuses
variable {Item : Type} {before middle after : SegmentedVector Item}

theorem refl (vector : SegmentedVector Item) : Reuses vector vector := ⟨rfl, rfl, id⟩

theorem trans (first : Reuses before middle) (second : Reuses middle after) :
    Reuses before after :=
  ⟨second.closed.trans first.closed, second.length.trans first.length,
    fun valid => second.wellFormed (first.wellFormed valid)⟩

theorem overwriteLeading (vector written : SegmentedVector Item) (items : List Item)
    (accepted : vector.overwriteLeading items = .ok written) : Reuses vector written := by
  unfold SegmentedVector.overwriteLeading at accepted
  split at accepted
  · simp at accepted
  · rw [← Except.ok.inj accepted]
    exact ⟨rfl, rfl, overwritten_wellFormed vector items⟩

theorem set (vector written : SegmentedVector Item) (index : Int) (item : Item)
    (accepted : vector.set index item = .ok written) : Reuses vector written := by
  unfold SegmentedVector.set at accepted
  cases found : vector.position index with
  | error cause => simp [found, Except.map] at accepted
  | ok place =>
      rw [found] at accepted
      rw [← Except.ok.inj accepted]
      exact ⟨rfl, rfl, write_wellFormed vector place item⟩

end SegmentedVector.Reuses

theorem Stored.overwrite_reuses {Item : Type} (stored : Stored Item) (items : List Item) :
    stored.vector.Reuses (stored.overwrite items).vector := by
  unfold Stored.overwrite
  split
  · rename_i written accepted
    exact SegmentedVector.Reuses.overwriteLeading stored.vector written items accepted
  · exact SegmentedVector.Reuses.refl stored.vector

/-- Systems are solved for their own key, and forgotten. -/
inductive Environment.Served {R Systems Programs : Type} [Scalar R]
    (environment : Environment R Systems Programs) (problem : Problem R) (before : Systems) :
    Systems → Prop
  | start : Served environment problem before before
  | solved (systems : Systems) (rhs : List R) (key : List Nat) :
      Served environment problem before systems →
      Served environment problem before
        (environment.solveSystem systems (Kkt.matrix problem key) rhs key).2.2
  | forgot (systems : Systems) :
      Served environment problem before systems →
      Served environment problem before (environment.forgetSystem systems)

theorem Environment.Served.trans {R Systems Programs : Type} [Scalar R]
    {environment : Environment R Systems Programs} {problem : Problem R}
    {before middle after : Systems} (first : environment.Served problem before middle)
    (second : environment.Served problem middle after) :
    environment.Served problem before after := by
  induction second with
  | start => exact first
  | solved systems rhs key _ ih => exact .solved systems rhs key ih
  | forgot systems _ ih => exact .forgot systems ih

namespace Solver
variable {R Systems Programs : Type} [Scalar R] (environment : Environment R Systems Programs)

structure Follows (before after : Solver R Systems Programs) : Prop where
  problem : after.problem = before.problem
  config : after.config = before.config
  rows : after.working.size = before.working.size
  iterate : before.iterate.vector.Reuses after.iterate.vector
  multipliers : before.multipliers.vector.Reuses after.multipliers.vector
  systems : environment.Served before.problem before.systems after.systems

namespace Follows
variable {environment : Environment R Systems Programs}
variable {before middle after : Solver R Systems Programs}

/-- Any other field may change. -/
theorem same (problem : after.problem = before.problem) (config : after.config = before.config)
    (working : after.working = before.working) (iterate : after.iterate = before.iterate)
    (multipliers : after.multipliers = before.multipliers)
    (systems : after.systems = before.systems) : Follows environment before after where
  problem := problem
  config := config
  rows := congrArg WorkingSet.size working
  iterate := iterate ▸ .refl _
  multipliers := multipliers ▸ .refl _
  systems := systems ▸ .start

theorem refl (solver : Solver R Systems Programs) : Follows environment solver solver :=
  same rfl rfl rfl rfl rfl rfl

theorem trans (first : Follows environment before middle)
    (second : Follows environment middle after) : Follows environment before after where
  problem := second.problem.trans first.problem
  config := second.config.trans first.config
  rows := second.rows.trans first.rows
  iterate := first.iterate.trans second.iterate
  multipliers := first.multipliers.trans second.multipliers
  systems := by
    have later := second.systems
    rw [first.problem] at later
    exact first.systems.trans later

/-- A step from a state that differs in other fields only. -/
theorem preceded (step : Follows environment middle after)
    (problem : middle.problem = before.problem) (config : middle.config = before.config)
    (working : middle.working = before.working) (iterate : middle.iterate = before.iterate)
    (multipliers : middle.multipliers = before.multipliers)
    (systems : middle.systems = before.systems) : Follows environment before after :=
  (same problem config working iterate multipliers systems).trans step

end Follows

/-! ### Writes -/

variable {environment} in
theorem Write.follows {before after : Solver R Systems Programs}
    (write : Write environment before after) : Follows environment before after := by
  have same : Follows environment before before := .refl before
  cases write with
  | aside problem config working iterate multipliers systems _ =>
      exact .same problem config working iterate multipliers systems
  | point entries =>
      exact { same with iterate := Stored.overwrite_reuses before.iterate entries }
  | multipliers entries =>
      exact { same with multipliers := Stored.overwrite_reuses before.multipliers entries }
  | multiplier index entry vector accepted =>
      exact { same with multipliers := .set _ vector index entry accepted }
  | working working moved => exact { same with rows := moved.size }
  | blocking => exact .same rfl rfl rfl rfl rfl rfl
  | solves rhs key => exact { same with systems := .solved before.systems rhs key .start }
  | forgets => exact { same with systems := .forgot before.systems .start }

variable {environment} in
theorem Writes.follows {before after : Solver R Systems Programs}
    (writes : Writes environment before after) : Follows environment before after := by
  induction writes with
  | refl => exact .refl before
  | tail _ write ih => exact ih.trans write.follows

variable (solver : Solver R Systems Programs)

theorem setPoint_follows (entries : List R) :
    Follows environment solver (solver.setPoint entries) :=
  (setPoint_writes environment solver entries).follows

theorem setMultipliers_follows (entries : List R) :
    Follows environment solver (solver.setMultipliers entries) :=
  (setMultipliers_writes environment solver entries).follows

theorem includeRow_follows (row : Nat) :
    Follows environment solver (solver.includeRow environment row) :=
  (includeRow_writes environment solver row).follows

theorem solveSubproblem_follows :
    Follows environment solver (solver.solveSubproblem environment).2 :=
  (solveSubproblem_writes environment solver).follows

theorem relax_follows : Follows environment solver (solver.relax environment) :=
  (relax_writes environment solver).follows

theorem stepOnce_follows : Follows environment solver (solver.stepOnce environment).2 :=
  (stepOnce_writes environment solver).follows

theorem pass_follows : Follows environment solver (solver.pass environment).2 :=
  (pass_writes environment solver).follows

theorem overdue_follows : Follows environment solver (solver.overdue environment).2 :=
  (overdue_writes environment solver).follows

theorem includeTight_follows : Follows environment solver solver.includeTight :=
  (includeTight_writes environment solver).follows

theorem activate_follows : Follows environment solver (solver.activate environment) :=
  (activate_writes environment solver).follows

theorem searchStart_follows (given : Option (List R)) :
    Follows environment solver (solver.searchStart environment given).2 :=
  (searchStart_writes environment solver given).follows

theorem findStart_follows (kick : Option (KickStart R)) :
    Follows environment solver (solver.findStart environment kick).2 :=
  (findStart_writes environment solver kick).follows

theorem reset_follows : Follows environment solver (solver.reset environment) :=
  (reset_writes environment solver).follows

end Solver
end ConvexQP
