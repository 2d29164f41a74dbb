import ConvexQP.Proofs.Solver.Exact
import ConvexQP.Proofs.Storage.Chunks

/-!
The data of a solver whose requests come in any order, with any answers to what it asks. Its buffers
keep their lengths, their capacities and the bytes they drew; its two lists of rows part the rows of
the problem; and each row it remembers is one of them. A row that is none is refused before
anything is written.
-/
namespace ConvexQP

/-! ### Room -/

/-- The same room on the same allocator, written over. -/
structure Stored.SameRoom {Item : Type} (before after : Stored Item) : Prop where
  allocator : after.allocator = before.allocator
  capacity : after.vector.capacity = before.vector.capacity

namespace Stored.SameRoom
open SegmentedVector
variable {Item : Type} {before middle after : Stored Item}

theorem refl (stored : Stored Item) : SameRoom stored stored := ⟨rfl, rfl⟩

theorem trans (first : SameRoom before middle) (second : SameRoom middle after) :
    SameRoom before after :=
  ⟨second.allocator.trans first.allocator, second.capacity.trans first.capacity⟩

theorem overwrite (stored : Stored Item) (items : List Item) :
    SameRoom stored (stored.overwrite items) := by
  unfold Stored.overwrite overwriteLeading
  split
  · rename_i written accepted
    split at accepted
    · cases accepted
    · rw [← Except.ok.inj accepted]
      exact ⟨rfl, capacity_of_shape _ _ (shape_overwritten stored.vector items) rfl rfl⟩
  · exact refl stored

theorem set (stored : Stored Item) (index : Int) (item : Item) (vector : SegmentedVector Item)
    (accepted : stored.vector.set index item = .ok vector) :
    SameRoom stored { stored with vector } := by
  unfold SegmentedVector.set at accepted
  cases found : stored.vector.position index with
  | error cause => simp [found, Except.map] at accepted
  | ok place =>
      rw [found] at accepted
      rw [← Except.ok.inj accepted]
      exact ⟨rfl, capacity_write stored.vector place item⟩

end Stored.SameRoom

/-! ### Rows that are remembered -/

namespace WorkingSet

/-- The rows that moved last are rows of the set. -/
structure Tracked (set : WorkingSet) : Prop where
  latestIn : ∀ row ∈ set.latestIn, row < set.size
  latestOut : ∀ row ∈ set.latestOut, row < set.size

theorem empty_tracked (size : Nat) : (empty size).Tracked where
  latestIn _ named := absurd named (Option.not_mem_none _)
  latestOut _ named := absurd named (Option.not_mem_none _)

theorem insert_tracked (set : WorkingSet) (row : Nat) (tracked : set.Tracked) :
    (set.insert row).Tracked := by
  unfold insert
  split
  · rename_i out
    refine ⟨fun latest named => ?_, fun latest named => ?_⟩
    · obtain rfl := Option.mem_some_iff.mp named
      simpa [size] using (List.getElem?_eq_some_iff.mp out).1
    · simpa [size] using tracked.latestOut latest named
  · exact tracked

theorem erase_tracked (set : WorkingSet) (row : Nat) (tracked : set.Tracked) :
    (set.erase row).Tracked := by
  unfold erase
  split
  · rename_i inside
    refine ⟨fun latest named => ?_, fun latest named => ?_⟩
    · simpa [size] using tracked.latestIn latest named
    · obtain rfl := Option.mem_some_iff.mp named
      simpa [size] using (List.getElem?_eq_some_iff.mp inside).1
  · exact tracked

theorem fill_tracked (set : WorkingSet) (tracked : set.Tracked) : set.fill.Tracked := by
  refine ⟨fun latest named => ?_, fun latest named => ?_⟩
  · rw [size_fill]
    by_cases empty : set.size = 0
    · simp [fill, empty] at named
    · simp only [fill, empty, if_false, Option.mem_some_iff] at named
      omega
  · rw [size_fill]
    exact tracked.latestOut latest named

theorem Moves.tracked {before after : WorkingSet} (moved : before.Moves after)
    (tracked : before.Tracked) : after.Tracked := by
  cases moved with
  | insert row => exact insert_tracked before row tracked
  | erase row => exact erase_tracked before row tracked
  | fill => exact fill_tracked before tracked
  | clear => exact empty_tracked before.size

end WorkingSet

namespace Solver
variable {R Systems Programs : Type} [Scalar R]
variable {problem : Problem R} {config : Config R}

/-! ### What the writes keep -/

/-- A solver in the room it was made with, all whose rows are rows of the problem. -/
structure Housed (problem : Problem R) (config : Config R) (solver : Solver R Systems Programs) :
    Prop where
  problem_eq : solver.problem = problem
  sized : solver.Sized
  iterate : (buffer config problem.size).SameRoom solver.iterate
  multipliers : (buffer config (problem.equalities.count + problem.inequalities.count)).SameRoom
    solver.multipliers
  tracked : solver.working.Tracked
  blocking : ∀ row ∈ solver.blocking, row < problem.inequalities.count

theorem new_housed (systems : Systems) (programs : Programs) :
    Housed problem config (Solver.new problem config systems programs) where
  problem_eq := rfl
  sized := new_sized problem config systems programs
  iterate := .refl _
  multipliers := .refl _
  tracked := WorkingSet.empty_tracked _
  blocking _ stopping := absurd stopping (Option.not_mem_none _)

variable {environment : Environment R Systems Programs} {before after : Solver R Systems Programs}

theorem Housed.write (housed : Housed problem config before) (write : Write environment before after) :
    Housed problem config after := by
  have followed := write.follows
  have problem_eq := followed.problem.trans housed.problem_eq
  have sized := housed.sized.follows followed
  cases write with
  | aside _ _ working iterate multipliers _ blocking =>
      exact ⟨problem_eq, sized, iterate ▸ housed.iterate, multipliers ▸ housed.multipliers,
        working ▸ housed.tracked, blocking ▸ housed.blocking⟩
  | point entries =>
      exact { housed with sized, iterate := housed.iterate.trans (.overwrite _ entries) }
  | multipliers entries =>
      exact { housed with sized, multipliers := housed.multipliers.trans (.overwrite _ entries) }
  | multiplier index entry vector accepted =>
      exact { housed with
        sized, multipliers := housed.multipliers.trans (.set _ index entry vector accepted) }
  | working working moved => exact { housed with sized, tracked := moved.tracked housed.tracked }
  | blocking stopping out =>
      refine { housed with sized, blocking := fun row stops => ?_ }
      rw [← housed.problem_eq]
      exact housed.sized.outside row (out row stops)
  | solves => exact { housed with sized }
  | forgets => exact { housed with sized }

theorem Housed.writes (housed : Housed problem config before)
    (writes : Writes environment before after) : Housed problem config after := by
  induction writes with
  | refl => exact housed
  | tail _ write ih => exact ih.write write

/-! ### The data -/

/-- What holds of the data of a solver between any two requests. -/
structure DataModel (problem : Problem R) (config : Config R)
    (solver : Solver R Systems Programs) : Prop where
  point_length : solver.point.length = problem.size
  multipliers_length : solver.multiplierList.length =
    problem.equalities.count + problem.inequalities.count
  included_ascending : solver.working.included.Pairwise (· < ·)
  excluded_ascending : solver.working.excluded.Pairwise (· < ·)
  disjoint : solver.working.included.Disjoint solver.working.excluded
  covered : ∀ row, row ∈ solver.working.included ∨ row ∈ solver.working.excluded ↔
    row < problem.inequalities.count
  blocking : ∀ row ∈ solver.blocking, row < problem.inequalities.count
  latestIn : ∀ row ∈ solver.working.latestIn, row < problem.inequalities.count
  latestOut : ∀ row ∈ solver.working.latestOut, row < problem.inequalities.count
  iterate_capacity : solver.iterate.vector.capacity = (buffer config problem.size).vector.capacity
  iterate_bytes : solver.iterate.allocator.liveBytes =
    (buffer config problem.size).allocator.liveBytes
  multipliers_capacity : solver.multipliers.vector.capacity =
    (buffer config (problem.equalities.count + problem.inequalities.count)).vector.capacity
  multipliers_bytes : solver.multipliers.allocator.liveBytes =
    (buffer config (problem.equalities.count + problem.inequalities.count)).allocator.liveBytes

variable {solver : Solver R Systems Programs}

theorem Housed.rows (housed : Housed problem config solver) :
    solver.working.size = problem.inequalities.count := by
  rw [housed.sized.rows, inequalityCount, housed.problem_eq]

theorem Housed.dataModel (housed : Housed problem config solver) :
    DataModel problem config solver := by
  have rows := housed.rows
  have same := housed.problem_eq
  constructor
  case point_length => rw [housed.sized.length_point, same]
  case multipliers_length =>
    rw [housed.sized.length_multiplierList, equalityCount, inequalityCount, same]
  case included_ascending => exact solver.working.included_increasing
  case excluded_ascending => exact solver.working.excluded_increasing
  case disjoint =>
    exact fun row inside out => solver.working.not_mem_included_of_excluded row out inside
  case covered =>
    intro row
    rw [← rows]
    constructor
    · rintro (inside | out)
      · exact solver.working.lt_size_of_included row inside
      · exact solver.working.lt_size_of_excluded row out
    · exact solver.working.mem_included_or_excluded row
  case blocking => exact housed.blocking
  case latestIn => exact rows ▸ housed.tracked.latestIn
  case latestOut => exact rows ▸ housed.tracked.latestOut
  case iterate_capacity => exact housed.iterate.capacity
  case iterate_bytes => rw [housed.iterate.allocator]
  case multipliers_capacity => exact housed.multipliers.capacity
  case multipliers_bytes => rw [housed.multipliers.allocator]

end Solver

/-! ### Sessions -/

namespace Session
variable {R Systems Programs : Type} [Scalar R]
variable {problem : Problem R} {config : Config R} {session : Session R Systems Programs}

/-- The sessions of one problem and configuration whose buffers were not given back. What each
request asks may be answered by another environment. -/
inductive Driven (problem : Problem R) (config : Config R) : Session R Systems Programs → Prop
  | fresh (systems : Systems) (programs : Programs) :
      Driven problem config (Session.new (Solver.new problem config systems programs))
  | later (session : Session R Systems Programs) (environment : Environment R Systems Programs)
      (request : SolverRequest R) (stepping : request.isStep = true) :
      Driven problem config session → Driven problem config (session.run environment request).2

theorem Driven.housed (driven : Driven problem config session) :
    session.solver.Housed problem config := by
  induction driven with
  | fresh systems programs => exact Solver.new_housed systems programs
  | later session environment request stepping _ ih =>
      exact ih.writes (run_writes_step environment session request stepping)

theorem Driven.opened (driven : Driven problem config session) :
    session.solver.isReleased = false := by
  induction driven with
  | fresh systems programs => exact (Solver.buffer_spec config problem.size).1.opened
  | later session environment request stepping _ ih =>
      exact (run_follows_step environment session request stepping).iterate.closed.trans ih

theorem moveRow_outside (environment : Environment R Systems Programs)
    (solver : Solver R Systems Programs) (index : Int)
    (outside : ¬(0 ≤ index ∧ index < solver.working.size)) :
    moveRow environment solver (.insert (.integer index)) =
        (.error (.outOfBounds index solver.working.size), solver) ∧
      moveRow environment solver (.erase (.integer index)) =
        (.error (.outOfBounds index solver.working.size), solver) := by
  have refused : (Datum.integer index).toInteger.bind solver.working.row =
      .error (.outOfBounds index solver.working.size) :=
    solver.working.row_outside index outside
  constructor
  · simp only [moveRow, WorkingSet.move, WorkingSet.insertMany, refused]
  · simp only [moveRow, WorkingSet.move, refused]

/-- Requests in any order, answered in any way, keep the data of the solver; and a row out of range
is refused before anything is written. -/
theorem data_kept (driven : Driven problem config session) :
    session.solver.DataModel problem config ∧
    ∀ (environment : Environment R Systems Programs) (index : Int),
      ¬(0 ≤ index ∧ index < problem.inequalities.count) →
        session.run environment (.includeRow (.integer index)) =
            (.error (.outOfBounds index problem.inequalities.count), session) ∧
          session.run environment (.excludeRow (.integer index)) =
            (.error (.outOfBounds index problem.inequalities.count), session) := by
  have housed := driven.housed
  refine ⟨housed.dataModel, fun environment index outside => ?_⟩
  rw [← housed.rows] at outside ⊢
  obtain ⟨inserted, erased⟩ := moveRow_outside environment session.solver index outside
  constructor
  · simp only [run, inserted]
    rfl
  · simp only [run, erased]
    rfl

end Session

/-- A row is taken in, left again for its multiplier, and then a row is named that is none. -/
theorem data_kept_line :
    let problem := line 1 (-1) 1 2
    let clock := denseEnvironment stoppedClock
    let steered := ((((freshSession problem).run clock (.includeRow (.integer 0))).2.run clock
      (.take .stepOnce)).2.run clock (.take .revise)).2
    Session.Driven problem plainConfig steered ∧
      ¬((0 : Int) ≤ 7 ∧ (7 : Int) < problem.inequalities.count) ∧
      steered.solver.working.included = [] ∧ steered.solver.working.latestOut = some 0 ∧
      steered.solver.DataModel problem plainConfig ∧
      steered.run clock (.excludeRow (.integer 7)) = (.error (.outOfBounds 7 1), steered) := by
  intro problem clock steered
  have fresh : Session.Driven problem plainConfig (freshSession problem) := .fresh _ _
  have driven : Session.Driven problem plainConfig steered :=
    .later _ clock _ rfl (.later _ clock _ rfl (.later _ clock _ rfl fresh))
  have outside : ¬((0 : Int) ≤ 7 ∧ (7 : Int) < problem.inequalities.count) := by decide
  obtain ⟨model, refused⟩ := Session.data_kept driven
  exact ⟨driven, outside, by decide +kernel, by decide +kernel, model, (refused clock 7 outside).2⟩

end ConvexQP
