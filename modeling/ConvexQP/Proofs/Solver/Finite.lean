import ConvexQP.Proofs.Floating.Differences
import ConvexQP.Proofs.Solver.Forgetting
import ConvexQP.Proofs.Solver.Start

/-!
Solvers that hold finite values. Whatever gives up rows writes zeros and nothing else, and a start
takes its values from the point that is given or from the answer to a linear programme. A run
therefore starts with finite values if these are finite.
-/
namespace ConvexQP
variable {R : Type} [Scalar R]

/-! ### Answers to linear programmes -/

/-- An optimum brings a point, whose entries differ by finite values, and its reduced costs are
finite. Finite entries of different sign can be too far apart for that. -/
structure ProgramAnswer.Moderate (answer : ProgramAnswer R) : Prop where
  point : answer.code = 0 → ∃ point, answer.point = some point ∧
    ∀ raised ∈ point, ∀ lowered ∈ point, finite (raised - lowered) = true
  marginals : answer.code = 0 → ∀ reduced, answer.marginals = some reduced →
    Linear.allFinite reduced = true

/-- In floating point it is enough that the entries are finite and not negative. -/
theorem ProgramAnswer.moderate_of_nonneg (answer : ProgramAnswer Float)
    (brought : answer.code = 0 → ∃ point, answer.point = some point ∧
      ∀ entry ∈ point, finite entry = true ∧ 0 ≤ entry)
    (marginals : answer.code = 0 → ∀ reduced, answer.marginals = some reduced →
      Linear.allFinite reduced = true) : answer.Moderate where
  point code := by
    obtain ⟨point, here, entries⟩ := brought code
    refine ⟨point, here, ?_⟩
    intro raised high lowered low
    exact Floating.finite_sub raised lowered (entries raised high).1 (entries raised high).2
      (entries lowered low).1 (entries lowered low).2
  marginals := marginals

namespace Linear

theorem allFinite_iff (values : List R) :
    allFinite values = true ↔ ∀ value ∈ values, finite value = true := by
  rw [allFinite, List.all_eq_true]

theorem allFinite_zeros (zero : finite (0 : R) = true) (size : Nat) :
    allFinite (zeros size : List R) = true := by
  rw [allFinite_iff]
  intro value member
  rw [List.eq_of_mem_replicate member, zero]

theorem mem_subtract (left right : List R) (value : R) (member : value ∈ subtract left right) :
    ∃ first ∈ left, ∃ second ∈ right, value = first - second := by
  rw [subtract, ← List.map_uncurry_zip_eq_zipWith] at member
  obtain ⟨pair, both, rfl⟩ := List.mem_map.mp member
  exact ⟨pair.1, (List.of_mem_zip both).1, pair.2, (List.of_mem_zip both).2, rfl⟩

end Linear

omit [Scalar R] in
/-- Lists are fitted together by repeating what is in them. -/
theorem fitLengths_subset {left right first second : List R}
    (fitted : fitLengths left right = .ok (first, second)) : first ⊆ left ∧ second ⊆ right := by
  unfold fitLengths at fitted
  split at fitted
  · obtain ⟨rfl, rfl⟩ := Prod.mk.inj (Except.ok.inj fitted)
    exact ⟨List.Subset.refl _, List.Subset.refl _⟩
  · split at fitted
    · obtain ⟨rfl, rfl⟩ := Prod.mk.inj (Except.ok.inj fitted)
      refine ⟨?_, List.Subset.refl _⟩
      intro value member
      rw [List.eq_of_mem_replicate member]
      exact List.mem_cons_self
    · obtain ⟨rfl, rfl⟩ := Prod.mk.inj (Except.ok.inj fitted)
      refine ⟨List.Subset.refl _, ?_⟩
      intro value member
      rw [List.eq_of_mem_replicate member]
      exact List.mem_cons_self
    · simp at fitted

namespace PhaseOne
variable {Programs : Type}

/-- A search ends with the point that was given, or concludes from some answer. -/
theorem search_concludes (solver : ProgramSolver R Programs) (problem : Problem R)
    (options : ProgramOptions R) (tracing : Bool) (programs : Programs) (given : Option (List R))
    (start : Start R)
    (found : (search solver problem options tracing programs given).outcome = .ok start) :
    start = ⟨true, given.getD (Linear.zeros problem.size), []⟩ ∨
      ∃ (state : Programs) (program : LinearProgram R),
        conclude problem (given.getD (Linear.zeros problem.size))
          (program.interpret (solver state program).1) = .ok start := by
  simp only [search] at found
  split at found
  · exact Or.inl (Except.ok.inj found).symm
  · split at found
    · simp at found
    · split at found
      · exact Or.inr ⟨_, _, found⟩
      · exact Or.inr ⟨_, _, found⟩

theorem startOf_finite (problem : Problem R) (result : ProgramResult R)
    (near : ∀ raised ∈ result.point, ∀ lowered ∈ result.point, finite (raised - lowered) = true)
    (finite_costs : Linear.allFinite result.reducedCosts = true) (start : Start R)
    (read : startOf problem result = .ok start) :
    Linear.allFinite start.point = true ∧ Linear.allFinite start.multipliers = true := by
  simp only [startOf] at read
  cases fitted : fitLengths (result.point.take problem.size)
      ((result.point.drop problem.size).take problem.size) with
  | error cause => simp [fitted, bind, Except.bind] at read
  | ok parts =>
      simp only [fitted, bind, Except.bind, pure, Except.pure, Except.ok.injEq] at read
      have inside : parts.1 ⊆ result.point.take problem.size ∧
          parts.2 ⊆ (result.point.drop problem.size).take problem.size := fitLengths_subset fitted
      rw [← read, Linear.allFinite_iff, Linear.allFinite_iff]
      constructor
      · intro value member
        obtain ⟨first, high, second, low, rfl⟩ := Linear.mem_subtract _ _ value member
        exact near first (List.mem_of_mem_take (inside.1 high)) second
          (List.mem_of_mem_drop (List.mem_of_mem_take (inside.2 low)))
      · intro value member
        exact (Linear.allFinite_iff _).mp finite_costs value
          (List.mem_of_mem_drop (List.mem_of_mem_take member))

variable (zero : finite (0 : R) = true)

include zero in
theorem conclude_finite (problem : Problem R) (program : LinearProgram R)
    (answer : ProgramAnswer R) (moderate : answer.Moderate) (given : List R)
    (finite_given : Linear.allFinite given = true) (start : Start R)
    (concluded : conclude problem given (program.interpret answer) = .ok start) :
    Linear.allFinite start.point = true ∧ Linear.allFinite start.multipliers = true := by
  unfold conclude at concluded
  split at concluded
  · rename_i optimal
    have code : answer.code = 0 :=
      (ProgramStatus.ofCode_eq_iff answer.code).1.mp (beq_iff_eq.mp optimal)
    obtain ⟨point, brought, near⟩ := moderate.point code
    apply startOf_finite problem (program.interpret answer) _ _ start concluded
    · simp only [LinearProgram.interpret, brought, Option.getD_some]
      exact near
    · cases told : answer.marginals with
      | none =>
          simp only [LinearProgram.interpret, told, Option.getD_none]
          exact Linear.allFinite_zeros zero _
      | some reduced =>
          simp only [LinearProgram.interpret, told, Option.getD_some]
          exact moderate.marginals code reduced told
  · rw [← Except.ok.inj concluded]
    exact ⟨finite_given, Linear.allFinite_zeros zero _⟩

include zero in
/-- A search that is given a finite point and moderate answers ends with finite values. -/
theorem search_finite (solver : ProgramSolver R Programs)
    (moderate : ∀ programs program, (solver programs program).1.Moderate) (problem : Problem R)
    (options : ProgramOptions R) (tracing : Bool) (programs : Programs) (given : Option (List R))
    (finite_given : ∀ point, given = some point → Linear.allFinite point = true) (start : Start R)
    (found : (search solver problem options tracing programs given).outcome = .ok start) :
    Linear.allFinite start.point = true ∧ Linear.allFinite start.multipliers = true := by
  have from_given : Linear.allFinite (given.getD (Linear.zeros problem.size)) = true := by
    cases given with
    | none => exact Linear.allFinite_zeros zero _
    | some point => exact finite_given point rfl
  rcases search_concludes solver problem options tracing programs given start found with
    rfl | ⟨state, program, concluded⟩
  · exact ⟨from_given, rfl⟩
  · exact conclude_finite zero problem program _ (moderate state program) _ from_given start
      concluded

end PhaseOne

omit [Scalar R] in
/-- What overwriting leaves was there before or is one of the new items. -/
theorem Stored.mem_of_overwrite (stored : Stored R) (items : List R)
    (valid : stored.vector.WellFormed) (item : R)
    (member : item ∈ (stored.overwrite items).vector.toList) :
    item ∈ items ∨ item ∈ stored.vector.toList := by
  by_cases fits : items.length ≤ stored.vector.length
  · obtain ⟨written, accepted, _, _, _, found⟩ :=
      SegmentedVector.overwriteLeading_spec stored.vector items valid fits
    simp only [overwrite, accepted, found, List.mem_append] at member
    exact member.imp_right List.mem_of_mem_drop
  · have refused : stored.vector.overwriteLeading items =
        .error (.sourceTooLong items.length stored.vector.length) := by
      rw [SegmentedVector.overwriteLeading, if_pos (by omega)]
    simp only [overwrite, refused] at member
    exact Or.inr member

namespace Solver
variable {Systems Programs : Type} (environment : Environment R Systems Programs)

/-- The buffers hold finite values, in full length. -/
structure FiniteValues (solver : Solver R Systems Programs) : Prop where
  sized : solver.Sized
  point : ∀ entry ∈ solver.point, finite entry = true
  multipliers : ∀ entry ∈ solver.multiplierList, finite entry = true

namespace FiniteValues
variable {before after solver : Solver R Systems Programs}

theorem allFinite (values : solver.FiniteValues) : solver.allFinite = true := by
  rw [Solver.allFinite, Bool.and_eq_true, Linear.allFinite_iff, Linear.allFinite_iff]
  exact ⟨values.point, values.multipliers⟩

theorem of_allFinite (sized : solver.Sized) (finite : solver.allFinite = true) :
    solver.FiniteValues := by
  rw [Solver.allFinite, Bool.and_eq_true, Linear.allFinite_iff, Linear.allFinite_iff] at finite
  exact ⟨sized, finite.1, finite.2⟩

/-- Any other field may change, the working set as long as it is over the same rows. -/
theorem same (values : before.FiniteValues) (problem : after.problem = before.problem)
    (rows : after.working.size = before.working.size) (iterate : after.iterate = before.iterate)
    (multipliers : after.multipliers = before.multipliers) : after.FiniteValues where
  sized := {
    iterate := iterate ▸ values.sized.iterate
    multipliers := multipliers ▸ values.sized.multipliers
    point_length := by rw [iterate, problem, values.sized.point_length]
    multipliers_length := by
      rw [multipliers, values.sized.multipliers_length, equalityCount, equalityCount,
        inequalityCount, inequalityCount, problem]
    rows := by rw [rows, values.sized.rows, inequalityCount, inequalityCount, problem] }
  point := by
    rw [Solver.point, iterate]
    exact values.point
  multipliers := by
    rw [multiplierList, multipliers]
    exact values.multipliers

theorem setPoint (values : solver.FiniteValues) (entries : List R)
    (finite_entries : Linear.allFinite entries = true) :
    (solver.setPoint entries).FiniteValues where
  sized := {
    iterate := (Stored.overwrite_reuses solver.iterate entries).wellFormed values.sized.iterate
    multipliers := values.sized.multipliers
    point_length :=
      (Stored.overwrite_reuses solver.iterate entries).length.trans values.sized.point_length
    multipliers_length := values.sized.multipliers_length
    rows := values.sized.rows }
  point := by
    intro entry member
    rcases Stored.mem_of_overwrite solver.iterate entries values.sized.iterate entry member with
      given | kept
    · exact (Linear.allFinite_iff entries).mp finite_entries entry given
    · exact values.point entry kept
  multipliers := values.multipliers

theorem setMultipliers (values : solver.FiniteValues) (entries : List R)
    (finite_entries : ∀ entry ∈ entries, finite entry = true) :
    (solver.setMultipliers entries).FiniteValues where
  sized := {
    iterate := values.sized.iterate
    multipliers :=
      (Stored.overwrite_reuses solver.multipliers entries).wellFormed values.sized.multipliers
    point_length := values.sized.point_length
    multipliers_length := (Stored.overwrite_reuses solver.multipliers entries).length.trans
      values.sized.multipliers_length
    rows := values.sized.rows }
  point := values.point
  multipliers := by
    intro entry member
    rcases Stored.mem_of_overwrite solver.multipliers entries values.sized.multipliers entry
      member with given | kept
    · exact finite_entries entry given
    · exact values.multipliers entry kept

/-! ### Giving up rows -/

section Zero
variable (zero : finite (0 : R) = true)

include zero in
theorem excludeRow (values : solver.FiniteValues) (row : Nat) :
    (solver.excludeRow environment row).FiniteValues := by
  have erased : FiniteValues { solver with working := solver.working.erase row } :=
    values.same rfl (WorkingSet.size_erase solver.working row) rfl rfl
  have cleared := erased.setMultipliers
    (solver.equalityMultipliers ++ solver.inequalityMultipliers.set row 0) (by
      intro entry member
      rcases List.mem_append.mp member with equality | inequality
      · exact values.multipliers entry (List.mem_of_mem_take equality)
      · rcases List.mem_or_eq_of_mem_set inequality with kept | rfl
        · exact values.multipliers entry (List.mem_of_mem_drop kept)
        · exact zero)
  exact cleared.same rfl rfl rfl rfl

include zero in
theorem relax (values : solver.FiniteValues) : (solver.relax environment).FiniteValues := by
  unfold Solver.relax
  split
  · exact values
  · rename_i row _
    obtain ⟨notes, traced⟩ := trace_frame solver
      (.relax row (largestMagnitude (solver.multipliersAt solver.working.included)))
    have told : FiniteValues { solver with notes } := values.same rfl rfl rfl rfl
    simp only [traced]
    exact told.excludeRow environment zero row

include zero in
theorem trim (values : solver.FiniteValues) (steps : Nat) :
    (Solver.trim environment steps solver).FiniteValues := by
  induction steps generalizing solver with
  | zero => exact values
  | succ steps ih =>
      unfold Solver.trim
      split
      · exact ih (values.relax environment zero)
      · exact values

/-! ### The start of a run -/

include zero in
theorem activate (values : solver.FiniteValues) : (solver.activate environment).FiniteValues := by
  have filled : solver.includeTight.FiniteValues :=
    values.same rfl (solver.working.size_insertAll _) rfl rfl
  have trimmed := filled.trim environment zero solver.includeTight.working.includedCount
  exact trimmed.same rfl rfl rfl rfl

include zero in
theorem begin (values : solver.FiniteValues) (feasible : Bool) :
    (solver.begin environment feasible).2.FiniteValues := by
  cases feasible with
  | true =>
      obtain ⟨notes, told⟩ := traceSlacks_frame (solver.activate environment) .initial
      simp only [Solver.begin, if_true, told]
      exact (values.activate environment zero).same rfl rfl rfl rfl
  | false =>
      obtain ⟨notes, begun⟩ := begin_infeasible environment solver
      rw [begun]
      exact (values.setPoint _ (Linear.allFinite_zeros zero _)).same rfl rfl rfl rfl

omit zero in
theorem seedMultipliers (values : solver.FiniteValues) (seeds : List R)
    (finite_seeds : Linear.allFinite seeds = true) (seeded : Solver R Systems Programs)
    (accepted : solver.seedMultipliers seeds = .ok seeded) : seeded.FiniteValues := by
  have stored (rows : List R) (inside : rows ⊆ seeds) :
      (solver.setMultipliers (solver.equalityMultipliers ++ rows)).FiniteValues := by
    apply values.setMultipliers
    intro entry member
    rcases List.mem_append.mp member with equality | seed
    · exact values.multipliers entry (List.mem_of_mem_take equality)
    · exact (Linear.allFinite_iff seeds).mp finite_seeds entry (inside seed)
  simp only [Solver.seedMultipliers] at accepted
  split at accepted
  · exact Except.ok.inj accepted ▸ values
  · split at accepted
    · exact Except.ok.inj accepted ▸ stored seeds (List.Subset.refl seeds)
    · split at accepted
      · rename_i seed _
        refine Except.ok.inj accepted ▸ stored _ ?_
        intro entry member
        rw [List.eq_of_mem_replicate member]
        exact List.mem_cons_self
      · simp at accepted

include zero in
theorem settle (values : solver.FiniteValues) (start : PhaseOne.Start R) (status : ProgramStatus)
    (finite_point : Linear.allFinite start.point = true)
    (finite_seeds : Linear.allFinite start.multipliers = true) :
    (solver.settle environment start status).2.FiniteValues := by
  have placed := values.setPoint start.point finite_point
  simp only [Solver.settle]
  split
  · split
    · exact values
    · split
      · exact placed
      · rename_i seeded accepted
        exact (placed.seedMultipliers _ finite_seeds seeded accepted).begin environment zero true
  · split
    · exact values.begin environment zero false
    · exact placed.same rfl rfl rfl rfl

variable (moderate : ∀ programs program, (environment.solveProgram programs program).1.Moderate)

include zero moderate in
theorem searchStart (values : solver.FiniteValues) (given : Option (List R))
    (finite_given : ∀ point, given = some point → Linear.allFinite point = true) :
    (solver.searchStart environment given).2.FiniteValues := by
  cases outcome : (solver.searched environment given).outcome with
  | error cause =>
      obtain ⟨notes, told⟩ := noteAll_frame
        { solver with programs := (solver.searched environment given).programs }
        (solver.searched environment given).notes
      simp only [searched] at outcome told
      simp only [Solver.searchStart, outcome]
      rw [told]
      exact values.same rfl rfl rfl rfl
  | ok start =>
      obtain ⟨finite_point, finite_seeds⟩ := PhaseOne.search_finite zero environment.solveProgram
        moderate solver.problem solver.programOptions solver.config.tracing solver.programs given
        finite_given start outcome
      obtain ⟨notes, settled⟩ := searchStart_settle environment solver given start outcome
      have told : FiniteValues { solver with
          programs := (solver.searched environment given).programs, notes } :=
        values.same rfl rfl rfl rfl
      rw [settled]
      exact told.settle environment zero start _ finite_point finite_seeds

include zero moderate in
theorem findStart (values : solver.FiniteValues) (kick : Option (KickStart R)) :
    (solver.findStart environment kick).2.FiniteValues := by
  have emptied : FiniteValues { solver with working := solver.working.clear } :=
    values.same rfl (WorkingSet.size_clear solver.working) rfl rfl
  have searched := emptied.searchStart environment zero moderate none (by simp)
  simp only [Solver.findStart]
  split
  · exact searched
  · rename_i kick
    split
    · exact emptied
    · split
      -- A point is only taken up if it is finite.
      · rename_i usable
        have finite_entries := (Bool.and_eq_true_iff.mp usable).2
        have placed := emptied.setPoint kick.entries finite_entries
        split
        · exact placed.begin environment zero true
        · exact placed.searchStart environment zero moderate (some kick.entries)
            fun point here => Option.some.inj here ▸ finite_entries
      · exact searched

end Zero
end FiniteValues

theorem Sized.finite_reset {solver : Solver R Systems Programs} (sized : solver.Sized)
    (zero : finite (0 : R) = true) : (solver.reset environment).FiniteValues where
  sized := sized.follows (reset_follows environment solver)
  point := by
    rw [sized.point_reset, ← Linear.allFinite_iff]
    exact Linear.allFinite_zeros zero _
  multipliers := by
    rw [sized.multiplierList_reset, ← Linear.allFinite_iff]
    exact Linear.allFinite_zeros zero _

end Solver
end ConvexQP
