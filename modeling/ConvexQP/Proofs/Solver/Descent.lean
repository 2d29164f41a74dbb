import ConvexQP.Proofs.Exact.Descent
import ConvexQP.Proofs.Solver.Blocking
import ConvexQP.Proofs.Solver.Course

/-!
Runs that descend. In exact arithmetic a pass keeps the equality rows and the included rows tight,
unless the row that stops its step is taken for used up while something is left of it. As long as
the rows are tight, no pass raises the objective, and each one lowers it as its step length and the
curvature say.
-/
namespace ConvexQP
open scoped Exact

namespace Solver
variable {R Systems Programs : Type} [Scalar R]

/-- A step is stopped at once by a row whose slack counts as used up, but is not zero. -/
structure Snaps (environment : Environment R Systems Programs) (solver : Solver R Systems Programs)
    (entries : List R) (row : Nat) : Prop where
  answer : solver.systemAnswer environment = some entries
  moves : solver.stands (solver.heading entries) = false
  stops : (solver.stepLimit (solver.heading entries)).blocking = some row
  small : solver.slackTolerance.isSmall
    (solver.problem.inequalities.bodyOf (solver.heading entries) row)
    (solver.problem.inequalities.slackOf solver.point row) = true
  left : solver.problem.inequalities.slackOf solver.point row ≠ 0

/-- The step of a pass is stopped by such a row. -/
def SnapsInPass (environment : Environment R Systems Programs) (before : Solver R Systems Programs)
    (row : Nat) : Prop :=
  ∃ entries, ((before.overdue environment).2.subproblem environment).Snaps environment entries row

/-- How far a round goes towards an answer: not at all if the way is too short to be followed. -/
def stride (solver : Solver R Systems Programs) (entries : List R) : R :=
  if solver.stands (solver.heading entries) then 0
  else (solver.stepLimit (solver.heading entries)).length

/-- The row that stops a step is a candidate, whose ratio is the step length. -/
theorem Sized.stepLimit_blocked {solver : Solver R Systems Programs} (sized : Sized solver)
    (direction : List R) (row : Nat) (stops : (solver.stepLimit direction).blocking = some row) :
    (solver.stepLimit direction).length =
      (⟨solver.slackTolerance, solver.solutionTolerance, Linear.norm direction⟩ :
        RatioTest R).ratio ⟨solver.problem.inequalities.slackOf solver.point row,
          solver.problem.inequalities.bodyOf direction row, row⟩ := by
  simp only [stepLimit] at stops ⊢
  rcases RatioTest.run_cases
      ⟨solver.slackTolerance, solver.solutionTolerance, Linear.norm direction⟩
      (solver.candidates direction) with whole | ⟨candidate, member, stopped, _⟩
  · rw [whole] at stops
    simp at stops
  · rw [stopped, Option.some.injEq] at stops
    rw [sized.candidates_eq] at member
    obtain ⟨other, _, rfl⟩ := List.mem_map.mp member
    rw [stopped, ← stops]

theorem Snaps.blocked {environment : Environment R Systems Programs}
    {solver : Solver R Systems Programs} {entries : List R} {row : Nat}
    (snaps : solver.Snaps environment entries row) (fresh : solver.blocking = none) :
    (solver.landed environment).2.blocking = some row := by
  rw [landed_moves environment solver entries snaps.answer snaps.moves]
  exact (stepped_blocking (solver.answered environment entries) _ fresh).trans snaps.stops

/-- A pass leaves no row in the working set but those of its decisive round and the row that stopped
its step. -/
theorem pass_included (environment : Environment R Systems Programs)
    (solver next : Solver R Systems Programs) (again : Bool)
    (passed : solver.pass environment = (again, next)) (row : Nat)
    (member : row ∈ next.working.included) :
    row ∈ (solver.subproblem environment).working.included ∨
      (solver.landing environment).2.blocking = some row := by
  rw [← landing_working]
  rcases pass_cases environment solver with ⟨_, notes, printed, here⟩ | ⟨_, notes, here⟩ |
    ⟨_, notes, printed, here⟩ | ⟨other, blocked, notes, printed, here⟩ |
    ⟨other, _, _, notes, printed, here⟩
  all_goals
    rw [passed, Prod.mk.injEq] at here
    rw [here.2] at member
  · exact Or.inl member
  · exact Or.inl member
  · exact Or.inl member
  · have excluded := landing_blocking_excluded environment solver other blocked
    rw [← landing_working] at excluded
    rcases (WorkingSet.mem_included_insert _ other row
      (WorkingSet.lt_size_of_excluded _ other excluded)).mp member with kept | rfl
    · exact Or.inl kept
    · exact Or.inr blocked
  · exact Or.inl ((WorkingSet.mem_included_erase _ other row).mp member).1

theorem pass_stepLength (environment : Environment R Systems Programs)
    (solver next : Solver R Systems Programs) (again : Bool)
    (passed : solver.pass environment = (again, next)) :
    next.stepLength = (solver.landing environment).2.stepLength := by
  rcases pass_cases environment solver with ⟨_, notes, printed, here⟩ | ⟨_, notes, here⟩ |
    ⟨_, notes, printed, here⟩ | ⟨row, _, notes, printed, here⟩ | ⟨row, _, _, notes, printed, here⟩
  all_goals
    rw [passed, Prod.mk.injEq] at here
    rw [here.2]
    rfl

end Solver

variable {K : Type} [Field K] [LinearOrder K] [IsStrictOrderedRing K] [Rooted K]
variable {problem : Problem K} {config : Config K} {elapsed : Nat → K}

theorem Solver.stride_range (solver : DenseSolver K) (entries : List K) :
    0 ≤ solver.stride entries ∧ solver.stride entries ≤ 1 := by
  simp only [Solver.stride]
  split
  · exact ⟨le_refl 0, zero_le_one⟩
  · exact RatioTest.length_range _ _

namespace DenseSolver.Ready

/-! ### Rounds -/

section Round
variable {solver : DenseSolver K} (ready : Ready problem config solver)

variable (entries : List K)
variable (answer : solver.systemAnswer (denseEnvironment elapsed) = some entries)

include ready answer in
/-- A round that is answered goes its stride towards the answer. -/
theorem landed_stride (valid : 0 ≤ config.pivotTolerance) :
    (solver.landed (denseEnvironment elapsed)).2.point =
        Linear.addScaled (solver.stride entries) (solver.heading entries) solver.point ∧
      ((solver.landed (denseEnvironment elapsed)).2.stepLength = some (solver.stride entries) ∨
        solver.stride entries = 0 ∧
          (solver.landed (denseEnvironment elapsed)).2.stepLength = solver.stepLength) := by
  have sizes := ready.heading_size valid entries answer
  have alike : (solver.answered (denseEnvironment elapsed) entries).stands
      (solver.heading entries) = solver.stands (solver.heading entries) := rfl
  simp only [Solver.landed, answer, alike, Solver.stride]
  cases stands : solver.stands (solver.heading entries) with
  | true =>
      simp only [if_true]
      refine ⟨?_, Or.inr ⟨trivial, rfl⟩⟩
      rw [Linear.addScaled_zero _ _ sizes.symm]
      rfl
  | false =>
      simp only [Bool.false_eq_true, if_false]
      exact ⟨ready.stepped_point _ sizes, Or.inl rfl⟩

variable (tight : Kkt.Tight problem solver.working.included solver.point)

include ready answer tight in
/-- The rows of a round stay tight, and the objective falls by what the stride gains. -/
theorem landed_descends (convex : problem.Convex) (valid : 0 ≤ config.pivotTolerance) :
    Kkt.Tight problem solver.working.included
        (solver.landed (denseEnvironment elapsed)).2.point ∧
      problem.objective (solver.landed (denseEnvironment elapsed)).2.point =
        problem.objective solver.point -
          (solver.stride entries - solver.stride entries ^ 2 / 2) *
            Linear.dot (solver.heading entries)
              (Linear.apply problem.quadratic (solver.heading entries)) := by
  have solution := ready.solution valid entries answer
  rw [(ready.landed_stride entries answer valid).1, ready.heading_eq]
  exact ⟨solution.tight_step ready.inside ready.point_size tight _,
    solution.objective_step ready.inside ready.point_size tight convex _⟩

variable (elapsed) in
include ready in
/-- The row that stops a step is used up, unless its slack is taken for zero. -/
theorem blocking_tight_iff (valid : 0 ≤ config.pivotTolerance)
    (fresh : solver.blocking = none) (row : Nat)
    (blocked : (solver.landed (denseEnvironment elapsed)).2.blocking = some row) :
    problem.inequalities.slackOf (solver.landed (denseEnvironment elapsed)).2.point row = 0 ↔
      ∀ entries, ¬ solver.Snaps (denseEnvironment elapsed) entries row := by
  obtain ⟨entries, answer, moves, stops, _⟩ :=
    Solver.landed_blocking (denseEnvironment elapsed) solver fresh row blocked
  change solver.stands (solver.heading entries) = false at moves
  change (solver.stepLimit (solver.heading entries)).blocking = some row at stops
  have fits := (ready.heading_size valid entries answer).symm
  have rising := ready.sized.bodyOf_blocking_pos _ row stops
  have length := ready.sized.stepLimit_blocked _ row stops
  have whole : solver.stride entries = (solver.stepLimit (solver.heading entries)).length := by
    rw [Solver.stride, moves]
    rfl
  rw [(ready.landed_stride entries answer valid).1, Constraints.slackOf_addScaled _ _ _ _ _ fits,
    whole, length, ← ready.problem_eq]
  simp only [RatioTest.ratio]
  cases small : solver.slackTolerance.isSmall
      (solver.problem.inequalities.bodyOf (solver.heading entries) row)
      (solver.problem.inequalities.slackOf solver.point row) with
  | true =>
      rw [if_pos rfl, zero_mul, sub_zero]
      constructor
      · intro used other snaps
        exact snaps.left used
      · intro never
        by_contra left
        exact never entries ⟨answer, moves, stops, small, left⟩
  | false =>
      rw [if_neg (by simp), div_mul_cancel₀ _ rising.ne', sub_self]
      refine ⟨fun _ other snaps => ?_, fun _ => rfl⟩
      obtain rfl : entries = other := Option.some.inj (answer.symm.trans snaps.answer)
      rw [snaps.small] at small
      simp at small

end Round

/-! ### Passes -/

section Pass
variable {before after : DenseSolver K} {again : Bool} (ready : Ready problem config before)
variable (step : Solver.OnePass (denseEnvironment elapsed) before again after)

theorem looked_subproblem (elapsed : Nat → K) (before : DenseSolver K) :
    ((before.overdue (denseEnvironment elapsed)).2.subproblem (denseEnvironment elapsed)).point =
        before.point ∧
      ∀ row ∈ ((before.overdue (denseEnvironment elapsed)).2.subproblem
        (denseEnvironment elapsed)).working.included, row ∈ before.working.included := by
  obtain ⟨clockReadings, looking⟩ := Solver.overdue_frame (denseEnvironment elapsed) before
  have kept := Solver.subproblem_included (denseEnvironment elapsed)
    (before.overdue (denseEnvironment elapsed)).2
  rw [Solver.subproblem_point]
  rw [looking] at kept ⊢
  exact ⟨rfl, kept⟩

variable (tight : Kkt.Tight problem before.working.included before.point)

variable (elapsed) in
include ready tight in
/-- The rows of the decisive round are tight where it starts. -/
theorem tight_subproblem :
    Kkt.Tight problem ((before.overdue (denseEnvironment elapsed)).2.subproblem
        (denseEnvironment elapsed)).working.included
      ((before.overdue (denseEnvironment elapsed)).2.subproblem (denseEnvironment elapsed)).point := by
  obtain ⟨place, kept⟩ := looked_subproblem elapsed before
  rw [place]
  exact tight.of_subset ready.inside _ kept

include ready tight in
theorem tight_landing (convex : problem.Convex) (valid : 0 ≤ config.pivotTolerance) :
    Kkt.Tight problem ((before.overdue (denseEnvironment elapsed)).2.subproblem
        (denseEnvironment elapsed)).working.included
      ((before.overdue (denseEnvironment elapsed)).2.landing (denseEnvironment elapsed)).2.point := by
  have decisive := (ready.looked elapsed).subproblem elapsed
  have held := ready.tight_subproblem elapsed tight
  simp only [Solver.landing]
  generalize (before.overdue (denseEnvironment elapsed)).2.subproblem (denseEnvironment elapsed) =
    round at decisive held ⊢
  cases answer : round.systemAnswer (denseEnvironment elapsed) with
  | none =>
      obtain ⟨_, _, landed⟩ := Solver.landed_unsolved (denseEnvironment elapsed) round answer
      rw [landed]
      exact held
  | some entries => exact (decisive.landed_descends entries answer held convex valid).1

include ready step tight in
/-- A pass keeps the rows tight, unless a row whose slack is taken for zero stops its step. -/
theorem pass_tight_iff (convex : problem.Convex) (valid : 0 ≤ config.pivotTolerance) :
    Kkt.Tight problem after.working.included after.point ↔
      ∀ row, ¬ before.SnapsInPass (denseEnvironment elapsed) row := by
  have looked := ready.looked elapsed
  have decisive := looked.subproblem elapsed
  have fresh := Solver.subproblem_blocking (denseEnvironment elapsed)
    (before.overdue (denseEnvironment elapsed)).2
  have used := decisive.blocking_tight_iff elapsed valid fresh
  rw [Kkt.tight_iff (looked.passed step.passed).inside, pass_point _ _ _ _ step.passed]
  constructor
  · rintro ⟨_, slacks⟩ row ⟨entries, snaps⟩
    have blocked := snaps.blocked fresh
    -- The row has entered, so its slack is zero, and it is not what the test took for zero.
    obtain ⟨next, passed, entered⟩ := looked.pass_entered row blocked
    obtain rfl : after = next := congrArg Prod.snd (step.passed.symm.trans passed)
    have member : row ∈ after.working.included := by
      rw [entered]
      have excluded := Solver.landing_blocking_excluded (denseEnvironment elapsed) _ row blocked
      exact (WorkingSet.mem_included_insert _ row row
        (WorkingSet.lt_size_of_excluded _ row excluded)).mpr (Or.inr rfl)
    exact (used row blocked).mp (slacks row member) entries snaps
  · intro never
    obtain ⟨equalities, slacks⟩ :=
      (Kkt.tight_iff decisive.inside).mp (ready.tight_landing tight convex valid)
    refine ⟨equalities, ?_⟩
    intro row member
    rcases Solver.pass_included _ _ _ _ step.passed row member with kept | blocked
    · exact slacks row kept
    · exact (used row blocked).mpr fun entries snaps => never row ⟨entries, snaps⟩

end Pass
end DenseSolver.Ready

/-- A pass goes a part of the way to the answer of its system, and lowers the objective by what this
part gains: the whole way would gain half of its curvature. -/
structure Descends (problem : Problem K) (before after : DenseSolver K) (entries : List K)
    (factor : K) : Prop where
  nonneg : 0 ≤ factor
  le_one : factor ≤ 1
  point : after.point = Linear.addScaled factor
    (Linear.subtract (entries.take problem.size) before.point) before.point
  objective : problem.objective after.point = problem.objective before.point -
    (factor - factor ^ 2 / 2) *
      Linear.dot (Linear.subtract (entries.take problem.size) before.point)
        (Linear.apply problem.quadratic
          (Linear.subtract (entries.take problem.size) before.point))
  stepLength : after.stepLength = some factor ∨ after.stepLength = none ∧ factor = 0

namespace DenseSolver.Ready
section Pass
variable {before after : DenseSolver K} {again : Bool} (ready : Ready problem config before)
variable (step : Solver.OnePass (denseEnvironment elapsed) before again after)
variable (tight : Kkt.Tight problem before.working.included before.point)

include ready step tight in
/-- From a point on its rows, a pass whose system is answered descends. -/
theorem pass_descends (convex : problem.Convex) (valid : 0 ≤ config.pivotTolerance)
    (entries : List K)
    (answer : ((before.overdue (denseEnvironment elapsed)).2.subproblem
      (denseEnvironment elapsed)).systemAnswer (denseEnvironment elapsed) = some entries) :
    ∃ factor, Descends problem before after entries factor := by
  have place := (looked_subproblem elapsed before).1
  have decisive := (ready.looked elapsed).subproblem elapsed
  have held := ready.tight_subproblem elapsed tight
  have landed := pass_point _ _ _ _ step.passed
  have length := Solver.pass_stepLength _ _ _ _ step.passed
  obtain ⟨_, _, _, _, rounds⟩ := Solver.subproblem_frame (denseEnvironment elapsed)
    (before.overdue (denseEnvironment elapsed)).2
  have blank : ((before.overdue (denseEnvironment elapsed)).2.subproblem
      (denseEnvironment elapsed)).stepLength = none := by rw [rounds]
  simp only [Solver.landing] at landed length
  generalize (before.overdue (denseEnvironment elapsed)).2.subproblem (denseEnvironment elapsed) =
    round at place decisive held landed length blank answer
  obtain ⟨moved, recorded⟩ := decisive.landed_stride entries answer valid
  have gained := (decisive.landed_descends entries answer held convex valid).2
  have range := round.stride_range entries
  rw [decisive.heading_eq, place] at moved gained
  rw [← landed] at moved gained
  refine ⟨round.stride entries, range.1, range.2, moved, gained, ?_⟩
  rw [length]
  rcases recorded with stepped | ⟨still, same⟩
  · exact Or.inl stepped
  · exact Or.inr ⟨same.trans blank, still⟩

include ready step tight in
/-- From a point on its rows, no pass raises the objective. -/
theorem pass_objective_le (convex : problem.Convex) (valid : 0 ≤ config.pivotTolerance) :
    problem.objective after.point ≤ problem.objective before.point := by
  have decisive := (ready.looked elapsed).subproblem elapsed
  cases answer : ((before.overdue (denseEnvironment elapsed)).2.subproblem
      (denseEnvironment elapsed)).systemAnswer (denseEnvironment elapsed) with
  | none =>
      obtain ⟨_, _, landed⟩ := Solver.landed_unsolved (denseEnvironment elapsed) _ answer
      rw [pass_point _ _ _ _ step.passed, Solver.landing, landed]
      exact (congrArg problem.objective (looked_subproblem elapsed before).1).le
  | some entries =>
      obtain ⟨factor, descends⟩ := ready.pass_descends step tight convex valid entries answer
      have solution := decisive.solution valid entries answer
      have width : (Linear.subtract (entries.take problem.size) before.point).length =
          problem.size := by
        rw [Linear.length_subtract, solution.size, ready.point_size, Nat.min_self]
      rw [descends.objective, sub_le_self_iff]
      exact convex.gain_nonneg _ width factor descends.nonneg descends.le_one

end Pass
end DenseSolver.Ready

/-! ### Runs -/

/-- No step of a run is stopped by a row whose slack counts as used up, but is not zero. -/
def Unsnapped (elapsed : Nat → K) (solver : DenseSolver K) (kick : Option (KickStart K)) : Prop :=
  ∀ before again after, solver.Boundary (denseEnvironment elapsed) kick true before →
    Solver.OnePass (denseEnvironment elapsed) before again after →
    ∀ row, ¬ before.SnapsInPass (denseEnvironment elapsed) row

/-- The objectives of a history fall, or stay, from each entry to the later ones. -/
def Falling (history : List (Entry K)) : Prop :=
  history.Pairwise fun earlier later => later.objective ≤ earlier.objective

section Runs
variable {solver start : DenseSolver K} {kick : Option (KickStart K)}
variable (ready : DenseSolver.Ready problem config solver)
variable (convex : problem.Convex) (valid : 0 ≤ config.pivotTolerance)
variable (begun : (solver.reset (denseEnvironment elapsed)).findStart (denseEnvironment elapsed)
  kick = (.ok true, start))
variable (tight : Kkt.Tight problem start.working.included start.point)

include ready convex valid begun tight in
theorem boundary_tight (never : Unsnapped elapsed solver kick) (again : Bool)
    (state : DenseSolver K)
    (here : solver.Boundary (denseEnvironment elapsed) kick again state) :
    Kkt.Tight problem state.working.included state.point := by
  induction here with
  | started other found =>
      rw [begun] at found
      obtain rfl : start = other := congrArg Prod.snd found
      exact tight
  | passed before after again earlier step ih =>
      have held := ready.boundary kick true earlier
      exact (held.pass_tight_iff step ih convex valid).mpr (never before again after earlier step)

include ready convex valid begun tight in
/-- The rows of a run stay tight just if no step is stopped by a row that is taken for used up. -/
theorem boundary_tight_iff :
    (∀ again state, solver.Boundary (denseEnvironment elapsed) kick again state →
        Kkt.Tight problem state.working.included state.point) ↔
      Unsnapped elapsed solver kick := by
  constructor
  · intro held before again after earlier step
    exact ((ready.boundary kick true earlier).pass_tight_iff step (held true before earlier) convex
      valid).mp (held again after (.passed before after again earlier step))
  · exact boundary_tight ready convex valid begun tight

include ready convex valid in
/-- The history falls, and the objective where a run stands is not more than any in it. -/
theorem boundary_falling
    (held : ∀ state, solver.Boundary (denseEnvironment elapsed) kick true state →
      Kkt.Tight problem state.working.included state.point) (again : Bool)
    (state : DenseSolver K) (here : solver.Boundary (denseEnvironment elapsed) kick again state) :
    Falling state.history.toList ∧
      ∀ entry ∈ state.history.toList, problem.objective state.point ≤ entry.objective := by
  induction here with
  | started start found =>
      rw [(Solver.started_blank true start found).1]
      exact ⟨.nil, by simp⟩
  | passed before after again earlier step ih =>
      have going := ready.boundary kick true earlier
      have lower := going.pass_objective_le step (held before earlier) convex valid
      have finite : ¬ Solver.Guarded (denseEnvironment elapsed)
          (before.overdue (denseEnvironment elapsed)).2 := by
        rintro ⟨_, infinite⟩
        simp [Solver.allFinite, Exact.allFinite] at infinite
      obtain ⟨entry, recorded⟩ := step.recorded finite
      have objective : entry.objective = problem.objective after.point := by
        rw [recorded.objective, ((going.looked elapsed).passed step.passed).problem_eq]
      have above (older : Entry K) (member : older ∈ before.history.toList) :
          problem.objective after.point ≤ older.objective :=
        lower.trans (ih.2 older member)
      rw [recorded.history, Array.toList_push]
      constructor
      · refine List.pairwise_append.mpr ⟨ih.1, List.pairwise_singleton _ _, ?_⟩
        intro older member newer only
        rw [List.mem_singleton.mp only, objective]
        exact above older member
      · intro older member
        rcases List.mem_append.mp member with earlier | only
        · exact above older earlier
        · rw [List.mem_singleton.mp only, objective]

end Runs

/-- In exact arithmetic over a convex objective, from a start on its rows: the equality rows and the
included rows are tight between all passes of a run just if no step is stopped by a row whose slack
is taken for zero; then every pass whose system is answered goes a part `factor` of the way, between
none and all, and lowers the objective by `factor - factor² / 2` times the curvature of the way; and
the objectives in the history never rise. -/
theorem run_descends {method : ProgramMethod K}
    {session : Session K (DenseSystems K) (ProgramSource K)}
    (reached : Session.Reached problem config method session)
    (opened : session.solver.isReleased = false) (convex : problem.Convex)
    (valid : 0 ≤ config.pivotTolerance) (elapsed : Nat → K) (kick : Option (KickStart K))
    (start : DenseSolver K)
    (begun : (session.solver.reset (denseEnvironment elapsed)).findStart
      (denseEnvironment elapsed) kick = (.ok true, start))
    (tight : Kkt.Tight problem start.working.included start.point) :
    ((∀ again state, session.solver.Boundary (denseEnvironment elapsed) kick again state →
          Kkt.Tight problem state.working.included state.point) ↔
        Unsnapped elapsed session.solver kick) ∧
      (Unsnapped elapsed session.solver kick →
        (∀ before again after entries,
          session.solver.Boundary (denseEnvironment elapsed) kick true before →
          Solver.OnePass (denseEnvironment elapsed) before again after →
          ((before.overdue (denseEnvironment elapsed)).2.subproblem
            (denseEnvironment elapsed)).systemAnswer (denseEnvironment elapsed) = some entries →
          ∃ factor, Descends problem before after entries factor) ∧
        ∀ budget, Falling
          (session.solver.solve (denseEnvironment elapsed) budget kick).2.history.toList) := by
  have ready := reached.kept.ready opened
  have held := boundary_tight ready convex valid begun tight
  refine ⟨boundary_tight_iff ready convex valid begun tight, ?_⟩
  intro never
  constructor
  · intro before again after entries earlier step answer
    exact (ready.boundary kick true earlier).pass_descends step (held never true before earlier)
      convex valid entries answer
  · intro budget
    obtain ⟨again, state, here, same⟩ := Solver.solve_history begun budget
    rw [same]
    exact (boundary_falling ready convex valid (held never true) again state here).1

/-! ### A descent of two passes -/

section TwoPasses
variable {R Systems Programs : Type} [Scalar R] {environment : Environment R Systems Programs}
variable {solver start next ended : Solver R Systems Programs} {kick : Option (KickStart R)}

/-- The states of a run that makes two passes. -/
theorem Solver.Boundary.of_two_passes
    (begun : (solver.reset environment).findStart environment kick = (.ok true, start))
    (first : (start.overdue environment).2.pass environment = (true, next))
    (second : (next.overdue environment).2.pass environment = (false, ended)) (again : Bool)
    (state : Solver R Systems Programs) (here : solver.Boundary environment kick again state) :
    (again = true ∧ (state = start ∨ state = next)) ∨ again = false ∧ state = ended := by
  induction here with
  | started other found =>
      rw [begun] at found
      exact Or.inl ⟨rfl, Or.inl (congrArg Prod.snd found).symm⟩
  | passed before after again earlier step ih =>
      have passed := step.passed
      rcases ih with ⟨_, rfl | rfl⟩ | ⟨done, _⟩
      · rw [first, Prod.mk.injEq] at passed
        exact Or.inl ⟨passed.1.symm, Or.inr passed.2.symm⟩
      · rw [second, Prod.mk.injEq] at passed
        exact Or.inr ⟨passed.1.symm, passed.2.symm⟩
      · simp at done

end TwoPasses

/-- A run in the valley: the first pass takes the second row in, the other one ends it. -/
theorem valley_passes : ∃ start next ended,
    ((freshSession valley).solver.reset (denseEnvironment stoppedClock)).findStart
        (denseEnvironment stoppedClock) (some (.point [0, 1])) = (.ok true, start) ∧
      Solver.OnePass (denseEnvironment stoppedClock) start true next ∧
      (next.overdue (denseEnvironment stoppedClock)).2.pass (denseEnvironment stoppedClock) =
        (false, ended) ∧
      (start.working.included = [0] ∧ next.working.included = [0, 1] ∧
        next.stepLength = some (1 / 2) ∧
        (((start.overdue (denseEnvironment stoppedClock)).2.subproblem
          (denseEnvironment stoppedClock)).systemAnswer
            (denseEnvironment stoppedClock)).isSome) ∧
      ∀ state ∈ [start, next, ended],
        Linear.apply (Kkt.rows valley state.working.included) state.point =
          Kkt.bounds valley state.working.included := by
  have paired (pass : Bool × DenseSolver ℚ) (turn : Bool) (told : pass.1 = turn) :
      pass = (turn, pass.2) := by rw [← told]
  let found := ((freshSession valley).solver.reset
    (denseEnvironment stoppedClock)).findStart (denseEnvironment stoppedClock)
      (some (.point [0, 1]))
  have started : found.1.toOption = some true := by decide +kernel
  exact ⟨found.2, _, _, Prod.ext (ok_of_toOption found.1 true started) rfl,
    ⟨by decide +kernel, by decide +kernel, paired _ true (by decide +kernel)⟩,
    paired _ false (by decide +kernel), by decide +kernel, by decide +kernel⟩

/-- In the valley the first pass goes half of the way along the first row and the second one stays;
no row snaps, so the history falls. -/
theorem run_descends_valley : ∃ start next,
    ((freshSession valley).solver.reset (denseEnvironment stoppedClock)).findStart
        (denseEnvironment stoppedClock) (some (.point [0, 1])) = (.ok true, start) ∧
      start.working.included = [0] ∧ next.working.included = [0, 1] ∧
      Unsnapped stoppedClock (freshSession valley).solver (some (.point [0, 1])) ∧
      (∃ entries, Descends valley start next entries (1 / 2)) ∧
      Falling ((freshSession valley).solver.solve (denseEnvironment stoppedClock) 2
        (some (.point [0, 1]))).2.history.toList := by
  obtain ⟨start, next, ended, begun, step, stops, ⟨one, both, half, solved⟩, held⟩ := valley_passes
  obtain ⟨entries, answer⟩ := Option.isSome_iff_exists.mp solved
  obtain ⟨unsnapped, descends⟩ := run_descends (freshSession_reached valley) rfl valley_convex
    plainConfig_nonnegative.pivot stoppedClock (some (.point [0, 1])) start begun
    (held start (by simp))
  have never : Unsnapped stoppedClock (freshSession valley).solver (some (.point [0, 1])) := by
    refine unsnapped.mp fun again state here => held state ?_
    rcases here.of_two_passes begun step.passed stops with ⟨_, rfl | rfl⟩ | ⟨_, rfl⟩
    all_goals simp
  obtain ⟨factor, descent⟩ := (descends never).1 start true next entries (.started start begun)
    step answer
  have whole : factor = 1 / 2 := by
    rcases descent.stepLength with length | ⟨none, _⟩
    · rw [half] at length
      exact (Option.some.inj length).symm
    · rw [half] at none
      simp at none
  rw [whole] at descent
  exact ⟨start, next, begun, one, both, never, ⟨entries, descent⟩, (descends never).2 2⟩

end ConvexQP
