import ConvexQP.Proofs.PhaseOne.Search
import ConvexQP.Proofs.Solver.Exact

/-!
The start of a run. A point that is given and holds is taken; otherwise the linear programmes
decide, and what they say of the problem is right when their answers are.
-/
namespace ConvexQP
open scoped Exact

namespace Solver
section Frames
variable {R Systems Programs : Type} [Scalar R]
variable (environment : Environment R Systems Programs) (solver : Solver R Systems Programs)

/-! ### What a start writes -/

theorem trim_frame (steps : Nat) : ∃ multipliers working systems notes,
    trim environment steps solver = { solver with multipliers, working, systems, notes } := by
  induction steps generalizing solver with
  | zero => exact ⟨_, _, _, _, rfl⟩
  | succ steps ih =>
      simp only [trim]
      split
      · rename_i more
        have some : solver.working.included ≠ [] := by
          rw [← List.length_pos_iff, WorkingSet.length_included]
          simpa using (Bool.and_eq_true_iff.mp more).2
        obtain ⟨row, _, spoken, relaxed⟩ := relax_frame environment solver some
        obtain ⟨multipliers, working, systems, notes, trimmed⟩ := ih (solver.relax environment)
        refine ⟨multipliers, working, systems, notes, ?_⟩
        rw [trimmed, relaxed]
        rfl
      · exact ⟨_, _, _, _, rfl⟩

theorem includeTight_frame :
    ∃ working, solver.includeTight = { solver with working } := ⟨_, rfl⟩

theorem activate_frame : ∃ multipliers working systems notes,
    solver.activate environment =
      { solver with multipliers, working, systems, notes, verdict := .feasible } := by
  obtain ⟨multipliers, working, systems, notes, trimmed⟩ := trim_frame environment
    solver.includeTight solver.includeTight.working.includedCount
  refine ⟨multipliers, working, environment.forgetSystem systems, notes, ?_⟩
  simp only [activate, trimmed]
  rfl

theorem begin_feasible : ∃ multipliers working systems notes,
    solver.begin environment true = (true,
      { solver with multipliers, working, systems, notes, verdict := .feasible }) := by
  obtain ⟨multipliers, working, systems, spoken, activated⟩ := activate_frame environment solver
  obtain ⟨notes, told⟩ := traceSlacks_frame
    { solver with multipliers, working, systems, notes := spoken, verdict := .feasible } .initial
  refine ⟨multipliers, working, systems, notes, ?_⟩
  simp only [begin, if_true, activated, told]
  rfl

theorem begin_infeasible : ∃ notes, solver.begin environment false = (false,
    { solver.setPoint (Linear.zeros solver.problem.size) with verdict := .infeasible, notes }) := by
  obtain ⟨notes, told⟩ := traceSlacks_frame
    ({ solver with verdict := .infeasible }.setPoint (Linear.zeros solver.problem.size)) .initial
  refine ⟨notes, ?_⟩
  simp only [begin, Bool.false_eq_true, if_false, told]
  rfl

omit [Scalar R] in
/-- Multipliers are stored, or do not fit the rows. -/
theorem seedMultipliers_frame (seeds : List R) :
    (∃ multipliers, solver.seedMultipliers seeds = .ok { solver with multipliers }) ∨
      (seeds.length ≠ solver.inequalityMultipliers.length ∧
        ∃ cause, solver.seedMultipliers seeds = .error cause) := by
  simp only [seedMultipliers]
  split
  · exact Or.inl ⟨_, rfl⟩
  · split
    · exact Or.inl ⟨_, rfl⟩
    · rename_i unfit
      split
      · exact Or.inl ⟨_, rfl⟩
      · exact Or.inr ⟨unfit, _, rfl⟩

/-! ### Where a search leads -/

/-- What is done with the start a search came back with. -/
def settle (start : PhaseOne.Start R) (status : ProgramStatus) :
    Except Error Bool × Solver R Systems Programs :=
  if start.found then
    if solver.iterate.vector.length < start.point.length then
      (.error (.sourceTooLong start.point.length solver.iterate.vector.length), solver)
    else
      match (solver.setPoint start.point).seedMultipliers start.multipliers with
      | .error cause => (.error cause, solver.setPoint start.point)
      | .ok seeded => (.ok (seeded.begin environment true).1, (seeded.begin environment true).2)
  else if status = .infeasible then
    (.ok (solver.begin environment false).1, (solver.begin environment false).2)
  else
    (.ok false, { solver.note (.noStart status) with verdict := .failed }.setPoint start.point)

/-- The search behind a start. -/
def searched (given : Option (List R)) : PhaseOne.Search R Programs :=
  PhaseOne.search environment.solveProgram solver.problem solver.programOptions
    solver.config.tracing solver.programs given

theorem searchStart_settle (given : Option (List R)) (start : PhaseOne.Start R)
    (outcome : (solver.searched environment given).outcome = .ok start) :
    ∃ notes, solver.searchStart environment given =
      { solver with programs := (solver.searched environment given).programs, notes }.settle
        environment start (solver.searched environment given).info.status := by
  obtain ⟨notes, told⟩ := noteAll_frame
    { solver with programs := (solver.searched environment given).programs }
    (solver.searched environment given).notes
  refine ⟨notes, ?_⟩
  rw [← told]
  simp only [searched] at outcome
  simp only [searchStart, outcome]
  rfl

variable {solver}

/-- A start that was found is taken, unless its multipliers do not fit. -/
theorem settle_found (sized : solver.Sized) (start : PhaseOne.Start R) (status : ProgramStatus)
    (found : start.found = true) (size : start.point.length = solver.problem.size) :
    (∃ next, solver.settle environment start status = (.ok true, next) ∧
      next.point = start.point ∧ next.verdict = .feasible ∧ next.programs = solver.programs) ∨
    (start.multipliers.length ≠ solver.inequalityCount ∧
      ∃ cause next, solver.settle environment start status = (.error cause, next)) := by
  have room : ¬ solver.iterate.vector.length < start.point.length := by
    rw [size, ← sized.point_length]
    exact lt_irrefl _
  have there := sized.point_setPoint start.point size
  simp only [settle, found, if_true, if_neg room]
  rcases seedMultipliers_frame (solver.setPoint start.point) start.multipliers with
    ⟨multipliers, seeded⟩ | ⟨unfit, cause, refused⟩
  · obtain ⟨_, working, systems, spoken, begun⟩ :=
      begin_feasible environment { solver.setPoint start.point with multipliers }
    left
    simp only [seeded, begun]
    exact ⟨_, rfl, there, rfl, rfl⟩
  · right
    simp only [refused]
    exact ⟨sized.length_inequalityMultipliers ▸ unfit, cause, _, rfl⟩

variable (solver) in
/-- Without a start the verdict tells why. -/
theorem settle_missing (start : PhaseOne.Start R) (status : ProgramStatus)
    (missing : start.found = false) :
    ∃ next, solver.settle environment start status = (.ok false, next) ∧
      next.verdict = (if status = .infeasible then .infeasible else .failed) ∧
      next.programs = solver.programs := by
  simp only [settle, missing, Bool.false_eq_true, if_false]
  by_cases infeasible : status = .infeasible
  · obtain ⟨notes, begun⟩ := begin_infeasible environment solver
    simp only [infeasible, if_true, begun]
    exact ⟨_, rfl, rfl, rfl⟩
  · simp only [infeasible, if_false]
    exact ⟨_, rfl, rfl, rfl⟩

/-! ### Points that are not taken -/

variable (solver)

/-- The solver once a point was given that its test rejects. -/
def placed (entries : List R) : Solver R Systems Programs :=
  { solver with working := solver.working.clear }.setPoint entries

/-- A search starts when no point is given, or one that is not used, or one that fails the test;
only the last leaves a point to search from. -/
inductive Searches : Option (KickStart R) → Option (List R) → Prop
  | absent : Searches none none
  | unused (kick : KickStart R) : kick.entries.length = solver.problem.size →
      (kick.usable && Linear.allFinite kick.entries) = false → Searches (some kick) none
  | rejected (kick : KickStart R) : kick.entries.length = solver.problem.size →
      (kick.usable && Linear.allFinite kick.entries) = true →
      (solver.placed kick.entries).isFeasible false = false →
      Searches (some kick) (some kick.entries)

/-- A point that is not used counts as none. -/
theorem findStart_unused (kick : KickStart R) (size : kick.entries.length = solver.problem.size)
    (unused : (kick.usable && Linear.allFinite kick.entries) = false) :
    solver.findStart environment (some kick) = solver.findStart environment none := by
  simp only [findStart, size, ne_eq, not_true_eq_false, if_false, unused, Bool.false_eq_true]

variable {solver}

theorem Searches.length {kick : Option (KickStart R)} {given : Option (List R)}
    (searches : solver.Searches kick given) (point : List R) (here : given = some point) :
    point.length = solver.problem.size := by
  cases searches with
  | absent => simp at here
  | unused => simp at here
  | rejected kick size =>
      rw [← Option.some.inj here]
      exact size

theorem Searches.findStart_eq {kick : Option (KickStart R)} {given : Option (List R)}
    (searches : solver.Searches kick given) : ∃ iterate,
    solver.findStart environment kick =
        { solver with working := solver.working.clear, iterate }.searchStart environment given ∧
      Follows environment solver { solver with working := solver.working.clear, iterate } := by
  have emptied : Follows environment solver { solver with working := solver.working.clear } :=
    { (Follows.refl solver : Follows environment solver solver) with
      rows := WorkingSet.size_clear solver.working }
  cases searches with
  | absent => exact ⟨solver.iterate, rfl, emptied⟩
  | unused kick size unused =>
      exact ⟨solver.iterate, findStart_unused environment solver kick size unused, emptied⟩
  | rejected kick size usable unfit =>
      refine ⟨(solver.placed kick.entries).iterate, ?_,
        emptied.trans (setPoint_follows environment _ kick.entries)⟩
      simp only [placed] at unfit
      simp only [findStart, size, ne_eq, not_true_eq_false, if_false, usable, if_true, unfit,
        Bool.false_eq_true]
      rfl

/-- A start is refused, or searched for, or the point that was given is taken. -/
theorem findStart_cases (solver : Solver R Systems Programs) (kick : Option (KickStart R)) :
    (∃ cause refused, solver.findStart environment kick = (.error cause, refused)) ∨
    (∃ given, solver.Searches kick given) ∨
    (∃ entries, (solver.placed entries).isFeasible false = true ∧
      ∃ multipliers working systems notes, solver.findStart environment kick = (.ok true,
        { solver.placed entries with
          multipliers, working, systems, notes, verdict := .feasible })) := by
  cases kick with
  | none => exact Or.inr (Or.inl ⟨none, .absent⟩)
  | some kick =>
      by_cases size : kick.entries.length = solver.problem.size
      · cases usable : kick.usable && Linear.allFinite kick.entries with
        | false => exact Or.inr (Or.inl ⟨none, .unused kick size usable⟩)
        | true =>
            cases held : (solver.placed kick.entries).isFeasible false with
            | false => exact Or.inr (Or.inl ⟨_, .rejected kick size usable held⟩)
            | true =>
                obtain ⟨multipliers, working, systems, notes, begun⟩ :=
                  begin_feasible environment (solver.placed kick.entries)
                refine Or.inr (Or.inr ⟨kick.entries, held, multipliers, working, systems, notes,
                  ?_⟩)
                simp only [placed] at held begun
                simp only [findStart, size, ne_eq, not_true_eq_false, if_false, usable, if_true,
                  held, begun]
                rfl
      · left
        refine ⟨.kickStartSize kick.entries.length solver.problem.size,
          { solver with working := solver.working.clear }, ?_⟩
        simp only [findStart, ne_eq, size, not_false_eq_true, if_true]

end Frames

/-! ### What a start decides -/

section Decides
open PhaseOne
variable {K : Type} [Field K] [LinearOrder K] [IsStrictOrderedRing K] [Rooted K]
variable {Systems Programs : Type} (environment : Environment K Systems Programs)
variable (solver : Solver K Systems Programs)

/-- The verdict the last answer of a search leads to. -/
def verdictAfter (answers : List (ProgramAnswer K)) : Verdict :=
  match statusAfter answers with
  | .optimal => .feasible
  | .infeasible => .infeasible
  | .unbounded | .failed => .failed

omit [Field K] [LinearOrder K] [IsStrictOrderedRing K] [Rooted K] in
theorem verdictAfter_eq_iff (answers : List (ProgramAnswer K)) :
    (verdictAfter answers = .feasible ↔ statusAfter answers = .optimal) ∧
      (verdictAfter answers = .infeasible ↔ statusAfter answers = .infeasible) := by
  simp only [verdictAfter]
  cases statusAfter answers <;> simp

variable {solver} {kick : Option (KickStart K)} {given : Option (List K)}
variable (sized : solver.Sized) (searches : solver.Searches kick given)

include sized searches in
/-- A start goes by the last answer, and takes a feasible point from it. An answer with reduced
costs of another length is refused. -/
theorem findStart_settled
    (trusted : Trusted environment.solveProgram solver.problem solver.programOptions
      (hint solver.problem given) solver.programs) :
    ∃ answers after, Exchange environment.solveProgram solver.problem solver.programOptions
        (hint solver.problem given) solver.programs answers after ∧
      ((∃ found next, solver.findStart environment kick = (.ok found, next) ∧
          next.programs = after ∧ next.verdict = verdictAfter answers ∧
          (found = true ↔ statusAfter answers = .optimal) ∧
          (found = true → solver.problem.Feasible next.point)) ∨
        ((∃ answer ∈ answers.getLast?, answer.code = 0 ∧ ∃ reduced,
            answer.marginals = some reduced ∧
              reduced.length ≠ (hint solver.problem given).length) ∧
          ∃ cause next, solver.findStart environment kick = (.error cause, next))) := by
  obtain ⟨iterate, begun, emptied⟩ := searches.findStart_eq environment
  let cleared : Solver K Systems Programs :=
    { solver with working := solver.working.clear, iterate }
  obtain ⟨answers, exchange, outcome, status, _⟩ := search_exchange environment.solveProgram
    solver.problem solver.programOptions solver.config.tracing solver.programs given
    searches.length
  have ready (notes : Array (Note K)) : ({ cleared with
      programs := (cleared.searched environment given).programs, notes } :
        Solver K Systems Programs).Sized := by
    have searched : Follows environment cleared { cleared with
        programs := (cleared.searched environment given).programs, notes } :=
      .same rfl rfl rfl rfl rfl rfl
    exact (sized.follows emptied).follows searched
  refine ⟨answers, _, exchange, ?_⟩
  by_cases optimal : statusAfter answers = .optimal
  · obtain ⟨start, made, found, feasible, fits⟩ :=
      exchange.outcome_optimal searches.length trusted optimal
    obtain ⟨notes, settled⟩ := searchStart_settle environment cleared given start
      (outcome.trans made)
    rw [begun, settled]
    rcases settle_found environment (ready notes) start
        (cleared.searched environment given).info.status found feasible.size with
      ⟨next, taken, point, verdict, programs⟩ | ⟨unfit, cause, next, refused⟩
    · refine Or.inl ⟨true, next, taken, programs, ?_, iff_of_true rfl optimal, ?_⟩
      · rw [verdict, verdictAfter, optimal]
      · intro _
        rw [point]
        exact feasible
    · refine Or.inr ⟨?_, cause, next, refused⟩
      by_contra every
      apply unfit
      apply fits
      intro answer last code reduced told
      by_contra other
      exact every ⟨answer, last, code, reduced, told, other⟩
  · obtain ⟨notes, settled⟩ := searchStart_settle environment cleared given _
      (outcome.trans (outcome_other optimal))
    obtain ⟨next, refused, verdict, programs⟩ := settle_missing environment
      { cleared with programs := (cleared.searched environment given).programs, notes }
      ⟨false, given.getD (Linear.zeros solver.problem.size),
        Linear.zeros solver.problem.inequalities.count⟩
      (cleared.searched environment given).info.status rfl
    rw [begun, settled]
    refine Or.inl ⟨false, next, refused, programs, ?_, iff_of_false (by simp) optimal, by simp⟩
    have told : (cleared.searched environment given).info.status = statusAfter answers := status
    rw [verdict, told, verdictAfter]
    cases known : statusAfter answers with
    | optimal => exact absurd known optimal
    | infeasible => rfl
    | unbounded => rfl
    | failed => rfl

/-- With truthful answers a search for a start decides whether there are feasible points, by at most
two programmes, and goes by the last answer. It takes a feasible point just if it found one, it
ends as infeasible only if there is none, and it fails only for an answer without a meaning, never
for an unbounded one. A point that is not finite counts as none, in any arithmetic. -/
theorem findStart_decides (environment : Environment K Systems Programs)
    (solver : Solver K Systems Programs) (sized : solver.Sized)
    (truthful : ∀ state (program : LinearProgram K),
      program.Truthful (environment.solveProgram state program).1)
    (kick : Option (KickStart K)) (given : Option (List K))
    (searches : solver.Searches kick given) :
    (∃ answers found next,
      Exchange environment.solveProgram solver.problem solver.programOptions
        (hint solver.problem given) solver.programs answers next.programs ∧
      answers.length ≤ 2 ∧
      solver.findStart environment kick = (.ok found, next) ∧
      next.verdict = verdictAfter answers ∧
      (found = true ↔ next.verdict = .feasible) ∧
      (found = true → solver.problem.Feasible next.point) ∧
      (next.verdict = .infeasible → ∀ point, ¬ solver.problem.Feasible point) ∧
      (next.verdict = .failed → ∃ answer, answers.getLast? = some answer ∧
        answer.code ≠ 0 ∧ answer.code ≠ 2 ∧ answer.code ≠ 3)) ∧
    ∀ (R Systems Programs : Type) [Scalar R] (environment : Environment R Systems Programs)
      (solver : Solver R Systems Programs) (kick : KickStart R),
      kick.entries.length = solver.problem.size → Linear.allFinite kick.entries = false →
      solver.findStart environment (some kick) = solver.findStart environment none := by
  refine ⟨?_, ?_⟩
  · have trusted : Trusted environment.solveProgram solver.problem solver.programOptions
        (hint solver.problem given) solver.programs :=
      ⟨(truthful _ _).toSound, (truthful _ _).toSound⟩
    obtain ⟨answers, after, exchange, settled | ⟨⟨answer, last, code, reduced, told, unfit⟩, _⟩⟩ :=
      findStart_settled environment sized searches trusted
    · obtain ⟨found, next, begun, programs, verdict, optimal, feasible⟩ := settled
      have bounded := exchange.bounded _ truthful
      refine ⟨answers, found, next, programs ▸ exchange, ?_, begun, verdict, ?_, feasible, ?_, ?_⟩
      · cases exchange <;> simp
      · rw [optimal, verdict]
        exact (verdictAfter_eq_iff answers).1.symm
      · intro infeasible point
        apply exchange.infeasible searches.length trusted
        rw [verdict] at infeasible
        exact (verdictAfter_eq_iff answers).2.mp infeasible
      · intro failed
        cases last : answers.getLast? with
        | none =>
            rw [verdict, verdictAfter, statusAfter, last] at failed
            simp at failed
        | some answer =>
            obtain ⟨zero, two, three⟩ := ProgramStatus.ofCode_eq_iff answer.code
            rw [verdict, verdictAfter] at failed
            rw [statusAfter, last] at failed bounded
            simp only [Option.map_some, Option.getD_some] at failed bounded
            refine ⟨answer, rfl, ?_, ?_, mt three.mpr bounded⟩
            · intro code
              rw [zero.mpr code] at failed
              simp at failed
            · intro code
              rw [two.mpr code] at failed
              simp at failed
    · obtain ⟨other, sizes, honest⟩ := exchange.last_answer _
        (truthful _ _) (truthful _ _) answer last
      exact absurd ((honest.marginals code reduced told).trans sizes) unfit
  · intro R Systems Programs _ environment solver kick size infinite
    apply findStart_unused environment solver kick size
    rw [infinite, Bool.and_false]

end Decides
end Solver

/-! ### A hint without a bound -/

/-- Half of `x²` and `x`, where `x` is not more than zero. -/
def fallingLine : Problem ℚ := line 1 (-1) 1 0

/-- Answers that know the rows of the falling line, and count what they were asked. -/
def fallingAnswers (asked : Nat) (program : LinearProgram ℚ) : ProgramAnswer ℚ × Nat :=
  (if program.equalities = some ([[1, -1, 1]], [0]) then
    if program.cost = [1, -1, 0] then ⟨3, none, none, "unbounded"⟩
    else if program.cost = [0, 0, 0] then ⟨0, some [0, 0, 0], none, "optimal"⟩
    else ⟨4, none, none, "unknown"⟩
  else ⟨4, none, none, "unknown"⟩, asked + 1)

theorem fallingAnswers_truthful (asked : Nat) (program : LinearProgram ℚ) :
    program.Truthful (fallingAnswers asked program).1 := by
  have silent : program.Truthful ⟨4, none, none, "unknown"⟩ := by
    refine ⟨⟨?_, ?_⟩, ?_, ?_⟩ <;> intro code <;> simp at code
  simp only [fallingAnswers]
  split
  · rename_i rows
    -- Both parts of the variable and the slack may grow together.
    have meets (sizes : program.cost.length = 3) (step : ℚ) (forward : 0 ≤ step) :
        program.Meets [0, step, step] := by
      refine ⟨sizes.symm, by simp [forward], ?_⟩
      intro block found
      rw [← Option.some.inj (rows.symm.trans found)]
      simp [Linear.apply]
    split
    · rename_i cost
      have sizes : program.cost.length = 3 := by rw [cost]; rfl
      refine ⟨⟨by simp, by simp⟩, fun _ => ⟨⟨_, meets sizes 0 le_rfl⟩, ?_⟩, by simp⟩
      intro floor
      refine ⟨_, meets sizes (max 0 (1 - floor)) (le_max_left _ _), ?_⟩
      have far : 1 - floor ≤ max 0 (1 - floor) := le_max_right _ _
      simp only [cost, Linear.dot_cons, Linear.dot_nil]
      linarith
    · split
      · rename_i cost
        have free : program.cost = Linear.zeros 3 := cost
        refine ⟨⟨fun _ => ⟨_, rfl, meets (by rw [cost]; rfl) 0 le_rfl, ?_⟩, by simp⟩, by simp,
          by simp⟩
        intro other _
        rw [free, Linear.dot_zeros, Linear.dot_zeros]
      · exact silent
  · exact silent

def fallingEnvironment : Environment ℚ Unit Nat :=
  ⟨fun _ _ _ _ => (none, [], ()), id, fallingAnswers, stoppedClock⟩

def fallingSolver : Solver ℚ Unit Nat := Solver.new fallingLine plainConfig () 0

/-- The hint has no bound, so a second programme is asked for, and the start is found. -/
theorem findStart_decides_fallingLine : fallingSolver.Sized ∧
    (∀ state (program : LinearProgram ℚ),
      program.Truthful (fallingEnvironment.solveProgram state program).1) ∧
    fallingSolver.Searches none none ∧
    ∃ next, fallingSolver.findStart fallingEnvironment none = (.ok true, next) ∧
      next.programs = 2 ∧ fallingLine.Feasible next.point := by
  have sized : fallingSolver.Sized := Solver.new_sized _ _ _ _
  obtain ⟨⟨_, found, next, _, _, begun, _, _, feasible, _⟩, _⟩ :=
    Solver.findStart_decides fallingEnvironment fallingSolver sized fallingAnswers_truthful
      none none .absent
  have ran : (fallingSolver.findStart fallingEnvironment none).1.toOption = some true ∧
      (fallingSolver.findStart fallingEnvironment none).2.programs = 2 := by
    decide +kernel
  rw [begun] at ran
  obtain rfl : found = true := Option.some.inj ran.1
  exact ⟨sized, fallingAnswers_truthful, .absent, next, begun, ran.2, feasible rfl⟩

end ConvexQP
