import ConvexQP.Proofs.Solver.GivingUp
import ConvexQP.Proofs.Solver.Guard
import ConvexQP.Proofs.Solver.Logged
import ConvexQP.Proofs.Solver.Progress

/-!
The rounds of a pass. A pass asks for the solution of its system once for each row that it gives up,
and once more; whatever the answers are, every call is for one row less than the one before. Only
the last call can be answered, and only its answer moves the point and the multipliers that are not
cleared.
-/
namespace ConvexQP

/-- A solution has an entry for each entry of the right-hand side. What the entries are is left
open. -/
def Environment.AnswersFit {R Systems Programs : Type}
    (environment : Environment R Systems Programs) : Prop :=
  ∀ systems matrix rhs key entries,
    (environment.solveSystem systems matrix rhs key).1 = some entries → entries.length = rhs.length

namespace Solver
variable {R Systems Programs : Type} [Scalar R]

/-- The rows of a call and those of the next one. -/
def LosesOne (rows next : List Nat) : Prop := ∃ row ∈ rows, next = rows.erase row

/-- What the calls of a pass and the state before it leave: the keys of the calls without an answer
that were followed by another call, and the answer of the last call. -/
structure Retried (before after : Solver R Systems Programs) (failed : List (List Nat))
    (answer : Option (List R)) : Prop where
  starts : (failed ++ [after.working.included]).head? = some before.working.included
  shrinks : (failed ++ [after.working.included]).IsChain LosesOne
  exhausted : answer = none → after.working.included = []
  included : ∀ row ∈ after.working.included, row ∈ before.working.included
  cleared : ∀ row ∈ before.working.included, row ∉ after.working.included →
    after.inequalityMultipliers[row]? = some 0
  outside : ∀ row, row ∉ before.working.included →
    after.inequalityMultipliers[row]? = before.inequalityMultipliers[row]?
  unanswered : answer = none → after.point = before.point ∧
    after.equalityMultipliers = before.equalityMultipliers
  answered : ∀ entries, answer = some entries →
    after.equalityMultipliers =
        (entries.drop before.problem.size).take before.equalityCount ∧
      (after.point = before.point ∨ ∃ length, after.stepLength = some length ∧
        after.point = Linear.addScaled length (before.heading entries) before.point)
  blocking : ∀ row, after.blocking = some row → row ∈ after.working.excluded

/-! ### Calls -/

/-- A chain of sets with a row less each time ends before the rows do. -/
theorem length_le_of_losesOne (rows : List Nat) (later : List (List Nat))
    (chain : (rows :: later).IsChain LosesOne) : later.length ≤ rows.length := by
  induction later generalizing rows with
  | nil => exact Nat.zero_le _
  | cons next later ih =>
      obtain ⟨⟨row, member, rfl⟩, rest⟩ := List.isChain_cons_cons.mp chain
      have shorter := ih _ rest
      rw [List.length_erase_of_mem member] at shorter
      have some := List.length_pos_of_mem member
      rw [List.length_cons]
      omega

variable (environment : Environment R Systems Programs)

section Log
variable (solver : Solver R (Systems × List (SystemUse R)) Programs)

/-- A call is the last entry of the log it leaves. -/
theorem calls_systemsAfter :
    SystemUse.calls (solver.systemsAfter environment.logged).2 =
      SystemUse.calls solver.systems.2 ++
        [(solver.working.included, solver.systemAnswer environment.logged)] :=
  SystemUse.calls_solved _ _ _ _ _

/-- Before the decisive round no call is answered, and each is for one row less. -/
theorem narrowed_calls (rounds : Nat) : ∃ failed : List (List Nat),
    SystemUse.calls (narrowed environment.logged rounds solver).systems.2 =
        SystemUse.calls solver.systems.2 ++ failed.map (·, none) ∧
      (failed ++ [(narrowed environment.logged rounds solver).working.included]).head? =
        some solver.working.included ∧
      (failed ++ [(narrowed environment.logged rounds solver).working.included]).IsChain
        LosesOne := by
  induction rounds generalizing solver with
  | zero => exact ⟨[], by simp [narrowed], rfl, .singleton _⟩
  | succ rounds ih =>
      unfold narrowed
      split
      · rename_i again
        simp only [Bool.and_eq_true, Option.isNone_iff_eq_none, Bool.not_eq_true',
          List.isEmpty_eq_false_iff] at again
        obtain ⟨row, member, notes, relaxed⟩ :=
          round_frame environment.logged solver again.1 again.2
        have called := calls_systemsAfter environment solver
        rw [again.1] at called
        obtain ⟨failed, calls, starts, shrinks⟩ :=
          ih ((solver.solveSubproblem environment.logged).2.relax environment.logged)
        rw [relaxed] at calls starts shrinks
        rw [relaxed]
        have fewer : (solver.working.erase row).included = solver.working.included.erase row :=
          WorkingSet.included_erase solver.working row
        have told : SystemUse.calls ({ { solver with
            systems := solver.systemsAfter environment.logged }.excludeRow environment.logged row
              with notes }).systems.2 =
            SystemUse.calls (solver.systemsAfter environment.logged).2 := SystemUse.calls_forgot _
        refine ⟨solver.working.included :: failed, ?_, rfl, ?_⟩
        · rw [calls, told, called, List.append_assoc]
          rfl
        · rw [List.cons_append, List.isChain_cons]
          refine ⟨?_, shrinks⟩
          intro next first
          obtain rfl := Option.some.inj (starts.symm.trans first)
          exact ⟨row, member, fewer⟩
      · exact ⟨[], by simp, rfl, .singleton _⟩

end Log

/-! ### The last call -/

section Landing
variable {environment} {solver : Solver R Systems Programs}

/-- An answer has an entry for each variable and a multiplier for each active row. -/
theorem Sized.length_answer (sized : solver.Sized) (fits : environment.AnswersFit)
    (entries : List R) (answer : solver.systemAnswer environment = some entries) :
    entries.length =
      solver.problem.size + (solver.equalityCount + solver.working.included.length) :=
  (fits _ _ _ _ entries answer).trans (Kkt.length_rhs solver.problem _ sized.inside)

/-- A step leaves the point alone or goes its length along the direction. -/
theorem Sized.stepped_point_cases (sized : solver.Sized) (direction : List R)
    (size : direction.length = solver.problem.size) :
    (solver.stepped direction).point = solver.point ∨
      (solver.stepped direction).point =
        Linear.addScaled (solver.stepLimit direction).length direction solver.point := by
  by_cases moved : 0 < (solver.stepLimit direction).length
  · have there : (solver.stepped direction).iterate = solver.iterate.overwrite
        (Linear.addScaled (solver.stepLimit direction).length direction solver.point) :=
      if_pos moved
    have placed := sized.point_setPoint
      (Linear.addScaled (solver.stepLimit direction).length direction solver.point)
      (by rw [Linear.length_addScaled, size, sized.length_point, Nat.min_self])
    exact Or.inr ((congrArg (fun stored => stored.vector.toList) there).trans placed)
  · have still : (solver.stepped direction).iterate = solver.iterate := if_neg moved
    exact Or.inl (congrArg (fun stored => stored.vector.toList) still)

/-- An answer replaces the multipliers of the active rows, and may move the point towards its
own. -/
theorem Sized.landed_answered (sized : solver.Sized) (fits : environment.AnswersFit)
    (entries : List R) (answer : solver.systemAnswer environment = some entries) :
    (solver.landed environment).2.equalityMultipliers =
        (entries.drop solver.problem.size).take solver.equalityCount ∧
      (∀ row, row ∉ solver.working.included →
        (solver.landed environment).2.inequalityMultipliers[row]? =
          solver.inequalityMultipliers[row]?) ∧
      ((solver.landed environment).2.point = solver.point ∨
        ∃ length, (solver.landed environment).2.stepLength = some length ∧
          (solver.landed environment).2.point =
            Linear.addScaled length (solver.heading entries) solver.point) := by
  have length := sized.length_answer fits entries answer
  have counts : (entries.drop solver.problem.size).length =
      solver.equalityCount + solver.working.included.length := by
    rw [List.length_drop, length, Nat.add_sub_cancel_left]
  obtain ⟨equalities, inequalities⟩ := sized.answered_multipliers environment entries counts
  obtain ⟨_, _, _, _, _, landed⟩ := landed_frame environment solver entries answer
  refine ⟨?_, ?_, ?_⟩
  · rw [landed]
    exact equalities
  · intro row absent
    rw [landed]
    exact (congrArg (·[row]?) inequalities).trans (scatter_other _ _ _ row absent)
  · have size : (solver.heading entries).length = solver.problem.size := by
      rw [heading, Linear.length_subtract, List.length_take, length, sized.length_point]
      omega
    unfold Solver.landed
    rw [answer]
    simp only
    split
    · exact Or.inl rfl
    · -- Only multipliers were stored so far, so the step starts from the point itself.
      have followed : Follows environment solver (solver.answered environment entries) :=
        { (Follows.refl solver : Follows environment solver solver) with
          multipliers := Stored.overwrite_reuses solver.multipliers _
          systems := .solved solver.systems _ _ .start }
      have stored := sized.follows followed
      rcases stored.stepped_point_cases (solver.heading entries) size with still | moved
      · exact Or.inl still
      · exact Or.inr ⟨_, rfl, moved⟩

/-- The log goes on with the last call. -/
theorem landed_systems (environment : Environment R Systems Programs)
    (solver : Solver R Systems Programs) :
    (solver.landed environment).2.systems = solver.systemsAfter environment := by
  unfold landed
  cases solver.systemAnswer environment with
  | none => rfl
  | some entries =>
      simp only
      split
      · rfl
      · rfl

theorem Sized.subproblem_givesUp (sized : solver.Sized) (environment : Environment R Systems Programs) :
    (solver.subproblem environment).Sized ∧ GivesUp solver (solver.subproblem environment) := by
  have cleared : ({ solver with blocking := none, stepLength := none } :
      Solver R Systems Programs).Sized :=
    ⟨sized.iterate, sized.multipliers, sized.point_length, sized.multipliers_length, sized.rows⟩
  have given := cleared.narrowed_givesUp environment (solver.working.includedCount + 1)
  have kept := cleared.follows (narrowed_follows environment
    { solver with blocking := none, stepLength := none } (solver.working.includedCount + 1))
  exact ⟨kept, { given with }⟩

/-- What the rounds leave, whatever the last answer is. -/
theorem Sized.landing_retried (sized : solver.Sized) (fits : environment.AnswersFit)
    (failed : List (List Nat))
    (starts : (failed ++ [(solver.subproblem environment).working.included]).head? =
      some solver.working.included)
    (shrinks : (failed ++ [(solver.subproblem environment).working.included]).IsChain LosesOne) :
    Retried solver (solver.landing environment).2 failed
      ((solver.subproblem environment).systemAnswer environment) := by
  obtain ⟨held, given⟩ := sized.subproblem_givesUp environment
  have working := landing_working environment solver
  have rows : ∀ row, row ∉ (solver.subproblem environment).working.included →
      (solver.landing environment).2.inequalityMultipliers[row]? =
        (solver.subproblem environment).inequalityMultipliers[row]? := by
    intro row absent
    cases answer : (solver.subproblem environment).systemAnswer environment with
    | some entries => exact (held.landed_answered fits entries answer).2.1 row absent
    | none =>
        obtain ⟨_, _, landed⟩ := landed_unsolved environment _ answer
        rw [Solver.landing, landed]
        rfl
  refine ⟨?_, ?_, ?_, ?_, ?_, ?_, ?_, ?_, ?_⟩
  · rw [working]
    exact starts
  · rw [working]
    exact shrinks
  · intro none
    rw [working]
    exact subproblem_unsolved environment solver none
  · rw [working]
    exact given.included
  · intro row inside outside
    rw [working] at outside
    rw [rows row outside]
    exact given.cleared row inside outside
  · intro row outside
    have absent : row ∉ (solver.subproblem environment).working.included :=
      fun member => outside (given.included row member)
    rw [rows row absent]
    exact given.kept row fun member => absurd member outside
  · intro none
    obtain ⟨_, _, landed⟩ := landed_unsolved environment _ none
    rw [Solver.landing, landed]
    exact ⟨given.point, given.equalities⟩
  · intro entries answer
    obtain ⟨equalities, _, point⟩ := held.landed_answered fits entries answer
    have heading : (solver.subproblem environment).heading entries = solver.heading entries := by
      rw [Solver.heading, Solver.heading, given.problem, given.point]
    rw [heading, given.point] at point
    rw [equalityCount, given.problem] at equalities
    exact ⟨equalities, point⟩
  · intro row blocked
    rw [working]
    exact landing_blocking_excluded environment solver row blocked

end Landing

/-! ### Rounds that are not used -/

section Rounds
variable (solver : Solver R Systems Programs)

/-- A round that is to be repeated gave up one row. -/
theorem respond_again (next : Solver R Systems Programs)
    (again : (solver.solveSubproblem environment).2.respond environment
      (solver.solveSubproblem environment).1 = (none, next)) :
    next.working.includedCount + 1 = solver.working.includedCount := by
  cases answer : solver.systemAnswer environment with
  | some entries =>
      obtain ⟨notes, solved⟩ := solveSubproblem_some environment solver entries answer
      rw [solved] at again
      cases congrArg Prod.fst again
  | none =>
      by_cases empty : solver.working.included = []
      · obtain ⟨notes, unsolved⟩ := solveSubproblem_none environment solver answer
        rw [unsolved] at again
        simp only [respond, empty, List.isEmpty_nil, if_true] at again
        cases congrArg Prod.fst again
      · obtain ⟨row, member, notes, relaxed⟩ := round_frame environment solver answer empty
        obtain ⟨told, unsolved⟩ := solveSubproblem_none environment solver answer
        have nonempty : solver.working.included.isEmpty = false :=
          List.isEmpty_eq_false_iff.mpr empty
        rw [unsolved] at again relaxed
        simp only [respond, nonempty, Bool.false_eq_true, if_false] at again
        obtain rfl := congrArg Prod.snd again
        rw [relaxed]
        exact WorkingSet.includedCount_erase solver.working row member

/-- With a round for each included row and one more, further rounds change nothing. -/
theorem attempt_more (rounds more : Nat) (enough : solver.working.includedCount < rounds) :
    attempt environment (rounds + more) solver = attempt environment rounds solver := by
  induction rounds generalizing solver with
  | zero => exact absurd enough (Nat.not_lt_zero _)
  | succ rounds ih =>
      rw [Nat.add_right_comm]
      unfold attempt
      simp only
      split
      · rfl
      · rename_i next again
        have fewer := respond_again environment solver next again
        exact ih next (by omega)

end Rounds

/-! ### A pass without buffers -/

omit [Scalar R] in
theorem overwrite_of_empty {Item : Type} (stored : Stored Item) (items : List Item)
    (empty : stored.vector.length = 0) : stored.overwrite items = stored := by
  cases items with
  | nil => simp [Stored.overwrite, SegmentedVector.overwriteLeading, SegmentedVector.overwritten,
      SegmentedVector.fill_nil]
  | cons item rest => simp [Stored.overwrite, SegmentedVector.overwriteLeading, empty]

namespace Released
variable (solver : Solver R Systems Programs)

omit [Scalar R] in
theorem traceSlacks_frame (moved : Bool) (moment : Moment) :
    ∃ notes, (traceSlacks solver moved moment).2 = { solver with notes } := by
  unfold traceSlacks
  split
  · exact ⟨_, rfl⟩
  · exact ⟨_, rfl⟩

omit [Scalar R] in
theorem respond_frame (target : Option (List R)) : ∃ direction verdict notes,
    (respond solver target).2 = { solver with direction, verdict, notes } := by
  unfold respond
  cases target with
  | some target =>
      simp only [acceptSolution]
      split
      · exact ⟨_, _, _, rfl⟩
      · obtain ⟨first, current⟩ := trace_frame { solver with direction := [] } (.current [])
        obtain ⟨second, step⟩ := trace_frame { solver with direction := [], notes := first }
          (.step [])
        obtain ⟨third, small⟩ := trace_frame { solver with direction := [], notes := second }
          .stepTooSmall
        obtain ⟨notes, told⟩ := traceSlacks_frame
          { solver with direction := [], notes := third, verdict := .feasible } false
          .afterIteration
        refine ⟨[], .feasible, notes, ?_⟩
        rw [current, step, small]
        exact told
  | none =>
      simp only
      split
      · exact ⟨_, _, _, rfl⟩
      · exact ⟨_, _, _, rfl⟩
      · obtain ⟨notes, told⟩ := traceSlacks_frame { solver with verdict := .feasible } false
          .afterIteration
        exact ⟨_, _, _, told⟩

/-- Without buffers the system is asked for once, and no row is given up. -/
theorem stepOnce_frame (empty : solver.multipliers.vector.length = 0) :
    ∃ direction verdict notes, (stepOnce environment solver).2 =
      { solver with
        blocking := none, stepLength := none, systems := solver.systemsAfter environment
        direction, verdict, notes } := by
  have asked : ∃ notes,
      (({ solver with blocking := none, stepLength := none } :
        Solver R Systems Programs).solveSubproblem environment).2 =
      { solver with
        blocking := none, stepLength := none, systems := solver.systemsAfter environment
        notes } := by
    cases answer : solver.systemAnswer environment with
    | some entries =>
        obtain ⟨notes, solved⟩ := solveSubproblem_some environment
          { solver with blocking := none, stepLength := none } entries answer
        refine ⟨notes, ?_⟩
        rw [solved]
        simp only [storeMultipliers, setMultipliers, overwrite_of_empty _ _ empty]
        rfl
    | none =>
        obtain ⟨notes, unsolved⟩ := solveSubproblem_none environment
          { solver with blocking := none, stepLength := none } answer
        exact ⟨notes, by rw [unsolved]; rfl⟩
  obtain ⟨spoken, asked⟩ := asked
  unfold stepOnce
  simp only
  split
  · exact ⟨_, _, _, asked⟩
  · obtain ⟨direction, verdict, notes, told⟩ := respond_frame
      (({ solver with blocking := none, stepLength := none } :
        Solver R Systems Programs).solveSubproblem environment).2
      (({ solver with blocking := none, stepLength := none } :
        Solver R Systems Programs).solveSubproblem environment).1
    refine ⟨direction, verdict, notes, ?_⟩
    rw [told, asked]

end Released

/-! ### A whole pass -/

variable {Others : Type} {environment} {peer : Environment R Others Programs}

theorem Retried.length_failed {before after : Solver R Systems Programs} {failed : List (List Nat)}
    {answer : Option (List R)} (retried : Retried before after failed answer) :
    failed.length ≤ before.working.includedCount := by
  obtain ⟨later, calls⟩ := List.head?_eq_some_iff.mp retried.starts
  have chain := retried.shrinks
  rw [calls] at chain
  have bound := length_le_of_losesOne _ later chain
  have count := congrArg List.length calls
  rw [List.length_append, List.length_singleton, List.length_cons] at count
  rw [WorkingSet.length_included] at bound
  omega

/-- Solvers that are alike are left alike. -/
theorem Retried.of_alike {judged later : Prop} {before after : Solver R Systems Programs}
    {one other : Solver R Others Programs} {failed : List (List Nat)} {answer : Option (List R)}
    (retried : Retried one other failed answer)
    (start : Alike environment peer judged before one)
    (finish : Alike environment peer later after other) : Retried before after failed answer where
  starts := by
    rw [start.working, finish.working]
    exact retried.starts
  shrinks := by
    rw [finish.working]
    exact retried.shrinks
  exhausted none := by
    rw [finish.working]
    exact retried.exhausted none
  included := by
    rw [start.working, finish.working]
    exact retried.included
  cleared := by
    rw [start.working, finish.working, finish.inequalityMultipliers]
    exact retried.cleared
  outside := by
    rw [start.working, start.inequalityMultipliers, finish.inequalityMultipliers]
    exact retried.outside
  unanswered none := by
    rw [start.point, finish.point, start.equalityMultipliers, finish.equalityMultipliers]
    exact retried.unanswered none
  answered entries found := by
    have heading : before.heading entries = one.heading entries := by
      rw [Solver.heading, Solver.heading, start.problem, start.point]
    rw [heading, start.problem, start.equalityCount, start.point, finish.point,
      finish.equalityMultipliers, finish.stepLength]
    exact retried.answered entries found
  blocking := by
    rw [finish.working, finish.blocking]
    exact retried.blocking

/-- The log of a pass: calls without an answer, and the last call for the rows that are left. -/
theorem Sized.stepOnce_calls {solver : Solver R Systems Programs} (sized : solver.Sized)
    (fits : environment.AnswersFit) :
    let watched := solver.logged.stepOnce environment.logged
    ∃ failed answer, Retried solver.logged watched.2 failed answer ∧
      SystemUse.calls watched.2.systems.2 =
        failed.map (·, none) ++ [(watched.2.working.included, answer)] := by
  intro watched
  have logged : solver.logged.Sized :=
    ⟨sized.iterate, sized.multipliers, sized.point_length, sized.multipliers_length, sized.rows⟩
  obtain ⟨failed, calls, starts, shrinks⟩ := narrowed_calls environment
    { solver.logged with blocking := none, stepLength := none }
    (solver.working.includedCount + 1)
  obtain ⟨notes, landed⟩ := stepOnce_landed environment.logged solver.logged
  have ended : watched.2 = _ := congrArg Prod.snd landed
  have retried := logged.landing_retried (fun systems => fits systems.1) failed starts shrinks
  refine ⟨failed, (solver.logged.subproblem environment.logged).systemAnswer environment.logged,
    ?_, ?_⟩
  · rw [ended]
    exact { retried with }
  · have before : SystemUse.calls (solver.logged.subproblem environment.logged).systems.2 =
        failed.map (·, none) := calls
    have called := calls_systemsAfter environment (solver.logged.subproblem environment.logged)
    rw [before, ← landed_systems, ← landing_working environment.logged] at called
    rw [ended]
    exact called

theorem Sized.released_once {solver : Solver R Systems Programs} (sized : solver.Sized) :
    let released := Released.stepOnce environment.logged solver.release.logged
    (SystemUse.calls released.2.systems.2).length = 1 ∧
      released.2.working = solver.working ∧ released.2.blocking = none ∧
      released.2.point = solver.release.point ∧
      released.2.multiplierList = solver.release.multiplierList := by
  intro released
  obtain ⟨valid, _, items, _⟩ := Stored.close_spec solver.multipliers sized.multipliers
  have empty : solver.multipliers.close.vector.length = 0 := by
    rw [← SegmentedVector.length_toList _ valid, items]
    rfl
  obtain ⟨direction, verdict, notes, once⟩ :=
    Released.stepOnce_frame environment.logged solver.release.logged empty
  have ended : released.2 = _ := once
  rw [ended]
  exact ⟨congrArg List.length (calls_systemsAfter environment solver.release.logged), rfl, rfl, rfl,
    rfl⟩

/-- A pass asks for at most one solution more than it has included rows. Each call is for one row
less than the one before, which had no answer, and the last call is answered or has no rows; the
rows that are left are those of the last call. A row that was given up has the multiplier zero, and
nothing but the last answer moves the point or the other multipliers. A row that stops the step is
excluded. More rounds would not be used. Without buffers there is one call and nothing is given
up. -/
theorem Sized.stepOnce_retries {solver : Solver R Systems Programs} (sized : solver.Sized)
    (fits : environment.AnswersFit) :
    let after := (solver.stepOnce environment).2
    let watched := solver.logged.stepOnce environment.logged
    let released := Released.stepOnce environment.logged solver.release.logged
    Together environment environment.logged True (solver.stepOnce environment) watched ∧
      (∃ failed answer, Retried solver after failed answer ∧
        SystemUse.calls watched.2.systems.2 =
          failed.map (·, none) ++ [(after.working.included, answer)]) ∧
      (SystemUse.calls watched.2.systems.2).length ≤ solver.working.includedCount + 1 ∧
      (∀ more, attempt environment (solver.working.includedCount + 1 + more)
        { solver with blocking := none, stepLength := none } = solver.stepOnce environment) ∧
      (SystemUse.calls released.2.systems.2).length = 1 ∧
      released.2.working = solver.working ∧ released.2.blocking = none ∧
      released.2.point = solver.release.point ∧
      released.2.multiplierList = solver.release.multiplierList := by
  intro after watched released
  have start := sized.alike_logged environment
  have together : Together environment environment.logged True (solver.stepOnce environment)
      watched := start.stepOnce
  obtain ⟨failed, answer, retried, calls⟩ := sized.stepOnce_calls fits
  have whole : Retried solver after failed answer := retried.of_alike start together.2
  have rows : watched.2.working = after.working := together.2.working.symm
  refine ⟨together, ⟨failed, answer, whole, ?_⟩, ?_, ?_, sized.released_once⟩
  · rw [← rows]
    exact calls
  · rw [calls, List.length_append, List.length_map]
    exact Nat.succ_le_succ whole.length_failed
  · exact fun more => attempt_more environment _ _ more (Nat.lt_succ_self _)

end Solver

/-! ### Rows with undefined multipliers -/

/-- Half of the square of a variable less the variable, which three rows keep from being
positive. -/
def threeWalls : Problem Float :=
  { pinnedLine with
    equalities := Constraints.none
    inequalities := ⟨[[1], [1], [1]], [0, 0, 0], by decide, rfl⟩ }

/-- No system with two rows is solved, and the solutions of the others are undefined. -/
def stubbornEnvironment : Environment Float Unit Unit where
  solveSystem _ _ rhs key := (if key.length < 2 then some (rhs.map fun _ => 0 / 0) else none, [], ())
  forgetSystem _ := ()
  solveProgram programs _ := (⟨2, none, none, ""⟩, programs)
  elapsed _ := 0

/-- All rows are included, and none has a multiplier. -/
def undefinedSolver : Solver Float Unit Unit :=
  [0, 1, 2].foldl (fun solver row => solver.includeRow stubbornEnvironment row)
    ((Solver.new threeWalls floatConfig () ()).setMultipliers [0 / 0, 0 / 0, 0 / 0])

theorem undefinedSolver_sized : undefinedSolver.Sized := by
  have stored := (Solver.new_sized threeWalls floatConfig () ()).follows
    (Solver.setMultipliers_follows stubbornEnvironment _ [0 / 0, 0 / 0, 0 / 0])
  exact ((stored.follows (Solver.includeRow_follows stubbornEnvironment _ 0)).follows
    (Solver.includeRow_follows stubbornEnvironment _ 1)).follows
      (Solver.includeRow_follows stubbornEnvironment _ 2)

theorem stubbornEnvironment_fits : stubbornEnvironment.AnswersFit := by
  intro systems matrix rhs key entries answer
  simp only [stubbornEnvironment] at answer
  split at answer
  · rw [← Option.some.inj answer, List.length_map]
  · cases answer

/-- Undefined multipliers do not tell rows apart, so the first row is given up each time. -/
theorem stepOnce_retries_undefinedSolver :
    let after := (undefinedSolver.stepOnce stubbornEnvironment).2
    let watched := undefinedSolver.logged.stepOnce stubbornEnvironment.logged
    (SystemUse.calls watched.2.systems.2).map Prod.fst = [[0, 1, 2], [1, 2], [2]] ∧
      ∃ failed answer, Solver.Retried undefinedSolver after failed answer ∧
        SystemUse.calls watched.2.systems.2 =
          failed.map (·, none) ++ [(after.working.included, answer)] :=
  ⟨by decide +kernel,
    (undefinedSolver_sized.stepOnce_retries stubbornEnvironment_fits).2.1⟩

end ConvexQP
