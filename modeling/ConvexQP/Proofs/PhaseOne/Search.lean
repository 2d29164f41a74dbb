import ConvexQP.Proofs.PhaseOne.Reformulation

/-!
The search for a start. It asks for an optimum with the hint as cost and, when it is told of none
though the hint is not zero, once more with a zero cost. Both programmes have the same rows, so
either answer speaks of the same feasible points, and the last one decides.
-/
namespace ConvexQP
open scoped Exact

theorem ProgramStatus.ofCode_eq_iff (code : Int) : (ofCode code = optimal ↔ code = 0) ∧
    (ofCode code = infeasible ↔ code = 2) ∧ (ofCode code = unbounded ↔ code = 3) := by
  simp only [ofCode]
  split
  · simp [*]
  · split
    · simp [*]
    · split <;> simp [*]

namespace PhaseOne

/-- The gradient at the point that was given, or at the origin. -/
def slopeAt {R : Type} [Scalar R] (problem : Problem R) : Option (List R) → List R
  | none => Linear.negate problem.linear
  | some point => problem.gradient point

/-- The cost a search asks for first. -/
def hint {R : Type} [Scalar R] (problem : Problem R) (given : Option (List R)) : List R :=
  costOf problem (slopeAt problem given)

variable {K : Type} [Field K] [LinearOrder K] [IsStrictOrderedRing K] [Rooted K]
variable {Programs : Type} (solver : ProgramSolver K Programs)
variable (problem : Problem K) (options : ProgramOptions K)

/-- The answers a search is given, and the state they leave behind. Without rows nothing is asked;
a second programme is asked for just if the first answer is no optimum and the cost is not zero. -/
inductive Exchange (cost : List K) (before : Programs) : List (ProgramAnswer K) → Programs → Prop
  | free : problem.equalities.count + problem.inequalities.count = 0 →
      Exchange cost before [] before
  | once (answer : ProgramAnswer K) (after : Programs) :
      problem.equalities.count + problem.inequalities.count ≠ 0 →
      solver before (program problem options cost) = (answer, after) →
      (answer.code = 0 ∨ ∀ entry ∈ cost, entry = 0) →
      Exchange cost before [answer] after
  | twice (first second : ProgramAnswer K) (between after : Programs) :
      problem.equalities.count + problem.inequalities.count ≠ 0 →
      solver before (program problem options cost) = (first, between) →
      first.code ≠ 0 → (∃ entry ∈ cost, entry ≠ 0) →
      solver between (program problem options (Linear.zeros cost.length)) = (second, after) →
      Exchange cost before [first, second] after

/-- What the last answer says of the start. -/
def statusAfter (answers : List (ProgramAnswer K)) : ProgramStatus :=
  (answers.getLast?.map fun answer => ProgramStatus.ofCode answer.code).getD .optimal

/-- What the last answer makes of the start. -/
def outcomeAfter (given : Option (List K)) (answers : List (ProgramAnswer K)) :
    Except Error (Start K) :=
  let point := given.getD (Linear.zeros problem.size)
  match answers.getLast? with
  | none => .ok ⟨true, point, []⟩
  | some answer =>
    conclude problem point ((program problem options (hint problem given)).interpret answer)

theorem interpret_congr (cost other : List K) (sizes : cost.length = other.length)
    (answer : ProgramAnswer K) : (program problem options cost).interpret answer =
      (program problem options other).interpret answer := by
  simp only [LinearProgram.interpret, program, sizes]

theorem anyCost_iff (cost : List K) : anyCost cost = true ↔ ∃ entry ∈ cost, entry ≠ 0 := by
  simp only [anyCost, same, List.any_eq_true, Bool.not_eq_true', Bool.and_eq_false_iff,
    decide_eq_false_iff_not, not_le]
  constructor
  · rintro ⟨entry, member, above | below⟩
    · exact ⟨entry, member, above.ne'⟩
    · exact ⟨entry, member, below.ne⟩
  · rintro ⟨entry, member, nonzero⟩
    exact ⟨entry, member, nonzero.lt_or_gt.symm⟩

section Given
variable (given : Option (List K))
variable (fits : ∀ point, given = some point → point.length = problem.size)

include fits in
theorem length_slopeAt : (slopeAt problem given).length = problem.size := by
  cases given with
  | none => simp only [slopeAt, Linear.negate, List.length_map, problem.linear_length]
  | some point =>
      simp only [slopeAt, Problem.gradient, Linear.length_subtract, Linear.length_apply,
        problem.quadratic_height, problem.linear_length, Nat.min_self]

include fits in
theorem length_hint : (hint problem given).length =
    2 * problem.size + problem.inequalities.count :=
  length_costOf problem (slopeAt problem given) (length_slopeAt problem given fits)

include fits in
theorem gradientAt_eq : gradientAt problem given = .ok (slopeAt problem given) := by
  cases given with
  | none => rfl
  | some point => simp only [gradientAt, fits point rfl, if_true, slopeAt]

end Given

theorem solveCost_eq (before after : Programs) (cost : List K) (answer : ProgramAnswer K)
    (asked : solver before (program problem options cost) = (answer, after)) :
    solveCost solver problem options before cost =
      ((program problem options cost).interpret answer, after) := by
  simp only [program] at asked
  simp only [solveCost, asked, program]

section Once
variable {R : Type} [Scalar R] (solver : ProgramSolver R Programs) (problem : Problem R)
variable (options : ProgramOptions R) (tracing : Bool) (before after : Programs)
variable (given : Option (List R)) (gradient : List R)
variable (rows : problem.equalities.count + problem.inequalities.count ≠ 0)
variable (slope : gradientAt problem given = .ok gradient)

include rows slope in
theorem search_once (first : ProgramResult R)
    (asked : solveCost solver problem options before (costOf problem gradient) = (first, after))
    (enough : (!first.status.isFeasible && anyCost (costOf problem gradient)) = false) :
    ∃ notes, search solver problem options tracing before given =
      ⟨conclude problem (given.getD (Linear.zeros problem.size)) first,
        ⟨first.status, 1, false, [first.message]⟩, notes, after⟩ := by
  refine ⟨if tracing then [.programEnded first.status first.message] else [], ?_⟩
  simp only [search, rows, if_false, slope, asked, enough, Bool.false_eq_true]

include rows slope in
theorem search_twice (between : Programs) (first second : ProgramResult R)
    (asked : solveCost solver problem options before (costOf problem gradient) = (first, between))
    (more : (!first.status.isFeasible && anyCost (costOf problem gradient)) = true)
    (again : solveCost solver problem options between
      (Linear.zeros (costOf problem gradient).length) = (second, after)) :
    ∃ notes, search solver problem options tracing before given =
      ⟨conclude problem (given.getD (Linear.zeros problem.size)) second,
        ⟨second.status, 2, true, [first.message, second.message]⟩, notes, after⟩ := by
  let traced : ProgramResult R → List (Note R) := fun result =>
    if tracing then [.programEnded result.status result.message] else []
  refine ⟨traced first ++ [.programRepeated first.status] ++ traced second, ?_⟩
  simp only [search, rows, if_false, slope, asked, more, if_true, again]
  rfl

end Once

/-- A search asks as told, keeps count, and goes by the last answer. -/
theorem search_exchange (tracing : Bool) (before : Programs) (given : Option (List K))
    (fits : ∀ point, given = some point → point.length = problem.size) :
    let found := search solver problem options tracing before given
    ∃ answers, Exchange solver problem options (hint problem given) before answers found.programs ∧
      found.outcome = outcomeAfter problem options given answers ∧
      found.info.status = statusAfter answers ∧
      found.info.solves = answers.length ∧
      (found.info.repeated = true ↔ answers.length = 2) := by
  intro found
  by_cases rows : problem.equalities.count + problem.inequalities.count = 0
  · have ended : found = ⟨.ok ⟨true, given.getD (Linear.zeros problem.size), []⟩,
        { status := .optimal }, [], before⟩ := by
      simp only [found, search, rows, if_true]
    rw [ended]
    exact ⟨[], .free rows, rfl, rfl, rfl, by simp⟩
  · let cost := hint problem given
    have slope := gradientAt_eq problem given fits
    cases first : solver before (program problem options cost) with
    | mk answer between =>
        have asked := solveCost_eq solver problem options before between cost answer first
        have more_iff : (!((program problem options cost).interpret answer).status.isFeasible &&
            anyCost cost) = true ↔ answer.code ≠ 0 ∧ ∃ entry ∈ cost, entry ≠ 0 := by
          rw [Bool.and_eq_true, Bool.not_eq_true', ← Bool.not_eq_true, anyCost_iff]
          exact and_congr_left fun _ => not_congr
            (beq_iff_eq.trans (ProgramStatus.ofCode_eq_iff answer.code).1)
        by_cases more : answer.code ≠ 0 ∧ ∃ entry ∈ cost, entry ≠ 0
        · cases next : solver between (program problem options (Linear.zeros cost.length)) with
          | mk last after =>
              have again := solveCost_eq solver problem options between after _ last next
              obtain ⟨notes, ended⟩ := search_twice solver problem options tracing before after
                given _ rows slope between _ _ asked (more_iff.mpr more) again
              refine ⟨[answer, last], ?_⟩
              simp only [found, ended]
              refine ⟨.twice answer last between after rows first more.1 more.2 next, ?_, rfl, rfl,
                by simp⟩
              simp only [outcomeAfter, List.getLast?_cons_cons, List.getLast?_singleton]
              rw [interpret_congr problem options _ _ (Linear.length_zeros cost.length)]
        · obtain ⟨notes, ended⟩ := search_once solver problem options tracing before between
            given _ rows slope _ asked (Bool.eq_false_iff.mpr (mt more_iff.mp more))
          refine ⟨[answer], ?_⟩
          simp only [found, ended]
          refine ⟨.once answer between rows first ?_, rfl, rfl, rfl, by simp⟩
          by_cases optimal : answer.code = 0
          · exact Or.inl optimal
          · right
            intro entry member
            by_contra nonzero
            exact more ⟨optimal, entry, member, nonzero⟩

/-! ### What the answers mean -/

/-- The answers a search may be given are sound. -/
structure Trusted (cost : List K) (before : Programs) : Prop where
  first : (program problem options cost).Sound (solver before (program problem options cost)).1
  second : (program problem options (Linear.zeros cost.length)).Sound
    (solver (solver before (program problem options cost)).2
      (program problem options (Linear.zeros cost.length))).1

variable (cost : List K) (width : cost.length = 2 * problem.size + problem.inequalities.count)
variable {before after : Programs} {answers : List (ProgramAnswer K)}
variable {solver problem options}

/-- Whatever was asked last had the rows of the problem, so what holds of either answer holds of
the last one. -/
theorem Exchange.last_answer {motive : LinearProgram K → ProgramAnswer K → Prop}
    (first : motive (program problem options cost)
      (solver before (program problem options cost)).1)
    (second : motive (program problem options (Linear.zeros cost.length))
      (solver (solver before (program problem options cost)).2
        (program problem options (Linear.zeros cost.length))).1)
    (exchange : Exchange solver problem options cost before answers after)
    (answer : ProgramAnswer K) (last : answers.getLast? = some answer) :
    ∃ other : List K, other.length = cost.length ∧
      motive (program problem options other) answer := by
  cases exchange with
  | free => simp at last
  | once only _ _ asked =>
      obtain rfl : only = answer := by simpa using last
      rw [asked] at first
      exact ⟨cost, rfl, first⟩
  | twice early late between _ _ asked _ _ again =>
      obtain rfl : late = answer := by simpa using last
      rw [asked, again] at second
      exact ⟨_, Linear.length_zeros cost.length, second⟩

/-- Without rows every point of the right size is feasible. -/
theorem feasible_of_free (free : problem.equalities.count + problem.inequalities.count = 0)
    (point : List K) (size : point.length = problem.size) : problem.Feasible point := by
  have equalityRows : problem.equalities.rows = [] := List.length_eq_zero_iff.mp (by
    simp only [Constraints.count] at free
    omega)
  have inequalityRows : problem.inequalities.rows = [] := List.length_eq_zero_iff.mp (by
    simp only [Constraints.count] at free
    omega)
  have equalityBounds := problem.equalities.bounds_length
  have inequalityBounds := problem.inequalities.bounds_length
  rw [equalityRows, List.length_nil, List.length_eq_zero_iff] at equalityBounds
  rw [inequalityRows, List.length_nil, List.length_eq_zero_iff] at inequalityBounds
  refine ⟨size, ?_, ?_⟩
  · rw [equalityRows, equalityBounds]
    rfl
  · rw [inequalityRows, inequalityBounds]
    exact .nil

include width in
/-- An optimum is read as a feasible start. -/
theorem startOf_optimum (point reduced : List K) (message : String) (status : ProgramStatus)
    (meets : (program problem options cost).Meets point) :
    startOf problem ⟨status, point, reduced, message⟩ = .ok ⟨true, pointOf problem point,
      (reduced.drop (2 * problem.size)).take problem.inequalities.count⟩ := by
  have sizes := ((meets_iff problem point options cost width).mp meets).1
  have parts : (point.take problem.size).length =
      ((point.drop problem.size).take problem.size).length := by
    rw [List.length_take, List.length_take, List.length_drop]
    omega
  simp only [startOf, fitLengths, parts, if_true]
  rfl

section Outcome
variable {given : Option (List K)}
variable (fits : ∀ point, given = some point → point.length = problem.size)
variable (trusted : Trusted solver problem options (hint problem given) before)
variable (exchange : Exchange solver problem options (hint problem given) before answers after)

include fits trusted exchange in
/-- A search that ends as optimal found a feasible start. -/
theorem Exchange.outcome_optimal (optimal : statusAfter answers = .optimal) :
    ∃ start, outcomeAfter problem options given answers = .ok start ∧ start.found = true ∧
      problem.Feasible start.point ∧
      ((∀ answer ∈ answers.getLast?, answer.code = 0 → ∀ reduced, answer.marginals = some reduced →
        reduced.length = (hint problem given).length) →
          start.multipliers.length = problem.inequalities.count) := by
  have width := length_hint problem given fits
  cases last : answers.getLast? with
  | none =>
      obtain rfl := List.getLast?_eq_none_iff.mp last
      cases exchange with
      | free rows =>
          refine ⟨_, rfl, rfl, feasible_of_free rows _ ?_, fun _ => ?_⟩
          · cases given with
            | none => exact Linear.length_zeros problem.size
            | some point => exact fits point rfl
          · exact (Nat.add_eq_zero_iff.mp rows).2.symm
  | some answer =>
      obtain ⟨cost, sizes, sound⟩ := exchange.last_answer _ trusted.first trusted.second answer last
      rw [statusAfter, last] at optimal
      have code := (ProgramStatus.ofCode_eq_iff answer.code).1.mp optimal
      obtain ⟨point, found, meets, _⟩ := sound.optimal code
      let reduced := answer.marginals.getD (Linear.zeros (hint problem given).length)
      refine ⟨⟨true, pointOf problem point,
        (reduced.drop (2 * problem.size)).take problem.inequalities.count⟩, ?_, rfl,
        feasible_of_meets problem point options cost (sizes.trans width) meets, ?_⟩
      · have read := startOf_optimum cost (sizes.trans width) point reduced answer.message
          (.ofCode answer.code) meets
        have fit : (ProgramStatus.ofCode answer.code).isFeasible = true := beq_iff_eq.mpr optimal
        simp only [outcomeAfter, last, conclude, LinearProgram.interpret, fit, if_true, found,
          Option.getD_some]
        exact read
      · intro marginals
        have size : reduced.length = (hint problem given).length := by
          cases told : answer.marginals with
          | none => simp only [reduced, told, Option.getD_none, Linear.length_zeros]
          | some entries =>
              simp only [reduced, told, Option.getD_some]
              exact marginals answer rfl code entries told
        rw [List.length_take, List.length_drop, size, width]
        omega

theorem outcome_other (other : statusAfter answers ≠ .optimal) :
    outcomeAfter problem options given answers = .ok ⟨false,
      given.getD (Linear.zeros problem.size), Linear.zeros problem.inequalities.count⟩ := by
  cases last : answers.getLast? with
  | none =>
      rw [statusAfter, last] at other
      exact absurd rfl other
  | some answer =>
      rw [statusAfter, last] at other
      have unfit : (ProgramStatus.ofCode answer.code).isFeasible = false :=
        beq_eq_false_iff_ne.mpr other
      simp only [outcomeAfter, last, conclude, LinearProgram.interpret, unfit]
      rfl

include fits trusted exchange in
/-- A search that ends as infeasible is right. -/
theorem Exchange.infeasible (infeasible : statusAfter answers = .infeasible) (point : List K) :
    ¬ problem.Feasible point := by
  have width := length_hint problem given fits
  cases last : answers.getLast? with
  | none =>
      rw [statusAfter, last] at infeasible
      simp at infeasible
  | some answer =>
      obtain ⟨cost, sizes, sound⟩ := exchange.last_answer _ trusted.first trusted.second answer last
      rw [statusAfter, last] at infeasible
      have code := (ProgramStatus.ofCode_eq_iff answer.code).2.1.mp infeasible
      intro feasible
      exact sound.infeasible code _
        (meets_split problem point options cost (sizes.trans width) feasible)

end Outcome

/-- The last programme has a zero cost unless it brought an optimum, so it is not unbounded. -/
theorem Exchange.bounded (truthful : ∀ state (program : LinearProgram K),
      program.Truthful (solver state program).1)
    (exchange : Exchange solver problem options cost before answers after) :
    statusAfter answers ≠ .unbounded := by
  intro unbounded
  cases exchange with
  | free => simp [statusAfter] at unbounded
  | once answer _ _ asked enough =>
      have code := (ProgramStatus.ofCode_eq_iff answer.code).2.2.mp unbounded
      rcases enough with optimal | zero
      · omega
      · have told := truthful before (program problem options cost)
        rw [asked] at told
        exact told.bounded_of_zeros _ _ cost.length
          (List.eq_replicate_of_mem zero) code
  | twice first second between _ _ _ _ _ again =>
      have code := (ProgramStatus.ofCode_eq_iff second.code).2.2.mp unbounded
      have told := truthful between (program problem options (Linear.zeros cost.length))
      rw [again] at told
      exact told.bounded_of_zeros _ _ cost.length rfl code

end PhaseOne
end ConvexQP
