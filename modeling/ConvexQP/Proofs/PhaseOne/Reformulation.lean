import ConvexQP.Proofs.LinearProgram.Answers
import ConvexQP.Proofs.Solver.Exact

/-!
The linear programme of a start. A point of the programme is a point of the problem, split into two
parts without negative entries, followed by what the inequality rows leave of their bounds. Both
sides correspond exactly, and the cost of the programme is the gradient, so an optimum of the
programme is a feasible point of least slope.
-/
namespace ConvexQP
open scoped Exact

namespace PhaseOne

/-- The programme of a start for a cost. -/
def program {R : Type} [Scalar R] (problem : Problem R) (options : ProgramOptions R)
    (cost : List R) : LinearProgram R :=
  ⟨cost, some (rows problem, bounds problem), options⟩

end PhaseOne

variable {K : Type} [Field K] [LinearOrder K] [IsStrictOrderedRing K] [Rooted K]

/-! ### Rows and bounds -/

namespace Linear

theorem forall₂_le_iff (lower upper : List K) : List.Forall₂ (· ≤ ·) lower upper ↔
    lower.length = upper.length ∧ ∀ entry ∈ subtract upper lower, 0 ≤ entry := by
  induction lower generalizing upper with
  | nil => cases upper <;> simp [subtract]
  | cons first lower ih =>
      cases upper with
      | nil => simp
      | cons other upper =>
          simp only [List.forall₂_cons, ih, subtract, List.zipWith_cons_cons, List.mem_cons,
            List.length_cons, Nat.add_right_cancel_iff, forall_eq_or_imp, sub_nonneg]
          exact and_left_comm

theorem add_eq_iff (left right total : List K) (fits : left.length = right.length)
    (sizes : left.length = total.length) :
    left.zipWith (· + ·) right = total ↔ right = subtract total left := by
  induction left generalizing right total with
  | nil =>
      simp only [List.length_nil, eq_comm (a := 0), List.length_eq_zero_iff] at fits sizes
      simp [fits, sizes, subtract]
  | cons first left ih =>
      cases right with
      | nil => simp at fits
      | cons other right =>
          cases total with
          | nil => simp at sizes
          | cons sum total =>
              simp only [List.length_cons, Nat.add_right_cancel_iff] at fits sizes
              simp only [subtract, List.zipWith_cons_cons, List.cons.injEq]
              exact and_congr eq_sub_iff_add_eq'.symm (ih right total fits sizes)

theorem apply_eq_iff (rows : List (List K)) (bounds vector : List K)
    (fits : rows.length = bounds.length) :
    apply rows vector = bounds ↔ ∀ entry ∈ rows.zip bounds, dot entry.1 vector = entry.2 := by
  induction rows generalizing bounds with
  | nil => simp [(List.length_eq_zero_iff.mp fits.symm)]
  | cons row rows ih =>
      cases bounds with
      | nil => simp at fits
      | cons bound bounds =>
          simp only [List.length_cons, Nat.add_right_cancel_iff] at fits
          simp [ih bounds fits]

theorem dot_unitRow (size place : Nat) (vector : List K) (fits : vector.length = size)
    (inside : place < vector.length) : dot (unitRow size place) vector = vector[place] := by
  induction vector generalizing size place with
  | nil => simp at inside
  | cons first vector ih =>
      subst fits
      cases place with
      | zero =>
          have rest : (List.range vector.length).map (fun here =>
              if here + 1 = 0 then (1 : K) else 0) = zeros vector.length := by
            simp [zeros]
          simp only [unitRow, List.length_cons, List.range_succ_eq_map, List.map_cons,
            List.map_map, Function.comp_def, Nat.succ_eq_add_one, rest, dot_cons, dot_zeros]
          simp
      | succ place =>
          have rest := ih vector.length place rfl (Nat.lt_of_succ_lt_succ inside)
          simp only [unitRow] at rest
          simp only [unitRow, List.length_cons, List.range_succ_eq_map, List.map_cons,
            List.map_map, Function.comp_def, Nat.succ_eq_add_one, Nat.add_right_cancel_iff,
            dot_cons, rest]
          simp

theorem apply_identity (vector : List K) : apply (identity vector.length) vector = vector := by
  apply List.ext_getElem
  · simp [identity]
  · intro place first second
    simp only [apply, identity, List.getElem_map, List.getElem_range]
    exact dot_unitRow vector.length place vector rfl second

/-- The parts of a vector above and below zero make up the vector. -/
theorem subtract_parts (vector : List K) :
    subtract (vector.map fun entry => max entry 0) (vector.map fun entry => max (-entry) 0) =
      vector := by
  simp only [subtract, List.zipWith_map, List.zipWith_self, max_zero_sub_max_neg_zero_eq_self,
    List.map_id']

end Linear

/-! ### Points of the programme -/

namespace PhaseOne
variable (problem : Problem K) (point : List K)

/-- The point of the problem that a point of the programme stands for. -/
def pointOf : List K :=
  Linear.subtract (point.take problem.size) ((point.drop problem.size).take problem.size)

/-- The entries of a point of the programme that belong to the inequality rows. -/
def slacksOf : List K := point.drop (2 * problem.size)

/-- A point of the problem as a point of the programme. -/
def split : List K :=
  (point.map fun entry => max entry 0) ++ (point.map fun entry => max (-entry) 0) ++
    problem.inequalities.slack point

theorem length_costOf (gradient : List K) (fits : gradient.length = problem.size) :
    (costOf problem gradient).length = 2 * problem.size + problem.inequalities.count := by
  simp only [costOf, Linear.negate, List.length_append, List.length_map, Linear.length_zeros, fits]
  omega

variable (sizes : point.length = 2 * problem.size + problem.inequalities.count)

include sizes in
omit [Field K] [LinearOrder K] [IsStrictOrderedRing K] [Rooted K] in
theorem length_slacksOf : (slacksOf problem point).length = problem.inequalities.count := by
  simp only [slacksOf, List.length_drop]
  omega

include sizes in
theorem length_pointOf : (pointOf problem point).length = problem.size := by
  simp only [pointOf, Linear.length_subtract, List.length_take, List.length_drop]
  omega

include sizes in
/-- A split row weighs the difference of the parts, and the slacks on their own. -/
theorem dot_splitRow (row slacks : List K) (width : row.length = problem.size) :
    Linear.dot (splitRow row slacks) point =
      Linear.dot row (pointOf problem point) + Linear.dot slacks (slacksOf problem point) := by
  have raised : (point.take problem.size).length = problem.size := by
    rw [List.length_take]
    omega
  have lowered : ((point.drop problem.size).take problem.size).length = problem.size := by
    rw [List.length_take, List.length_drop]
    omega
  have parts : point = point.take problem.size ++ (point.drop problem.size).take problem.size ++
      slacksOf problem point := by
    rw [slacksOf, Nat.two_mul, ← List.drop_drop, List.append_assoc, List.take_append_drop,
      List.take_append_drop]
  have negated : (Linear.negate row).length = row.length := List.length_map _
  rw [pointOf, Linear.dot_subtract _ _ _ (raised.trans lowered.symm)]
  conv_lhs => rw [parts]
  rw [splitRow, Linear.dot_append _ _ _ _ (by simp [width, raised, lowered, negated]),
    Linear.dot_append _ _ _ _ (width.trans raised.symm), Linear.negate_dot]
  ring

/-- Turning the sign of a row and its bound keeps the points that meet it. -/
theorem orient_iff (entry : List K × K) :
    Linear.dot (orient entry).1 point = (orient entry).2 ↔ Linear.dot entry.1 point = entry.2 := by
  have turned : entry.1.map (· * -1) = Linear.negate entry.1 := by
    simp only [Linear.negate, mul_neg, mul_one]
  simp only [orient]
  split
  · rw [turned, Linear.negate_dot, mul_neg, mul_one, neg_inj]
  · rfl

theorem bounds_nonneg (bound : K) (member : bound ∈ bounds problem) : 0 ≤ bound := by
  simp only [bounds, entries, List.map_map, List.mem_map, Function.comp_apply] at member
  obtain ⟨entry, _, rfl⟩ := member
  simp only [orient]
  split
  · rename_i below
    simpa using below.le
  · rename_i above
    exact not_lt.mp above

include sizes in
theorem apply_equalityRows :
    Linear.apply (problem.equalities.rows.map fun row =>
        splitRow row (Linear.zeros problem.inequalities.count)) point =
      Linear.apply problem.equalities.rows (pointOf problem point) := by
  simp only [Linear.apply, List.map_map, Function.comp_def]
  apply List.map_congr_left
  intro row member
  rw [dot_splitRow problem point sizes row _ (problem.equalities.row_length row member),
    Linear.dot_zeros, add_zero]

include sizes in
theorem apply_splitRows (rows slackRows : List (List K))
    (widths : ∀ row ∈ rows, row.length = problem.size) :
    Linear.apply (rows.zipWith splitRow slackRows) point =
      (Linear.apply rows (pointOf problem point)).zipWith (· + ·)
        (Linear.apply slackRows (slacksOf problem point)) := by
  induction rows generalizing slackRows with
  | nil => simp
  | cons row rows ih =>
      cases slackRows with
      | nil => simp
      | cons slackRow slackRows =>
          have rest := ih slackRows fun other member => widths other (List.mem_cons_of_mem row member)
          simp only [List.zipWith_cons_cons, Linear.apply_cons, rest,
            dot_splitRow problem point sizes row slackRow (widths row List.mem_cons_self)]

include sizes in
/-- The rows of the programme say that the point satisfies the equality rows and that the slacks
are its own. -/
theorem apply_rows_iff :
    Linear.apply (rows problem) point = bounds problem ↔
      Linear.apply problem.equalities.rows (pointOf problem point) = problem.equalities.bounds ∧
        slacksOf problem point = problem.inequalities.slack (pointOf problem point) := by
  let upper := problem.equalities.rows.map fun row =>
    splitRow row (Linear.zeros problem.inequalities.count)
  let lower := problem.inequalities.rows.zipWith splitRow
    (Linear.identity problem.inequalities.count)
  have equalityBounds := problem.equalities.bounds_length
  have inequalityBounds := problem.inequalities.bounds_length
  have upperLength : upper.length = problem.equalities.bounds.length := by
    simp [upper, equalityBounds]
  have lowerLength : lower.length = problem.inequalities.bounds.length := by
    simp [lower, Linear.identity, Constraints.count, inequalityBounds]
  have slacks : Linear.apply (Linear.identity problem.inequalities.count)
      (slacksOf problem point) = slacksOf problem point := by
    rw [← length_slacksOf problem point sizes, Linear.apply_identity]
  calc Linear.apply (rows problem) point = bounds problem
      ↔ ∀ entry ∈ (upper ++ lower).zip (problem.equalities.bounds ++ problem.inequalities.bounds),
          Linear.dot entry.1 point = entry.2 := by
        simp only [rows, bounds, entries, Linear.apply, List.map_map, List.map_inj_left,
          Function.comp_apply]
        exact forall₂_congr fun entry _ => orient_iff point entry
    _ ↔ Linear.apply (upper ++ lower) point =
          problem.equalities.bounds ++ problem.inequalities.bounds :=
        (Linear.apply_eq_iff _ _ _ (by simp [upperLength, lowerLength])).symm
    _ ↔ Linear.apply upper point = problem.equalities.bounds ∧
          Linear.apply lower point = problem.inequalities.bounds := by
        rw [Linear.apply_append]
        constructor
        · intro whole
          exact List.append_inj whole (by simp [upperLength])
        · rintro ⟨first, second⟩
          rw [first, second]
    _ ↔ _ := by
        rw [apply_equalityRows problem point sizes,
          apply_splitRows problem point sizes _ _ problem.inequalities.row_length, slacks]
        refine and_congr_right fun _ => Linear.add_eq_iff _ _ _ ?_ ?_
        · rw [Linear.length_apply, length_slacksOf problem point sizes]
          rfl
        · rw [Linear.length_apply, inequalityBounds]

/-! ### Both ways -/

section Split
variable (size : point.length = problem.size)

theorem length_slack : (problem.inequalities.slack point).length = problem.inequalities.count := by
  simp only [Constraints.slack, Linear.length_subtract, Linear.length_apply,
    problem.inequalities.bounds_length, Constraints.count, Nat.min_self]

include size in
theorem length_split :
    (split problem point).length = 2 * problem.size + problem.inequalities.count := by
  simp only [split, List.length_append, List.length_map, length_slack, size]
  omega

include size in
theorem pointOf_split : pointOf problem (split problem point) = point := by
  have raised : (split problem point).take problem.size = point.map fun entry => max entry 0 := by
    rw [split, List.append_assoc, List.take_left' (by rw [List.length_map, size])]
  have lowered : ((split problem point).drop problem.size).take problem.size =
      point.map fun entry => max (-entry) 0 := by
    rw [split, List.append_assoc, List.drop_left' (by rw [List.length_map, size]),
      List.take_left' (by rw [List.length_map, size])]
  rw [pointOf, raised, lowered, Linear.subtract_parts]

include size in
theorem slacksOf_split : slacksOf problem (split problem point) = problem.inequalities.slack point := by
  rw [slacksOf, split, List.drop_left']
  simp only [List.length_append, List.length_map, size]
  omega

end Split

section Width
variable (options : ProgramOptions K) (cost : List K)
variable (width : cost.length = 2 * problem.size + problem.inequalities.count)

include width in
theorem meets_iff : (program problem options cost).Meets point ↔
    point.length = 2 * problem.size + problem.inequalities.count ∧ (∀ entry ∈ point, 0 ≤ entry) ∧
      Linear.apply problem.equalities.rows (pointOf problem point) = problem.equalities.bounds ∧
      slacksOf problem point = problem.inequalities.slack (pointOf problem point) := by
  constructor
  · rintro ⟨size, nonneg, equalities⟩
    have sizes := size.trans width
    exact ⟨sizes, nonneg, (apply_rows_iff problem point sizes).mp (equalities _ rfl)⟩
  · rintro ⟨sizes, nonneg, met⟩
    refine ⟨sizes.trans width.symm, nonneg, ?_⟩
    intro block found
    rw [← Option.some.inj found]
    exact (apply_rows_iff problem point sizes).mpr met

include width in
theorem feasible_of_meets (meets : (program problem options cost).Meets point) :
    problem.Feasible (pointOf problem point) := by
  obtain ⟨sizes, nonneg, equalities, slacks⟩ :=
    (meets_iff problem point options cost width).mp meets
  refine ⟨length_pointOf problem point sizes, equalities, ?_⟩
  rw [Linear.forall₂_le_iff]
  refine ⟨by rw [Linear.length_apply, problem.inequalities.bounds_length], ?_⟩
  intro entry member
  have listed : entry ∈ slacksOf problem point := slacks ▸ member
  exact nonneg entry (List.mem_of_mem_drop listed)

include width in
theorem meets_split (feasible : problem.Feasible point) :
    (program problem options cost).Meets (split problem point) := by
  have size := feasible.size
  refine (meets_iff problem _ options cost width).mpr
    ⟨length_split problem point size, ?_, ?_, ?_⟩
  · have slacks := ((Linear.forall₂_le_iff _ _).mp feasible.inequalities).2
    intro entry member
    simp only [split, List.mem_append, List.mem_map] at member
    rcases member with (⟨value, _, rfl⟩ | ⟨value, _, rfl⟩) | slack
    · exact le_max_right value 0
    · exact le_max_right (-value) 0
    · exact slacks entry slack
  · rw [pointOf_split problem point size, feasible.equalities]
  · rw [pointOf_split problem point size, slacksOf_split problem point size]

end Width

theorem dot_costOf (gradient : List K) (fits : gradient.length = problem.size)
    (sizes : point.length = 2 * problem.size + problem.inequalities.count) :
    Linear.dot (costOf problem gradient) point = Linear.dot gradient (pointOf problem point) := by
  have weighed := dot_splitRow problem point sizes gradient
    (Linear.zeros problem.inequalities.count) fits
  rw [Linear.dot_zeros, add_zero] at weighed
  exact weighed

/-- The points of the programme are the feasible points of the problem with their slacks, the cost
is the slope of the gradient, and right-hand sides are not negative. So an optimum of the programme
is a feasible point of least slope. The search does not write to the problem. -/
theorem programme_exact (problem : Problem K) (options : ProgramOptions K) (gradient : List K)
    (fits : gradient.length = problem.size) :
    (∀ bound ∈ bounds problem, 0 ≤ bound) ∧
    (∀ point, (program problem options (costOf problem gradient)).Meets point →
      problem.Feasible (pointOf problem point) ∧
        slacksOf problem point = problem.inequalities.slack (pointOf problem point) ∧
        Linear.dot (costOf problem gradient) point =
          Linear.dot gradient (pointOf problem point)) ∧
    (∀ point, problem.Feasible point → ∃ parts,
      (program problem options (costOf problem gradient)).Meets parts ∧
        pointOf problem parts = point ∧
        Linear.dot (costOf problem gradient) parts = Linear.dot gradient point) ∧
    (∀ point, (program problem options (costOf problem gradient)).Least point →
      problem.Feasible (pointOf problem point) ∧ ∀ other, problem.Feasible other →
        Linear.dot gradient (pointOf problem point) ≤ Linear.dot gradient other) ∧
    (∀ (Systems Programs : Type) (environment : Environment K Systems Programs)
      (solver : Solver K Systems Programs) (given : Option (List K)),
      (solver.searchStart environment given).2.problem = solver.problem) := by
  have width := length_costOf problem gradient fits
  have there (point : List K)
      (meets : (program problem options (costOf problem gradient)).Meets point) :
      Linear.dot (costOf problem gradient) point = Linear.dot gradient (pointOf problem point) :=
    dot_costOf problem point gradient fits (meets.size.trans width)
  have back (point : List K) (feasible : problem.Feasible point) :
      Linear.dot (costOf problem gradient) (split problem point) = Linear.dot gradient point := by
    rw [there _ (meets_split problem point options _ width feasible),
      pointOf_split problem point feasible.size]
  refine ⟨bounds_nonneg problem, ?_, ?_, ?_, ?_⟩
  · intro point meets
    exact ⟨feasible_of_meets problem point options _ width meets,
      ((meets_iff problem point options _ width).mp meets).2.2.2, there point meets⟩
  · intro point feasible
    exact ⟨split problem point, meets_split problem point options _ width feasible,
      pointOf_split problem point feasible.size, back point feasible⟩
  · rintro point ⟨meets, least⟩
    refine ⟨feasible_of_meets problem point options _ width meets, ?_⟩
    intro other feasible
    have cheaper := least _ (meets_split problem other options _ width feasible)
    change Linear.dot (costOf problem gradient) point ≤
      Linear.dot (costOf problem gradient) (split problem other) at cheaper
    rwa [there point meets, back other feasible] at cheaper
  · intro Systems Programs environment solver given
    exact (Solver.searchStart_follows environment solver given).problem

end PhaseOne

/-! ### A row that changes sign -/

/-- Half of `x²` less `x`, where `x` is not more than `-1`. -/
def turnedLine : Problem ℚ := line 1 1 1 (-1)

theorem programme_exact_turnedLine :
    [1].length = turnedLine.size ∧ PhaseOne.bounds turnedLine = [1] ∧
      turnedLine.Feasible (PhaseOne.pointOf turnedLine [0, 2, 1]) ∧
      PhaseOne.slacksOf turnedLine [0, 2, 1] = [1] ∧
      Linear.dot (PhaseOne.costOf turnedLine [1]) [0, 2, 1] = -2 := by
  let options : ProgramOptions ℚ := ⟨true, 0, none⟩
  have meets : (PhaseOne.program turnedLine options
      (PhaseOne.costOf turnedLine [1])).Meets [0, 2, 1] := by
    refine ⟨rfl, by decide, ?_⟩
    intro block found
    rw [← Option.some.inj found]
    decide +kernel
  obtain ⟨feasible, _, slope⟩ :=
    (PhaseOne.programme_exact turnedLine options [1] rfl).2.1 [0, 2, 1] meets
  refine ⟨rfl, by decide +kernel, feasible, rfl, ?_⟩
  rw [slope]
  decide +kernel

end ConvexQP
