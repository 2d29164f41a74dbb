import ConvexQP.PhaseOne
import ConvexQP.Proofs.Exact.Kkt

/-!
The gradient of an accepted problem beside its objective. A quadratic is accepted if it is symmetric
up to a tolerance, and along a step the objective departs from its gradient and its curvature by
what the quadratic is skew. This is as little as the tolerance allows, and it vanishes everywhere
only for a quadratic that is symmetric to the last digit.
-/
namespace ConvexQP
open scoped Exact
variable {K : Type} [Field K] [LinearOrder K] [IsStrictOrderedRing K] [Rooted K]

namespace Linear

/-- Bounds on the entries of one factor bound the product. -/
theorem abs_dot_le (entries bounds vector : List K)
    (within : List.Forall₂ (fun entry bound => |entry| ≤ bound) entries bounds) :
    |dot entries vector| ≤ dot bounds (vector.map (|·|)) := by
  induction within generalizing vector with
  | nil => simp
  | @cons entry bound _ _ here _ ih =>
      cases vector with
      | nil => simp
      | cons other vector =>
          have first : |entry * other| ≤ bound * |other| := by
            rw [abs_mul]
            exact mul_le_mul_of_nonneg_right here (abs_nonneg other)
          rw [List.map_cons, dot_cons, dot_cons]
          exact (abs_add_le _ _).trans (add_le_add first (ih vector))

theorem zeros_subtract (vector : List K) :
    subtract (zeros vector.length) vector = negate vector := by
  apply List.ext_getElem
  · simp [negate]
  · intro place _ _
    simp [subtract, zeros, negate]

/-- Rows of one width that make the same of every vector are the same. -/
theorem eq_of_apply_eq (width : Nat) (rows others : List (List K))
    (widths : ∀ row ∈ rows, row.length = width) (otherWidths : ∀ row ∈ others, row.length = width)
    (count : rows.length = others.length)
    (agree : ∀ vector : List K, vector.length = width → apply rows vector = apply others vector) :
    rows = others := by
  apply List.ext_getElem count
  intro place first second
  have fits : rows[place].length = others[place].length :=
    (widths _ (List.getElem_mem first)).trans (otherWidths _ (List.getElem_mem second)).symm
  have length : (subtract rows[place] others[place]).length = rows[place].length := by
    rw [length_subtract, ← fits, Nat.min_self]
  have same := agree (subtract rows[place] others[place])
    (length.trans (widths _ (List.getElem_mem first)))
  have body := List.getElem_of_eq same (by rwa [length_apply])
  simp only [apply, List.getElem_map] at body
  -- The difference of the two rows is orthogonal to itself.
  have zero := eq_zeros_of_dot_self (subtract rows[place] others[place]) (by
    rw [subtract_dot _ _ _ fits, body, sub_self])
  rw [length] at zero
  exact eq_of_subtract_eq_zeros _ _ fits zero

end Linear

/-! ### Symmetry up to a tolerance -/

/-- How far apart two mirrored entries may be, by the size of one of them. -/
def leeway (entry : K) : K := 1e-8 + 1e-5 * |entry|

namespace ProblemArrays

theorem close_iff (left right : K) :
    close left right = true ↔ |left - right| ≤ leeway right := by
  have tolerated : close left right = true ↔
      left = right ∨ |left - right| ≤ leeway right := by
    unfold close
    rw [Bool.or_eq_true, Exact.same_iff, Bool.and_eq_true, decide_eq_true_eq]
    exact or_congr_right (and_iff_right rfl)
  rw [tolerated, or_iff_right_iff_imp]
  rintro rfl
  have nonneg : (0 : K) ≤ 1e-8 + 1e-5 * |left| := by positivity
  rwa [sub_self, abs_zero]

/-- Both orders of a pair of mirrored entries are looked at, so the smaller one tells. -/
theorem symmetric_entries (size : Nat) (rows : List (List K)) (height : rows.length = size)
    (widths : ∀ row ∈ rows, row.length = size) (accepted : symmetric rows = true)
    (row place : Nat) (inside : row < rows.length) (within : place < rows[row].length) :
    |rows[row][place] - (Linear.column rows row).getD place 0| ≤ leeway rows[row][place] := by
  have width := widths rows[row] (List.getElem_mem inside)
  have mirrored : place < rows.length := by omega
  have mirroredWidth := widths rows[place] (List.getElem_mem mirrored)
  have reached : row < rows[place].length := by omega
  have turned : (Linear.column rows row).getD place 0 = rows[place][row] := by
    simp [Linear.column, mirrored, reached]
  have looked : (rows[place], Linear.column rows place) ∈
      rows.zip (Linear.transpose rows.length rows) := by
    rw [List.mem_iff_getElem]
    exact ⟨place, by simp [mirrored], by simp [Linear.transpose]⟩
  have compared : (rows[place][row], rows[row][place]) ∈
      rows[place].zip (Linear.column rows place) := by
    rw [List.mem_iff_getElem]
    refine ⟨row, by simp [Linear.column, inside, reached], ?_⟩
    simp [Linear.column, List.getElem?_eq_getElem within]
  have near := List.all_eq_true.mp (List.all_eq_true.mp accepted _ looked) _ compared
  rw [turned, abs_sub_comm]
  exact (close_iff _ _).mp near

theorem build_symmetric {R : Type} [Scalar R] (arrays : ProblemArrays R) (problem : Problem R)
    (built : arrays.build = .ok problem) : symmetric problem.quadratic = true := by
  unfold build at built
  extract_lets matrix at built
  split at built
  · rename_i height width shape
    split at built
    · cases built
    · split at built
      · cases built
      · rename_i refused
        split at built
        · cases built
        · cases first : constraints .equality height arrays.equalityRows
              arrays.equalityBounds with
          | error cause => simp [first, bind, Except.bind] at built
          | ok equalities =>
              cases second : constraints .inequality height arrays.inequalityRows
                  arrays.inequalityBounds with
              | error cause => simp [first, second, bind, Except.bind] at built
              | ok inequalities =>
                  simp only [first, second, bind, Except.bind] at built
                  split at built
                  · obtain rfl := Except.ok.inj built
                    simpa using refused
                  · cases built
  · cases built

end ProblemArrays

/-! ### Expansion along a step -/

namespace Problem
variable (problem : Problem K) (start step : List K)

/-- What the quadratic is skew between two vectors. -/
def skew : K :=
  2⁻¹ * (Linear.dot start (Linear.apply problem.quadratic step) -
    Linear.dot step (Linear.apply problem.quadratic start))

/-- The gradient and the curvature tell the objective after a step. -/
def Expands : Prop :=
  problem.objective (Linear.addScaled 1 step start) = problem.objective start +
    Linear.dot (problem.gradient start) step +
    2⁻¹ * Linear.dot step (Linear.apply problem.quadratic step)

variable (startSize : start.length = problem.size) (stepSize : step.length = problem.size)

include startSize stepSize in
theorem objective_addScaled :
    problem.objective (Linear.addScaled 1 step start) = problem.objective start +
      Linear.dot (problem.gradient start) step +
      2⁻¹ * Linear.dot step (Linear.apply problem.quadratic step) + problem.skew start step := by
  have sizes : start.length = step.length := startSize.trans stepSize.symm
  have images : (Linear.apply problem.quadratic start).length =
      (Linear.apply problem.quadratic step).length := by simp
  have gradients : (Linear.apply problem.quadratic start).length = problem.linear.length := by
    rw [Linear.length_apply, problem.quadratic_height, problem.linear_length]
  have slope : Linear.dot (problem.gradient start) step =
      Linear.dot step (Linear.apply problem.quadratic start) - Linear.dot problem.linear step := by
    rw [gradient, Linear.subtract_dot _ _ _ gradients, Linear.dot_comm step]
  have moved : Linear.dot (Linear.addScaled 1 step start)
        (Linear.apply problem.quadratic (Linear.addScaled 1 step start)) =
      Linear.dot start (Linear.apply problem.quadratic start) +
        Linear.dot start (Linear.apply problem.quadratic step) +
        (Linear.dot step (Linear.apply problem.quadratic start) +
          Linear.dot step (Linear.apply problem.quadratic step)) := by
    rw [Linear.apply_addScaled _ _ _ _ sizes, Linear.dot_comm,
      Linear.dot_addScaled _ _ _ _ sizes, Linear.dot_comm _ start, Linear.dot_comm _ step,
      Linear.dot_addScaled _ _ _ _ images, Linear.dot_addScaled _ _ _ _ images]
    ring
  rw [objective_eq, objective_eq, moved, slope, Linear.dot_addScaled _ _ _ _ sizes, skew]
  ring

include startSize stepSize in
theorem expands_iff : problem.Expands start step ↔ problem.skew start step = 0 := by
  rw [Expands, problem.objective_addScaled start step startSize stepSize, add_eq_left]

include stepSize in
theorem skew_eq : problem.skew start step =
    2⁻¹ * Linear.dot (Linear.subtract (Linear.apply problem.quadratic step)
      (Linear.apply (Linear.transpose problem.size problem.quadratic) step)) start := by
  have turned := Linear.dot_apply_transpose problem.size problem.quadratic step start
    problem.quadratic_width (stepSize.trans problem.quadratic_height.symm)
  have fits : (Linear.apply problem.quadratic step).length =
      (Linear.apply (Linear.transpose problem.size problem.quadratic) step).length := by
    rw [Linear.length_apply, Linear.length_apply, Linear.length_transpose,
      problem.quadratic_height]
  rw [Linear.subtract_dot _ _ _ fits, turned, skew, Linear.dot_comm start]

/-- The step is felt alike by a quadratic and its mirror image only if they are the same. -/
theorem symmetric_of_expands
    (expands : ∀ start step : List K, start.length = problem.size → step.length = problem.size →
      problem.Expands start step) :
    Linear.transpose problem.size problem.quadratic = problem.quadratic := by
  have turnedHeight : (Linear.transpose problem.size problem.quadratic).length =
      problem.quadratic.length := by
    rw [Linear.length_transpose, problem.quadratic_height]
  refine (Linear.eq_of_apply_eq problem.size _ _ problem.quadratic_width ?_ turnedHeight.symm
    fun step size => ?_).symm
  · intro row member
    obtain ⟨place, _, rfl⟩ := List.mem_map.mp member
    simp [Linear.column, problem.quadratic_height]
  · -- The two images differ by a vector that is orthogonal to itself.
    have fits : (Linear.apply problem.quadratic step).length =
        (Linear.apply (Linear.transpose problem.size problem.quadratic) step).length := by
      rw [Linear.length_apply, Linear.length_apply, turnedHeight]
    let gap := Linear.subtract (Linear.apply problem.quadratic step)
      (Linear.apply (Linear.transpose problem.size problem.quadratic) step)
    have length : gap.length = problem.size := by
      rw [Linear.length_subtract, ← fits, Nat.min_self, Linear.length_apply,
        problem.quadratic_height]
    have level := (problem.expands_iff gap step length size).mp (expands gap step length size)
    rw [problem.skew_eq gap step size] at level
    have zero := Linear.eq_zeros_of_dot_self gap
      ((mul_eq_zero.mp level).resolve_left (inv_ne_zero two_ne_zero))
    rw [length] at zero
    refine Linear.eq_of_subtract_eq_zeros _ _ fits (zero.trans ?_)
    rw [Linear.length_apply, problem.quadratic_height]

include startSize in
theorem skew_of_symmetric
    (symmetric : Linear.transpose problem.size problem.quadratic = problem.quadratic) :
    problem.skew start step = 0 := by
  rw [skew, problem.dot_quadratic_comm symmetric start step startSize, sub_self, mul_zero]

theorem gradient_zeros :
    problem.gradient (Linear.zeros problem.size) = Linear.negate problem.linear := by
  rw [gradient, Linear.apply_zeros, problem.quadratic_height, ← problem.linear_length,
    Linear.zeros_subtract]

/-- The tolerance of every entry of the quadratic. -/
def leeways : List (List K) := problem.quadratic.map (List.map leeway)

include stepSize in
/-- Mirrored entries that are near each other leave little that is skew. -/
theorem abs_skew_le (accepted : ProblemArrays.symmetric problem.quadratic = true) :
    |problem.skew start step| ≤
      2⁻¹ * Linear.dot (start.map (|·|)) (Linear.apply problem.leeways (step.map (|·|))) := by
  have rows (row : Nat) (inside : row < problem.quadratic.length) :
      |Linear.dot problem.quadratic[row] step -
          Linear.dot (Linear.column problem.quadratic row) step| ≤
        Linear.dot (problem.quadratic[row].map leeway) (step.map (|·|)) := by
    have width := problem.quadratic_width _ (List.getElem_mem inside)
    have fits : problem.quadratic[row].length = (Linear.column problem.quadratic row).length := by
      simp [Linear.column, width, problem.quadratic_height]
    rw [← Linear.subtract_dot _ _ _ fits]
    apply Linear.abs_dot_le
    rw [List.forall₂_iff_get]
    refine ⟨by simp [← fits], fun place first second => ?_⟩
    have within : place < problem.quadratic[row].length := by simpa using second
    have near := ProblemArrays.symmetric_entries problem.size problem.quadratic
      problem.quadratic_height problem.quadratic_width accepted row place inside within
    have listed : place < (Linear.column problem.quadratic row).length := fits ▸ within
    simpa [Linear.subtract, List.getD_eq_getElem?_getD, List.getElem?_eq_getElem listed] using near
  rw [problem.skew_eq start step stepSize, abs_mul, abs_of_pos (by norm_num : (0 : K) < 2⁻¹),
    Linear.dot_comm (start.map _)]
  apply mul_le_mul_of_nonneg_left _ (by norm_num)
  apply Linear.abs_dot_le
  rw [List.forall₂_iff_get]
  have height := problem.quadratic_height
  refine ⟨by simp [leeways, height], fun row first second => ?_⟩
  have inside : row < problem.quadratic.length := by simpa [leeways] using second
  simpa [leeways, Linear.subtract, Linear.apply, Linear.transpose] using rows row inside

end Problem

/-- Of an accepted problem, the gradient that the linear programme of a start and the system of a
subproblem are made with is that of the objective up to what the quadratic is skew, which is within
the tolerance of its entries. It is the gradient throughout only if the quadratic is symmetric. -/
theorem ProblemArrays.gradient_of_objective (arrays : ProblemArrays K) (problem : Problem K)
    (built : arrays.build = .ok problem) :
    (∀ start step : List K, start.length = problem.size → step.length = problem.size →
      problem.objective (Linear.addScaled 1 step start) = problem.objective start +
          Linear.dot (problem.gradient start) step +
          2⁻¹ * Linear.dot step (Linear.apply problem.quadratic step) + problem.skew start step ∧
        |problem.skew start step| ≤
          2⁻¹ * Linear.dot (start.map (|·|)) (Linear.apply problem.leeways (step.map (|·|)))) ∧
    ((∀ start step : List K, start.length = problem.size → step.length = problem.size →
        problem.Expands start step) ↔
      Linear.transpose problem.size problem.quadratic = problem.quadratic) ∧
    (∀ start : Option (List K), (∀ point, start = some point → point.length = problem.size) →
      PhaseOne.gradientAt problem start =
        .ok (problem.gradient (start.getD (Linear.zeros problem.size)))) ∧
    ∀ (point : List K) (included : List Nat) (multipliers : List K),
      Kkt.reducedGradient problem point included multipliers =
        Linear.addScaled 1
          (Linear.apply (Linear.transpose problem.size (Kkt.rows problem included)) multipliers)
          (problem.gradient point) := by
  have accepted := build_symmetric arrays problem built
  refine ⟨fun start step startSize stepSize => ?_, ?_, fun start fits => ?_,
    fun point included => Kkt.reducedGradient_eq problem included point⟩
  · exact ⟨problem.objective_addScaled start step startSize stepSize,
      problem.abs_skew_le start step stepSize accepted⟩
  · constructor
    · exact problem.symmetric_of_expands
    · intro symmetric start step startSize stepSize
      rw [problem.expands_iff start step startSize stepSize]
      exact problem.skew_of_symmetric start step startSize symmetric
  · cases start with
    | none => rw [Option.getD_none, problem.gradient_zeros, PhaseOne.gradientAt]
    | some point => rw [PhaseOne.gradientAt, if_pos (fits point rfl), Option.getD_some]

/-- A quadratic whose mirrored entries differ by one, and are near each other for their size. -/
def leaningBowl : ProblemArrays ℚ where
  quadratic := ⟨[2, 2], #[200000, 100000, 100001, 200000]⟩
  linear := ⟨[2], #[0, 0]⟩

theorem leaningBowl_built : ∃ problem, leaningBowl.build = .ok problem ∧ problem.size = 2 ∧
    problem.skew [1, 0] [0, 1] = -1 / 2 := by
  have told : (leaningBowl.build.toOption.map fun problem =>
      (problem.size, problem.skew [1, 0] [0, 1])) = some (2, -1 / 2) := by
    decide +kernel
  cases built : leaningBowl.build with
  | error cause => simp [built, Except.toOption] at told
  | ok problem =>
      simp only [built, Except.toOption, Option.map_some, Option.some.injEq, Prod.mk.injEq] at told
      exact ⟨problem, rfl, told⟩

theorem leaningBowl_not_expanded : ∃ problem, leaningBowl.build = .ok problem ∧
    problem.objective (Linear.addScaled 1 [0, 1] [1, 0]) ≠ problem.objective [1, 0] +
      Linear.dot (problem.gradient [1, 0]) [0, 1] +
      2⁻¹ * Linear.dot [0, 1] (Linear.apply problem.quadratic [0, 1]) := by
  obtain ⟨problem, built, size, skewed⟩ := leaningBowl_built
  refine ⟨problem, built, fun expands => ?_⟩
  have level := (problem.expands_iff [1, 0] [0, 1] size.symm size.symm).mp expands
  rw [skewed] at level
  norm_num at level

theorem gradient_of_objective_leaningBowl : ∃ problem, leaningBowl.build = .ok problem ∧
    problem.objective (Linear.addScaled 1 [0, 1] [1, 0]) = problem.objective [1, 0] +
      Linear.dot (problem.gradient [1, 0]) [0, 1] +
      2⁻¹ * Linear.dot [0, 1] (Linear.apply problem.quadratic [0, 1]) - 1 / 2 ∧
    PhaseOne.gradientAt problem (some [1, 0]) = .ok (problem.gradient [1, 0]) := by
  obtain ⟨problem, built, size, skewed⟩ := leaningBowl_built
  obtain ⟨expansion, _, starts, _⟩ :=
    ProblemArrays.gradient_of_objective leaningBowl problem built
  refine ⟨problem, built, ?_, starts (some [1, 0]) fun point given => ?_⟩
  · rw [(expansion [1, 0] [0, 1] size.symm size.symm).1, skewed]
    ring
  · rw [← Option.some.inj given, size]
    rfl

end ConvexQP
