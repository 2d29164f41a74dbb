import ConvexQP.Tensor.DenseAlgebra

/-!
Requests to a dense instance, one after the other. As long as every key comes with one matrix until
the factors are forgotten, each request is answered as by an instance that was never used before,
and each system whose extents fit counts as one hit or one miss.
-/
namespace ConvexQP
variable {R Key : Type}

/-- A system whose extents fit: a square matrix, and right-hand sides of its height. -/
def LinearRequest.fits : LinearRequest R Key → Bool
  | .solve matrix rhs _ =>
    match matrix.shape, rhs.shape with
    | [height, width], count :: _ => height == width && height == count
    | _, _ => false
  | _ => false

/-- Two systems with equal keys have the same matrix, unless the factors are forgotten between
them. -/
def KeysNameMatrices [BEq Key] (requests : List (LinearRequest R Key)) : Prop :=
  ∀ first matrix rhs key between other side again last,
    requests = first ++ .solve matrix rhs (some key) ::
      (between ++ .solve other side (some again) :: last) →
    .forget ∉ between → (key == again) = true → matrix = other

theorem KeysNameMatrices.tail [BEq Key] {request : LinearRequest R Key}
    {rest : List (LinearRequest R Key)} (named : KeysNameMatrices (request :: rest)) :
    KeysNameMatrices rest := by
  intro first matrix rhs key between other side again last split
  exact named (request :: first) matrix rhs key between other side again last
    (congrArg (request :: ·) split)

/-- Keys name matrices where each matrix can be told from its key. -/
theorem keysNameMatrices_of_named [BEq Key] [LawfulBEq Key] (matrixOf : Key → Tensor R)
    (requests : List (LinearRequest R Key))
    (named : ∀ matrix rhs key, .solve matrix rhs (some key) ∈ requests → matrix = matrixOf key) :
    KeysNameMatrices requests := by
  intro first matrix rhs key between other side again last split _ same
  obtain rfl := eq_of_beq same
  have here := named matrix rhs key (by rw [split]; simp)
  have there := named other side key (by rw [split]; simp)
  rw [here, there]

namespace FactorCache
variable [Scalar R] [BEq Key] {tolerance : R} {cache : FactorCache R Key}
variable {request : LinearRequest R Key} {rest : List (LinearRequest R Key)}
variable {matrix rhs : Tensor R} {key : Option Key}

/-- Factors are taken from memory, or made and remembered under the key. -/
theorem factorsFor_cases (tolerance : R) (cache : FactorCache R Key) (matrix : List (List R))
    (key : Option Key) :
    ((key.isSome && cache.key == key) = true ∧
        (cache.factorsFor tolerance matrix key).2 = { cache with hits := cache.hits + 1 }) ∨
      (cache.factorsFor tolerance matrix key).2 =
        ⟨key, (factorise tolerance matrix).toOption, cache.hits, cache.misses + 1⟩ := by
  unfold factorsFor
  by_cases hit : (key.isSome && cache.key == key) = true
  · rw [if_pos hit]
    exact Or.inl ⟨hit, rfl⟩
  · rw [if_neg hit]
    refine Or.inr ?_
    simp only
    split
    · rename_i columns made
      rw [made]
      rfl
    · rename_i note made
      rw [made]
      rfl

/-! ### What is remembered for the requests to come -/

/-- What is remembered are the factors of every system to come under this key, until they are
forgotten. -/
def Serves (tolerance : R) (cache : FactorCache R Key) (requests : List (LinearRequest R Key)) :
    Prop :=
  ∀ between matrix rhs again last known,
    requests = between ++ .solve matrix rhs (some again) :: last → .forget ∉ between →
    cache.key = some known → (known == again) = true →
    cache.factors = (factorise tolerance matrix.rows).toOption

theorem serves_of_blank (blank : cache.key = none) (requests : List (LinearRequest R Key)) :
    cache.Serves tolerance requests := by
  intro between matrix rhs again last known _ _ present
  rw [blank] at present
  cases present

/-- A request that does not forget leaves the same systems to come. -/
theorem Serves.tail (serves : cache.Serves tolerance (request :: rest))
    (kept : .forget ≠ request) : cache.Serves tolerance rest := by
  intro between matrix rhs again last known split unforgotten
  refine serves (request :: between) matrix rhs again last known
    (congrArg (request :: ·) split) ?_
  rw [List.mem_cons, not_or]
  exact ⟨kept, unforgotten⟩

theorem Serves.factors (serves : cache.Serves tolerance (.solve matrix rhs key :: rest)) :
    (cache.factorsFor tolerance matrix.rows key).2.factors =
      (factorise tolerance matrix.rows).toOption := by
  rcases factorsFor_cases tolerance cache matrix.rows key with ⟨hit, next⟩ | next
  · rw [next]
    obtain ⟨named, same⟩ := Bool.and_eq_true_iff.mp hit
    obtain ⟨again, rfl⟩ := Option.isSome_iff_exists.mp named
    cases present : cache.key with
    | none =>
        rw [present] at same
        cases same
    | some known =>
        rw [present] at same
        exact serves [] matrix rhs again rest known rfl List.not_mem_nil present same
  · rw [next]

/-- Factors that were made serve the later systems of their key, which have the same matrix. -/
theorem Serves.solved (serves : cache.Serves tolerance (.solve matrix rhs key :: rest))
    (named : KeysNameMatrices (.solve matrix rhs key :: rest)) :
    (cache.factorsFor tolerance matrix.rows key).2.Serves tolerance rest := by
  rcases factorsFor_cases tolerance cache matrix.rows key with ⟨_, next⟩ | next
  · rw [next]
    exact serves.tail (by simp)
  · rw [next]
    intro between other side again last known split unforgotten present same
    obtain rfl : key = some known := present
    have one : matrix = other := named [] matrix rhs known between other side again last
      (congrArg (LinearRequest.solve matrix rhs (some known) :: ·) split) unforgotten same
    rw [one]

/-! ### Systems as arrays -/

/-- What a system whose extents fit is answered once its factors are there. -/
def answerWith (rhs : Tensor R) (factors : Option (List (ClearedColumn R))) :
    Except Error (Option (Tensor R)) :=
  match sidesOf rhs with
  | .error cause => if factors.isSome then .error cause else .ok none
  | .ok sides => (solveWith factors sides).solution.map fun found => found.map (shapeLike rhs)

theorem solveArrays_of_fits (tolerance : R) (cache : FactorCache R Key)
    (fits : (LinearRequest.solve matrix rhs key).fits = true) :
    (cache.solveArrays tolerance matrix rhs key).1 =
        answerWith rhs (cache.factorsFor tolerance matrix.rows key).2.factors ∧
      (cache.solveArrays tolerance matrix rhs key).2.2 =
        (cache.factorsFor tolerance matrix.rows key).2 := by
  unfold LinearRequest.fits at fits
  simp only at fits
  split at fits
  · rename_i height width count extents shape sides
    obtain ⟨square, height⟩ := Bool.and_eq_true_iff.mp fits
    obtain rfl := beq_iff_eq.mp square
    obtain rfl := beq_iff_eq.mp height
    unfold solveArrays answerWith
    simp only [shape, sides, ne_eq, not_true_eq_false, if_false]
    cases sidesOf rhs with
    | error cause => exact ⟨rfl, rfl⟩
    | ok columns => exact ⟨rfl, rfl⟩
  · cases fits

/-- A system whose extents do not fit is refused, whatever is remembered. -/
theorem solveArrays_of_misfit (tolerance : R) (misfit : (LinearRequest.solve matrix rhs key).fits = false) :
    ∃ cause, ∀ cache : FactorCache R Key,
      cache.solveArrays tolerance matrix rhs key = (.error cause, [], cache) := by
  unfold solveArrays
  unfold LinearRequest.fits at misfit
  simp only at misfit ⊢
  split
  · rename_i height width shape
    by_cases square : height = width
    · subst square
      simp only [ne_eq, not_true_eq_false, if_false]
      cases sides : rhs.shape with
      | nil => exact ⟨_, fun cache => rfl⟩
      | cons count extents =>
          have apart : height ≠ count := by
            rintro rfl
            simp [shape, sides] at misfit
          exact ⟨_, fun cache => if_pos apart⟩
    · exact ⟨_, fun cache => if_pos square⟩
  · exact ⟨_, fun cache => rfl⟩

end FactorCache

/-! ### Rows of requests -/

namespace DenseAlgebra
variable [Scalar R] [BEq Key]

/-- The outcomes of a row of requests, and the instance after them. -/
def runAll : List (LinearRequest R Key) → DenseAlgebra R Key →
    List (Except Error (LinearReply R)) × DenseAlgebra R Key
  | [], algebra => ([], algebra)
  | request :: rest, algebra =>
    let (outcome, _, next) := algebra.run request
    let (outcomes, last) := runAll rest next
    (outcome :: outcomes, last)

/-- One request is answered as by an instance that was never used, and leaves what serves the
rest. -/
theorem run_serves (algebra : DenseAlgebra R Key) (request : LinearRequest R Key)
    (rest : List (LinearRequest R Key)) (named : KeysNameMatrices (request :: rest))
    (serves : algebra.cache.Serves algebra.pivotTolerance (request :: rest)) :
    (algebra.run request).1 = ((new algebra.pivotTolerance).run request).1 ∧
      (algebra.run request).2.2.pivotTolerance = algebra.pivotTolerance ∧
      (algebra.run request).2.2.cache.Serves algebra.pivotTolerance rest ∧
      (algebra.run request).2.2.cache.hits + (algebra.run request).2.2.cache.misses =
        algebra.cache.hits + algebra.cache.misses + if request.fits then 1 else 0 := by
  cases request with
  | solve matrix rhs key =>
      cases fits : (LinearRequest.solve matrix rhs key).fits with
      | true =>
          obtain ⟨answer, next⟩ :=
            FactorCache.solveArrays_of_fits algebra.pivotTolerance algebra.cache fits
          have blank : (FactorCache.empty : FactorCache R Key).Serves algebra.pivotTolerance
            (.solve matrix rhs key :: rest) := FactorCache.serves_of_blank rfl _
          obtain ⟨fresh, _⟩ :=
            FactorCache.solveArrays_of_fits algebra.pivotTolerance FactorCache.empty fits
          rw [serves.factors] at answer
          rw [blank.factors] at fresh
          simp only [run, new, answer, fresh, next, if_true, true_and]
          refine ⟨serves.solved named, ?_⟩
          rcases FactorCache.factorsFor_cases algebra.pivotTolerance algebra.cache matrix.rows key
            with ⟨_, counted⟩ | counted
          · rw [counted]
            simp only
            omega
          · rw [counted]
            exact (Nat.add_assoc _ _ _).symm
      | false =>
          obtain ⟨cause, refused⟩ :=
            FactorCache.solveArrays_of_misfit algebra.pivotTolerance fits
          simp only [run, new, refused, Bool.false_eq_true, if_false, Nat.add_zero, and_true,
            true_and]
          exact serves.tail (by simp)
  | forget => exact ⟨rfl, rfl, FactorCache.serves_of_blank rfl rest, rfl⟩
  | zeroVector | zeroMatrix | identity | multiply | subtract | negate | norm | addScaled | divide
  | pickRows | appendRows | appendColumns | transpose =>
      exact ⟨rfl, rfl, serves.tail (by simp), rfl⟩

theorem runAll_serves (requests : List (LinearRequest R Key)) (algebra : DenseAlgebra R Key)
    (named : KeysNameMatrices requests)
    (serves : algebra.cache.Serves algebra.pivotTolerance requests) :
    (algebra.runAll requests).1 =
        requests.map (fun request => ((new algebra.pivotTolerance).run request).1) ∧
      (algebra.runAll requests).2.cache.hits + (algebra.runAll requests).2.cache.misses =
        algebra.cache.hits + algebra.cache.misses + requests.countP LinearRequest.fits := by
  induction requests generalizing algebra with
  | nil => exact ⟨rfl, rfl⟩
  | cons request rest ih =>
      obtain ⟨outcome, tolerance, later, counted⟩ := run_serves algebra request rest named serves
      rw [← tolerance] at later
      obtain ⟨outcomes, total⟩ := ih (algebra.run request).2.2 named.tail later
      rw [tolerance] at outcomes
      refine ⟨List.cons_eq_cons.mpr ⟨outcome, outcomes⟩, ?_⟩
      have split : (algebra.runAll (request :: rest)).2 =
        ((algebra.run request).2.2.runAll rest).2 := rfl
      rw [split, total, counted, List.countP_cons]
      omega

end DenseAlgebra
end ConvexQP
