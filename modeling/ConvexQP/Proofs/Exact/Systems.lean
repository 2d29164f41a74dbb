import ConvexQP.Proofs.Exact.Elimination
import ConvexQP.Solver.Systems

/-!
What the dense systems answer. Factors from memory are those that would be made, as long as every
key has one matrix; so an answer depends on the matrix and the right-hand side alone. In exact
arithmetic an accepted matrix is solved exactly.
-/
namespace ConvexQP
open scoped Exact

namespace FactorCache
variable {R Key : Type} [Scalar R]

/-- Factors in memory are those of the matrix that belongs to their key. -/
def Coherent (pivotTolerance : R) (matrixOf : Key → List (List R)) (cache : FactorCache R Key) :
    Prop :=
  ∀ key, cache.key = some key →
    cache.factors = (factorise pivotTolerance (matrixOf key)).toOption

/-- What is remembered under a key, if there is one, was made from the matrix. -/
def Faithful (pivotTolerance : R) (cache : FactorCache R Key) (matrix : List (List R))
    (key : Option Key) : Prop :=
  ∀ known, key = some known → cache.key = some known →
    cache.factors = (factorise pivotTolerance matrix).toOption

variable (pivotTolerance : R) (matrixOf : Key → List (List R))

theorem empty_coherent : Coherent pivotTolerance matrixOf (empty : FactorCache R Key) := by
  intro key none
  simp [empty] at none

theorem forget_coherent (cache : FactorCache R Key) :
    Coherent pivotTolerance matrixOf cache.forget := by
  intro key none
  simp [forget] at none

variable [BEq Key] [LawfulBEq Key] (cache : FactorCache R Key) (key : Key)

theorem factorsFor_factors (coherent : Coherent pivotTolerance matrixOf cache) :
    (cache.factorsFor pivotTolerance (matrixOf key) (some key)).2.factors =
      (factorise pivotTolerance (matrixOf key)).toOption := by
  unfold factorsFor
  -- A hit is trusted for its key, and a miss is factorised here.
  by_cases known : cache.key = some key
  · rw [if_pos (by simp [known])]
    exact coherent key known
  · rw [if_neg (by simp [known])]
    simp only
    split <;> rename_i made <;> rw [made] <;> rfl

theorem factorsFor_coherent (coherent : Coherent pivotTolerance matrixOf cache) :
    Coherent pivotTolerance matrixOf
      (cache.factorsFor pivotTolerance (matrixOf key) (some key)).2 := by
  have factors := factorsFor_factors pivotTolerance matrixOf cache key coherent
  intro other present
  have same : other = key := by
    unfold factorsFor at present
    split at present
    · rename_i known
      simp only [Option.isSome_some, Bool.true_and, beq_iff_eq] at known
      rw [known] at present
      exact (Option.some.inj present).symm
    · simp only at present
      split at present <;> exact (Option.some.inj present).symm
  rw [factors, same]

theorem factorsFor_faithful (matrix : List (List R)) (key : Option Key)
    (faithful : cache.Faithful pivotTolerance matrix key) :
    (cache.factorsFor pivotTolerance matrix key).2.factors =
      (factorise pivotTolerance matrix).toOption := by
  unfold factorsFor
  split
  · rename_i known
    obtain ⟨named, same⟩ := Bool.and_eq_true_iff.mp known
    obtain ⟨name, rfl⟩ := Option.isSome_iff_exists.mp named
    exact faithful name rfl (beq_iff_eq.mp same)
  · simp only
    split <;> rename_i made <;> rw [made] <;> rfl

end FactorCache

namespace DenseSystems
variable {R : Type} [Scalar R] (problem : Problem R)

/-- Nothing disturbs the solutions, and the memory holds what it says. -/
structure Sound (systems : DenseSystems R) : Prop where
  undisturbed : systems.fault = none
  coherent : systems.cache.Coherent systems.pivotTolerance (Kkt.matrix problem)

theorem forget_sound (systems : DenseSystems R) (sound : Sound problem systems) :
    Sound problem systems.forget :=
  ⟨sound.undisturbed, FactorCache.forget_coherent _ _ systems.cache⟩

theorem solve_sound (systems : DenseSystems R) (rhs : List R) (key : List Nat)
    (sound : Sound problem systems) :
    Sound problem (systems.solve (Kkt.matrix problem key) rhs key).2.2 :=
  ⟨sound.undisturbed, FactorCache.factorsFor_coherent _ _ systems.cache key sound.coherent⟩

end DenseSystems

/-! ### Exact solutions -/

section Exact
variable {K : Type} [Field K] [LinearOrder K] [IsStrictOrderedRing K] [Rooted K]

theorem lesser_eq (left right : K) : lesser left right = min left right := by
  unfold lesser
  split
  · rename_i below
    exact (min_eq_left below).symm
  · rename_i below
    have above : right ≤ left := (not_le.mp below).le
    rw [if_pos above, min_eq_right above]

theorem foldl_lesser_le (values : List K) (first : K) :
    ∀ value ∈ first :: values, values.foldl lesser first ≤ value := by
  induction values generalizing first with
  | nil => simp
  | cons next rest ih =>
      have later := ih (lesser first next)
      have least := later (lesser first next) List.mem_cons_self
      rw [lesser_eq] at least later
      intro value member
      rw [List.foldl_cons, lesser_eq]
      rcases List.mem_cons.mp member with same | inner
      · rw [same]
        exact least.trans (min_le_left first next)
      · rcases List.mem_cons.mp inner with same | inner
        · rw [same]
          exact least.trans (min_le_right first next)
        · exact later value (List.mem_cons_of_mem _ inner)

/-- The pivots of an accepted matrix are not zero. -/
theorem factorise_ok (tolerance : K) (matrix : List (List K)) (columns : List (ClearedColumn K))
    (valid : 0 ≤ tolerance) (accepted : factorise tolerance matrix = .ok columns) :
    columns = Elimination.clear matrix.length matrix ∧
      ∀ pivot ∈ Elimination.pivots columns, pivot ≠ 0 := by
  unfold factorise at accepted
  rw [if_pos (List.all_eq_true.mpr fun row _ => Exact.allFinite row)] at accepted
  simp only at accepted
  split at accepted
  · rename_i none
    have made := Except.ok.inj accepted
    refine ⟨made.symm, ?_⟩
    rw [made, List.map_eq_nil_iff] at none
    simp [none]
  · rename_i first rest listed
    split at accepted
    · simp at accepted
    · rename_i large
      have made := Except.ok.inj accepted
      refine ⟨made.symm, ?_⟩
      rw [made] at listed
      intro pivot member zero
      have magnitudes : magnitude pivot ∈ first :: rest := by
        rw [← listed]
        exact List.mem_map_of_mem member
      -- The least pivot is not below this one, so it would be zero and rejected.
      have least := foldl_lesser_le rest first _ magnitudes
      rw [zero, Exact.magnitude_eq, abs_zero] at least
      apply large
      rw [Exact.larger_eq]
      exact least.trans (mul_nonneg valid (zero_le_one.trans (le_max_right _ _)))

def Square (size : Nat) (matrix : List (List K)) : Prop :=
  matrix.length = size ∧ ∀ row ∈ matrix, row.length = size

theorem factorise_solves (tolerance : K) (size : Nat) (matrix : List (List K)) (rhs : List K)
    (columns : List (ClearedColumn K)) (valid : 0 ≤ tolerance) (square : Square size matrix)
    (sides : rhs.length = size) (accepted : factorise tolerance matrix = .ok columns) :
    Linear.apply matrix (Elimination.solve columns rhs) = rhs ∧
      (Elimination.solve columns rhs).length = size := by
  obtain ⟨made, nonzero⟩ := factorise_ok tolerance matrix columns valid accepted
  rw [square.1] at made
  subst made
  exact Elimination.solve_correct size matrix rhs square.1 square.2 sides nonzero

/-- A square matrix has a solution exactly when it is accepted. -/
theorem FactorCache.solve_exact {Key : Type} [BEq Key] [LawfulBEq Key] (cache : FactorCache K Key)
    (tolerance : K) (size : Nat) (matrix : List (List K)) (rhs : List K) (key : Option Key)
    (valid : 0 ≤ tolerance) (square : Square size matrix) (sides : rhs.length = size)
    (faithful : cache.Faithful tolerance matrix key) :
    (cache.solve tolerance matrix [rhs] key).1.solution =
      .ok ((factorise tolerance matrix).toOption.map fun columns =>
        [Elimination.solve columns rhs]) := by
  have factors := factorsFor_faithful tolerance cache matrix key faithful
  unfold FactorCache.solve
  simp only
  rw [factors]
  cases made : factorise tolerance matrix with
  | error note => rfl
  | ok columns =>
      obtain ⟨cleared, _⟩ := factorise_ok _ _ columns valid made
      have width : columns.length = size := by
        rw [cleared, square.1]
        exact Elimination.length_clear size _ square.1
      have fits : [rhs].all (fun side => side.length == columns.length) = true := by
        simp [sides, width]
      have finite : [Elimination.solve columns rhs].all Linear.allFinite = true := by
        simp [Exact.allFinite]
      simp only [Except.toOption, solveWith, fits, if_true, List.map_cons, List.map_nil, finite,
        Option.map_some]

/-- Sound systems answer for a square matrix exactly when it is accepted. -/
theorem DenseSystems.solve_eq (problem : Problem K) (systems : DenseSystems K) (rhs : List K)
    (key : List Nat) (size : Nat) (sound : Sound problem systems)
    (square : Square size (Kkt.matrix problem key)) (sides : rhs.length = size)
    (valid : 0 ≤ systems.pivotTolerance) :
    (systems.solve (Kkt.matrix problem key) rhs key).1 =
      (factorise systems.pivotTolerance (Kkt.matrix problem key)).toOption.map
        fun columns => Elimination.solve columns rhs := by
  have faithful : systems.cache.Faithful systems.pivotTolerance (Kkt.matrix problem key)
      (some key) := by
    rintro known same present
    rw [Option.some.inj same]
    exact sound.coherent known present
  unfold DenseSystems.solve
  simp only [FactorCache.solve_exact systems.cache _ size _ rhs (some key) valid square sides
    faithful]
  cases factorise systems.pivotTolerance (Kkt.matrix problem key) with
  | error note => rfl
  | ok columns =>
      simp only [Except.toOption, Option.map_some, disturb, sound.undisturbed]

end Exact
end ConvexQP
