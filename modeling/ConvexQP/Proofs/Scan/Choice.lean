import ConvexQP.Scan.MultiplierChoice
import ConvexQP.Scan.RatioTest
import Mathlib.Data.List.Induction
import Mathlib.Data.List.Nodup

/-!
What the scans choose from. A row that is chosen is one of the rows that were looked at, and no row
is chosen only when none qualifies. No law of arithmetic is needed.
-/
namespace ConvexQP
variable {R Row : Type} [Scalar R]

namespace RatioTest

theorem run_append (test : RatioTest R) (candidates : List (Candidate R Row))
    (last : Candidate R Row) :
    test.run (candidates ++ [last]) = test.tighten (test.run candidates) last := by
  simp [run]

/-- The step is whole, or a row ahead stops it where the row becomes tight. -/
theorem run_cases (test : RatioTest R) (candidates : List (Candidate R Row)) :
    test.run candidates = ⟨1, none⟩ ∨ ∃ candidate ∈ candidates,
      test.run candidates = ⟨test.ratio candidate, some candidate.row⟩ ∧
        test.ahead candidate = true ∧ 0 ≤ test.ratio candidate := by
  induction candidates using List.reverseRecOn with
  | nil => exact Or.inl rfl
  | append_singleton candidates last ih =>
      rw [run_append, tighten]
      split
      · rename_i tighter
        simp only [Bool.and_eq_true, decide_eq_true_eq] at tighter
        exact Or.inr ⟨last, by simp, rfl, tighter.1.1, tighter.1.2⟩
      · rcases ih with whole | ⟨candidate, member, stopped, facts⟩
        · exact Or.inl whole
        · exact Or.inr ⟨candidate, List.mem_append_left _ member, stopped, facts⟩

theorem length_of_not_blocked (test : RatioTest R) (candidates : List (Candidate R Row))
    (free : (test.run candidates).blocking = none) : (test.run candidates).length = 1 := by
  rcases run_cases test candidates with whole | ⟨candidate, _, stopped, _⟩
  · rw [whole]
  · rw [stopped] at free
    simp at free

theorem blocking_mem (test : RatioTest R) (candidates : List (Candidate R Row)) (row : Row)
    (blocked : (test.run candidates).blocking = some row) :
    row ∈ candidates.map Candidate.row := by
  rcases run_cases test candidates with whole | ⟨candidate, member, stopped, _⟩
  · rw [whole] at blocked
    simp at blocked
  · rw [stopped] at blocked
    simp only [Option.some.injEq] at blocked
    exact blocked ▸ List.mem_map_of_mem member

end RatioTest

namespace MultiplierChoice

theorem keepLeast_none (tolerance : Tolerance R) (entry : Row × R) :
    keepLeast tolerance none entry =
      if droppable tolerance entry.2 = true then some entry else none := by
  simp [keepLeast]

/-- The kept row is the one before or the droppable one that was just looked at. -/
theorem keepLeast_cases (tolerance : Tolerance R) (best : Option (Row × R)) (entry : Row × R) :
    keepLeast tolerance best entry = best ∨
      keepLeast tolerance best entry = some entry ∧ droppable tolerance entry.2 = true := by
  cases best with
  | none =>
      rw [keepLeast_none]
      split
      · exact Or.inr ⟨rfl, ‹_›⟩
      · exact Or.inl rfl
  | some leader =>
      simp only [keepLeast]
      split
      · rename_i better
        exact Or.inr ⟨rfl, (Bool.and_eq_true_iff.mp better).1⟩
      · exact Or.inl rfl

theorem foldl_keepLeast_isSome (tolerance : Tolerance R) (entries : List (Row × R))
    (best : Row × R) : (entries.foldl (keepLeast tolerance) (some best)).isSome = true := by
  induction entries generalizing best with
  | nil => rfl
  | cons entry rest ih =>
      rw [List.foldl_cons]
      rcases keepLeast_cases tolerance (some best) entry with kept | ⟨taken, _⟩
      · rw [kept]
        exact ih best
      · rw [taken]
        exact ih entry

theorem mostNegative_eq_none_iff (tolerance : Tolerance R) (entries : List (Row × R)) :
    mostNegative tolerance entries = none ↔
      ∀ entry ∈ entries, droppable tolerance entry.2 = false := by
  unfold mostNegative
  rw [Option.map_eq_none_iff]
  induction entries with
  | nil => simp
  | cons entry rest ih =>
      rw [List.foldl_cons, keepLeast_none, List.forall_mem_cons]
      cases drops : droppable tolerance entry.2 with
      | true =>
          have found := foldl_keepLeast_isSome tolerance rest entry
          rw [if_pos rfl]
          constructor
          · intro none
            rw [none] at found
            simp at found
          · rintro ⟨never, _⟩
            simp at never
      | false =>
          rw [if_neg (by simp), ih]
          simp

theorem foldl_keepLeast_cases (tolerance : Tolerance R) (entries : List (Row × R))
    (best : Option (Row × R)) (chosen : Row × R)
    (found : entries.foldl (keepLeast tolerance) best = some chosen) :
    (chosen ∈ entries ∧ droppable tolerance chosen.2 = true) ∨ best = some chosen := by
  induction entries generalizing best with
  | nil => exact Or.inr found
  | cons entry rest ih =>
      rcases ih (keepLeast tolerance best entry) found with ⟨later, drops⟩ | now
      · exact Or.inl ⟨List.mem_cons_of_mem entry later, drops⟩
      · rcases keepLeast_cases tolerance best entry with kept | ⟨taken, drops⟩
        · exact Or.inr (kept.symm.trans now)
        · rw [taken, Option.some.injEq] at now
          rw [← now]
          exact Or.inl ⟨List.mem_cons_self, drops⟩

theorem mostNegative_spec (tolerance : Tolerance R) (entries : List (Row × R)) (row : Row)
    (found : mostNegative tolerance entries = some row) :
    ∃ value, (row, value) ∈ entries ∧ droppable tolerance value = true := by
  obtain ⟨chosen, kept, rfl⟩ := Option.map_eq_some_iff.mp found
  rcases foldl_keepLeast_cases tolerance entries none chosen kept with chosen | none
  · exact ⟨_, chosen⟩
  · simp at none

variable [DecidableEq Row]

/-- A row that is dropped has a droppable multiplier. -/
theorem rowToDrop_spec (tolerance : Tolerance R) (latestIn : Option Row)
    (entries : List (Row × R)) (row : Row)
    (found : rowToDrop tolerance latestIn entries = some row) :
    ∃ value, (row, value) ∈ entries ∧ droppable tolerance value = true := by
  unfold rowToDrop at found
  split at found
  · rename_i other chosen
    rw [Option.some.injEq] at found
    obtain ⟨value, member, drops⟩ := mostNegative_spec tolerance _ other chosen
    exact ⟨value, found ▸ (List.mem_filter.mp member).1, drops⟩
  · split at found
    · rename_i entry last
      split at found
      · rename_i drops
        rw [Option.some.injEq] at found
        have kept := List.mem_of_getLast? last
        exact ⟨entry.2, found ▸ (List.mem_filter.mp kept).1, drops⟩
      · simp at found
    · simp at found

theorem rowToDrop_mem (tolerance : Tolerance R) (latestIn : Option Row)
    (entries : List (Row × R)) (row : Row)
    (found : rowToDrop tolerance latestIn entries = some row) : row ∈ entries.map Prod.fst := by
  obtain ⟨value, member, _⟩ := rowToDrop_spec tolerance latestIn entries row found
  exact List.mem_map_of_mem member

/-- No row is dropped only if none qualifies, the row that entered last included. -/
theorem droppable_of_rowToDrop_none (tolerance : Tolerance R) (latestIn : Option Row)
    (entries : List (Row × R)) (distinct : (entries.map Prod.fst).Nodup)
    (none : rowToDrop tolerance latestIn entries = none) (entry : Row × R)
    (member : entry ∈ entries) : droppable tolerance entry.2 = false := by
  unfold rowToDrop at none
  split at none
  · simp at none
  · rename_i others
    -- The row that entered last is looked at only when no other row qualifies.
    by_cases latest : some entry.1 = latestIn
    · have kept : entry ∈ entries.filter fun item => some item.1 = latestIn :=
        List.mem_filter.mpr ⟨member, by simp [latest]⟩
      have only : ∀ item ∈ entries.filter (fun item => some item.1 = latestIn), item = entry := by
        intro item found
        obtain ⟨inside, same⟩ := List.mem_filter.mp found
        have rows : item.1 = entry.1 := by
          rw [← latest] at same
          simpa using same
        exact List.inj_on_of_nodup_map distinct inside member rows
      cases last : (entries.filter fun item => some item.1 = latestIn).getLast? with
      | none => simp [List.getLast?_eq_none_iff.mp last] at kept
      | some item =>
          have same := only item (List.mem_of_getLast? last)
          subst same
          simp only [last] at none
          simpa using none
    · exact (mostNegative_eq_none_iff tolerance _).mp others entry
        (List.mem_filter.mpr ⟨member, by simp [latest]⟩)

/-! ### The row of largest multiplier -/

omit [DecidableEq Row] in
theorem foldl_keepLargest_mem (entries : List (Row × R)) (best : Row × R) :
    (entries.foldl keepLargest best).1 ∈ best.1 :: entries.map Prod.fst := by
  induction entries generalizing best with
  | nil => simp
  | cons entry rest ih =>
      have later := ih (keepLargest best entry)
      rw [List.foldl_cons]
      have kept : (keepLargest best entry).1 = best.1 ∨ (keepLargest best entry).1 = entry.1 := by
        unfold keepLargest
        split
        · exact Or.inr rfl
        · exact Or.inl rfl
      simp only [List.mem_cons, List.map_cons] at later ⊢
      rcases later with now | later
      · rcases kept with same | same <;> simp [now, same]
      · exact Or.inr (Or.inr later)

omit [DecidableEq Row] in
theorem largestMagnitude_mem (entries : List (Row × R)) (row : Row)
    (found : largestMagnitude entries = some row) : row ∈ entries.map Prod.fst := by
  cases entries with
  | nil => simp [largestMagnitude] at found
  | cons entry rest =>
      have member := foldl_keepLargest_mem (entry :: rest) (entry.1, 0)
      rw [← Option.some.inj found]
      simpa using member

omit [DecidableEq Row] in
theorem largestMagnitude_isSome (entries : List (Row × R)) (nonempty : entries ≠ []) :
    ∃ row, largestMagnitude entries = some row := by
  cases entries with
  | nil => exact absurd rfl nonempty
  | cons entry rest => exact ⟨_, rfl⟩

end MultiplierChoice
end ConvexQP
