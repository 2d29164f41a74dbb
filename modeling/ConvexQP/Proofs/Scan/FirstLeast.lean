import ConvexQP.Proofs.Scan.StepLength

/-!
Scans that keep the first least of what they look at. The ratio test is such a scan over the rows
that stop the step, and the choice of the row to drop is one over the rows with a multiplier below
the tolerance.
-/
namespace ConvexQP

/-- Among the eligible entries the one at this place costs least, and those before it cost more. -/
structure FirstLeast {Entry K : Type} [LinearOrder K] (eligible : Entry → Prop) (cost : Entry → K)
    (entries : List Entry) (place : Nat) (chosen : Entry) : Prop where
  found : entries[place]? = some chosen
  qualified : eligible chosen
  least : ∀ other ∈ entries, eligible other → cost chosen ≤ cost other
  first : ∀ earlier < place, ∀ other, entries[earlier]? = some other → eligible other →
    cost chosen < cost other

namespace FirstLeast
variable {Entry K : Type} [LinearOrder K] {eligible : Entry → Prop} {cost : Entry → K}
variable {entries : List Entry} {place : Nat} {chosen last : Entry}

theorem lt_length (first : FirstLeast eligible cost entries place chosen) :
    place < entries.length := (List.getElem?_eq_some_iff.mp first.found).1

theorem mem (first : FirstLeast eligible cost entries place chosen) : chosen ∈ entries :=
  List.mem_of_getElem? first.found

/-- An entry that does not cost less leaves the choice as it was. -/
theorem append_kept (first : FirstLeast eligible cost entries place chosen)
    (kept : eligible last → cost chosen ≤ cost last) :
    FirstLeast eligible cost (entries ++ [last]) place chosen := by
  have inside := first.lt_length
  refine ⟨?_, first.qualified, ?_, ?_⟩
  · rw [List.getElem?_append_left inside]
    exact first.found
  · intro other member qualified
    rcases List.mem_append.mp member with earlier | here
    · exact first.least other earlier qualified
    · rw [List.mem_singleton.mp here] at qualified ⊢
      exact kept qualified
  · intro earlier before other found
    rw [List.getElem?_append_left (before.trans inside)] at found
    exact first.first earlier before other found

/-- An entry that costs less than all eligible ones before it becomes the choice. -/
theorem append_taken (qualified : eligible last)
    (below : ∀ other ∈ entries, eligible other → cost last < cost other) :
    FirstLeast eligible cost (entries ++ [last]) entries.length last := by
  refine ⟨List.getElem?_concat_length, qualified, ?_, ?_⟩
  · intro other member also
    rcases List.mem_append.mp member with earlier | here
    · exact (below other earlier also).le
    · rw [List.mem_singleton.mp here]
  · intro earlier before other found
    rw [List.getElem?_append_left before] at found
    exact below other (List.mem_of_getElem? found)

/-- Where the entries stand in the order of a number, a level entry has no smaller one. -/
theorem least_or_level {number : Entry → Nat}
    (first : FirstLeast eligible cost entries place chosen)
    (rising : entries.Pairwise fun one other => number one < number other) (other : Entry)
    (member : other ∈ entries) (qualified : eligible other) :
    cost chosen < cost other ∨ cost chosen = cost other ∧ number chosen ≤ number other := by
  obtain ⟨inside, there⟩ := List.getElem?_eq_some_iff.mp first.found
  obtain ⟨position, bound, here⟩ := List.mem_iff_getElem.mp member
  have least := first.least other member qualified
  rcases lt_trichotomy position place with before | same | behind
  · exact Or.inl (first.first position before other (List.getElem?_eq_some_iff.mpr ⟨bound, here⟩)
      qualified)
  · subst same
    rw [← there, ← here]
    exact Or.inr ⟨rfl, le_rfl⟩
  · have later := List.pairwise_iff_getElem.mp rising place position inside bound behind
    rw [there, here] at later
    rcases least.lt_or_eq with less | level
    · exact Or.inl less
    · exact Or.inr ⟨level, later.le⟩

end FirstLeast

open scoped Exact
variable {K : Type} [Field K] [LinearOrder K] [IsStrictOrderedRing K] [Rooted K] {Row : Type}

/-! ### The ratio test -/

/-- Small beside a reference, or in itself beside a reference that is small. -/
def Negligible (bound reference value : K) : Prop :=
  |value| ≤ if |reference| ≤ bound then bound else bound * |reference|

instance (bound reference value : K) : Decidable (Negligible bound reference value) :=
  inferInstanceAs (Decidable (|value| ≤ if |reference| ≤ bound then bound else bound * |reference|))

theorem isSmall_iff_negligible (tolerance : Tolerance K) (valid : 0 ≤ tolerance.bound)
    (reference value : K) :
    tolerance.isSmall reference value = true ↔ Negligible tolerance.bound reference value := by
  rw [Exact.isSmall_iff tolerance reference value valid, Negligible]
  split <;> rfl

namespace RatioTest
variable (test : RatioTest K) (candidate : Candidate K Row) (candidates : List (Candidate K Row))

/-- The part of the step at which a row becomes tight. -/
def reach : K :=
  if Negligible test.slackTolerance.bound candidate.slope candidate.slack then 0
  else candidate.slack / candidate.slope

/-- The row becomes tight before the step ends, and its slope is told from none. -/
structure Stops : Prop where
  rising : 0 < candidate.slope
  steep : ¬ Negligible test.solutionTolerance.bound test.stepNorm candidate.slope
  ahead : 0 ≤ test.reach candidate
  short : test.reach candidate < 1

/-- The tolerances are no negative ones. -/
structure Fair : Prop where
  slack : 0 ≤ test.slackTolerance.bound
  solution : 0 ≤ test.solutionTolerance.bound

variable {test candidate} (fair : test.Fair)
include fair

theorem ratio_eq_reach : test.ratio candidate = test.reach candidate := by
  unfold ratio reach
  by_cases small : Negligible test.slackTolerance.bound candidate.slope candidate.slack
  · rw [if_pos small, if_pos ((isSmall_iff_negligible _ fair.slack _ _).mpr small)]
  · rw [if_neg small, if_neg fun told => small ((isSmall_iff_negligible _ fair.slack _ _).mp told)]

theorem ahead_iff : test.ahead candidate = true ↔ 0 < candidate.slope ∧
    ¬ Negligible test.solutionTolerance.bound test.stepNorm candidate.slope := by
  rw [ahead, Bool.and_eq_true, decide_eq_true_eq, Bool.not_eq_true', ← Bool.not_eq_true,
    isSmall_iff_negligible _ fair.solution]

theorem tighten_taken {limit : StepLimit K Row} (stops : test.Stops candidate)
    (shorter : test.reach candidate < limit.length) :
    test.tighten limit candidate = ⟨test.reach candidate, some candidate.row⟩ := by
  have ahead := (ahead_iff fair).mpr ⟨stops.rising, stops.steep⟩
  simp only [tighten, ratio_eq_reach fair, ahead, stops.ahead, shorter, decide_true, Bool.and_self,
    if_true]

theorem tighten_kept {limit : StepLimit K Row} (whole : limit.length ≤ 1)
    (kept : test.Stops candidate → limit.length ≤ test.reach candidate) :
    test.tighten limit candidate = limit := by
  unfold tighten
  simp only [ratio_eq_reach fair]
  apply if_neg
  intro tighter
  simp only [Bool.and_eq_true, decide_eq_true_eq] at tighter
  obtain ⟨⟨ahead, reached⟩, shorter⟩ := tighter
  obtain ⟨rising, steep⟩ := (ahead_iff fair).mp ahead
  -- The limit is at most one, so a row that would tighten it stops the step.
  exact absurd shorter (not_lt.mpr (kept ⟨rising, steep, reached, shorter.trans_le whole⟩))

/-- What the running limit is after any number of rows: whole as long as none stops the step, then
that of the first least row. -/
theorem run_invariant :
    (test.run candidates = ⟨1, none⟩ ∧ ∀ candidate ∈ candidates, ¬ test.Stops candidate) ∨
      ∃ place chosen, FirstLeast test.Stops test.reach candidates place chosen ∧
        test.run candidates = ⟨test.reach chosen, some chosen.row⟩ := by
  induction candidates using List.reverseRecOn with
  | nil => exact Or.inl ⟨rfl, by simp⟩
  | append_singleton candidates last ih =>
      rw [run_append]
      -- The running limit is whole until a row stops the step, so only then are there rows to beat.
      rcases ih with ⟨whole, free⟩ | ⟨place, chosen, first, limit⟩
      · rw [whole]
        by_cases stops : test.Stops last
        · refine Or.inr ⟨_, last, .append_taken stops ?_, tighten_taken fair stops stops.short⟩
          intro other member also
          exact absurd also (free other member)
        · refine Or.inl ⟨tighten_kept fair le_rfl fun also => absurd also stops, ?_⟩
          intro candidate member
          rcases List.mem_append.mp member with earlier | here
          · exact free candidate earlier
          · rw [List.mem_singleton.mp here]
            exact stops
      · rw [limit]
        by_cases taken : test.Stops last ∧ test.reach last < test.reach chosen
        · refine Or.inr ⟨_, last, .append_taken taken.1 ?_, tighten_taken fair taken.1 taken.2⟩
          intro other member also
          exact taken.2.trans_le (first.least other member also)
        · have kept : test.Stops last → test.reach chosen ≤ test.reach last :=
            fun stops => not_lt.mp fun less => taken ⟨stops, less⟩
          exact Or.inr ⟨place, chosen, first.append_kept kept,
            tighten_kept fair first.qualified.short.le kept⟩

/-- Rows in another order stop the step just as soon. -/
theorem length_perm (others : List (Candidate K Row)) (order : others.Perm candidates) :
    (test.run others).length = (test.run candidates).length := by
  rcases run_invariant candidates fair with ⟨whole, free⟩ | ⟨_, chosen, first, limit⟩
  · rcases run_invariant others fair with ⟨also, _⟩ | ⟨_, other, there, _⟩
    · rw [whole, also]
    · exact absurd there.qualified (free other (order.mem_iff.mp there.mem))
  · rcases run_invariant others fair with ⟨_, free⟩ | ⟨_, other, there, also⟩
    · exact absurd first.qualified (free chosen (order.mem_iff.mpr first.mem))
    · rw [limit, also]
      exact le_antisymm (there.least chosen (order.mem_iff.mpr first.mem) first.qualified)
        (first.least other (order.mem_iff.mp there.mem) there.qualified)

/-- The step goes as far as the rows that stop it allow: it is whole if none does, and else the
first row of least reach ends it. -/
theorem run_first_least :
    ((∀ candidate ∈ candidates, ¬ test.Stops candidate) → test.run candidates = ⟨1, none⟩) ∧
    ((∃ candidate ∈ candidates, test.Stops candidate) →
      ∃ place chosen, FirstLeast test.Stops test.reach candidates place chosen ∧
        test.run candidates = ⟨test.reach chosen, some chosen.row⟩) ∧
    0 ≤ (test.run candidates).length ∧ (test.run candidates).length ≤ 1 ∧
    ((test.run candidates).length = 1 ↔ (test.run candidates).blocking = none) ∧
    ∀ others : List (Candidate K Row), others.Perm candidates →
      (test.run others).length = (test.run candidates).length := by
  have order := length_perm candidates fair
  rcases run_invariant candidates fair with ⟨whole, free⟩ | ⟨place, chosen, first, limit⟩
  · refine ⟨fun _ => whole, ?_, ?_, ?_, ?_, order⟩
    · rintro ⟨candidate, member, stops⟩
      exact absurd stops (free candidate member)
    · rw [whole]
      exact zero_le_one
    · rw [whole]
    · rw [whole]
      exact ⟨fun _ => rfl, fun _ => rfl⟩
  · have stops := first.qualified
    refine ⟨?_, fun _ => ⟨place, chosen, first, limit⟩, ?_, ?_, ?_, order⟩
    · intro free
      exact absurd stops (free chosen first.mem)
    · rw [limit]
      exact stops.ahead
    · rw [limit]
      exact stops.short.le
    · rw [limit]
      exact ⟨fun whole => absurd whole stops.short.ne, fun free => absurd free (by simp)⟩

end RatioTest

/-- A row that is hardly risen to, one that ends where the step does and one left behind do not
count; of two rows that stop the step equally soon the one listed first is named. -/
theorem run_first_least_tie :
    let test : RatioTest ℚ := ⟨⟨1 / 8⟩, ⟨1 / 8⟩, 4⟩
    let rows : List (Candidate ℚ Nat) :=
      [⟨1, 1 / 4, 3⟩, ⟨4, 4, 5⟩, ⟨1, 2, 7⟩, ⟨2, 4, 8⟩, ⟨-1, 1, 9⟩]
    test.Fair ∧ (∃ candidate ∈ rows, test.Stops candidate) ∧
      (∃ place chosen, FirstLeast test.Stops test.reach rows place chosen ∧
        test.run rows = ⟨test.reach chosen, some chosen.row⟩) ∧
      (test.run rows).length = 1 / 2 ∧ (test.run rows).blocking = some 7 ∧
      (test.run rows.reverse).length = (test.run rows).length ∧
      (test.run rows.reverse).blocking = some 8 := by
  intro test rows
  have fair : test.Fair := ⟨by decide +kernel, by decide +kernel⟩
  have stopped : ∃ candidate ∈ rows, test.Stops candidate :=
    ⟨⟨1, 2, 7⟩, by simp [rows],
      ⟨by decide +kernel, by decide +kernel, by decide +kernel, by decide +kernel⟩⟩
  obtain ⟨_, least, _, _, _, order⟩ := RatioTest.run_first_least rows fair
  exact ⟨fair, stopped, least stopped, by decide +kernel, by decide +kernel,
    order rows.reverse rows.reverse_perm, by decide +kernel⟩

/-! ### The choice of the row to drop -/

namespace MultiplierChoice
variable (tolerance : Tolerance K) (entries : List (Row × K))

/-- A multiplier speaks against its row if it lies below zero by more than the tolerance. -/
theorem droppable_iff (valid : 0 ≤ tolerance.bound) (multiplier : K) :
    droppable tolerance multiplier = true ↔ multiplier < -tolerance.bound := by
  rw [droppable, Bool.and_eq_true, decide_eq_true_eq, Bool.not_eq_true', ← Bool.not_eq_true,
    Exact.isZero_iff, not_le, lt_abs]
  constructor
  · rintro ⟨negative, above | below⟩
    · linarith
    · linarith
  · intro below
    exact ⟨by linarith, Or.inr (by linarith)⟩

theorem not_droppable_iff (valid : 0 ≤ tolerance.bound) (multiplier : K) :
    droppable tolerance multiplier = false ↔ -tolerance.bound ≤ multiplier := by
  rw [← Bool.not_eq_true, droppable_iff tolerance valid, not_lt]

/-- The entry kept after any number of entries is the first least of the droppable ones. -/
theorem foldl_keepLeast_first (chosen : Row × K)
    (kept : entries.foldl (keepLeast tolerance) none = some chosen) :
    ∃ place, FirstLeast (fun entry => droppable tolerance entry.2 = true) Prod.snd entries place
      chosen := by
  induction entries using List.reverseRecOn generalizing chosen with
  | nil => simp at kept
  | append_singleton entries last ih =>
      rw [List.foldl_append, List.foldl_cons, List.foldl_nil] at kept
      cases before : entries.foldl (keepLeast tolerance) none with
      | none =>
          -- Nothing kept so far means that nothing so far may be dropped.
          have others := (mostNegative_eq_none_iff tolerance entries).mp
            (Option.map_eq_none_iff.mpr before)
          rw [before, keepLeast_none] at kept
          split at kept
          · rename_i drops
            obtain rfl := Option.some.inj kept
            refine ⟨_, .append_taken drops fun other member also => ?_⟩
            rw [others other member] at also
            cases also
          · cases kept
      | some leader =>
          obtain ⟨place, first⟩ := ih leader before
          rw [before] at kept
          simp only [keepLeast, Bool.and_eq_true, decide_eq_true_eq] at kept
          split at kept
          · rename_i better
            obtain rfl := Option.some.inj kept
            refine ⟨_, .append_taken better.1 fun other member also => ?_⟩
            exact better.2.trans_le (first.least other member also)
          · rename_i kept_before
            obtain rfl := Option.some.inj kept
            exact ⟨place, first.append_kept fun drops =>
              not_lt.mp fun less => kept_before ⟨drops, less⟩⟩

variable [DecidableEq Row] (latestIn : Option Row)

/-- A row other than the one that entered last is the first least of these; the one that entered
last is dropped only where none of the others may be. -/
theorem rowToDrop_first (row : Row)
    (found : rowToDrop tolerance latestIn entries = some row) :
    ∃ value, (row, value) ∈ entries ∧ droppable tolerance value = true ∧
      if some row = latestIn then
        ∀ entry ∈ entries, some entry.1 ≠ latestIn → droppable tolerance entry.2 = false
      else ∃ place, FirstLeast (fun entry => droppable tolerance entry.2 = true) Prod.snd
        (entries.filter fun entry => some entry.1 ≠ latestIn) place (row, value) := by
  unfold rowToDrop at found
  split at found
  · rename_i other chosen
    obtain rfl := Option.some.inj found
    obtain ⟨entry, kept, rfl⟩ := Option.map_eq_some_iff.mp chosen
    obtain ⟨place, first⟩ := foldl_keepLeast_first tolerance _ entry kept
    obtain ⟨member, apart⟩ := List.mem_filter.mp first.mem
    refine ⟨entry.2, member, first.qualified, ?_⟩
    rw [if_neg (of_decide_eq_true apart)]
    exact ⟨place, first⟩
  · rename_i others
    split at found
    · rename_i entry last
      split at found
      · rename_i drops
        obtain rfl := Option.some.inj found
        obtain ⟨member, latest⟩ := List.mem_filter.mp (List.mem_of_getLast? last)
        refine ⟨entry.2, member, drops, ?_⟩
        rw [if_pos (of_decide_eq_true latest)]
        intro other inside apart
        exact (mostNegative_eq_none_iff tolerance _).mp others other
          (List.mem_filter.mpr ⟨inside, decide_eq_true apart⟩)
      · cases found
    · cases found

end MultiplierChoice
end ConvexQP
