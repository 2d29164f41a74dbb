import ConvexQP.WorkingSet

/-!
Membership in a working set. The included and the excluded rows are ascending lists that part the
rows between them; moving a row in or out changes the side of this row only.
-/
namespace ConvexQP.WorkingSet

theorem mem_rowsOf (side : Bool) (members : List Bool) (row : Nat) :
    row ∈ rowsOf side members ↔ members[row]? = some side := by
  simp only [rowsOf, List.mem_filter, List.mem_range, beq_iff_eq]
  constructor
  · exact fun found => found.2
  · intro found
    exact ⟨(List.getElem?_eq_some_iff.mp found).1, found⟩

theorem rowsOf_nodup (side : Bool) (members : List Bool) : (rowsOf side members).Nodup :=
  List.nodup_range.filter _

/-- Ascending lists over equally many rows are told apart by membership. -/
theorem rowsOf_congr (side : Bool) (left right : List Bool) (size : left.length = right.length)
    (same : ∀ row : Nat, left[row]? = some side ↔ right[row]? = some side) :
    rowsOf side left = rowsOf side right := by
  unfold rowsOf
  rw [size]
  apply List.filter_congr
  intro row _
  rw [Bool.eq_iff_iff, beq_iff_eq, beq_iff_eq]
  exact same row

theorem length_rowsOf (side : Bool) (members : List Bool) :
    (rowsOf side members).length = members.count side := by
  induction members with
  | nil => rfl
  | cons head rest ih =>
      have shifted : ((fun row => (head :: rest)[row]? == some side) ∘ Nat.succ) =
          fun row => rest[row]? == some side := by
        funext row
        simp
      simp only [rowsOf, List.length_cons, List.range_succ_eq_map, List.filter_cons,
        List.filter_map, shifted, List.count_cons]
      simp only [rowsOf] at ih
      by_cases first : head = side
      · simp [first, ih]
      · simp [first, ih]

variable (set : WorkingSet) (row other : Nat)

theorem mem_included : row ∈ set.included ↔ set.members[row]? = some true :=
  mem_rowsOf true set.members row

theorem contains_iff : set.contains row = true ↔ row ∈ set.included := by
  rw [mem_included]
  simp [contains]

theorem included_nodup : set.included.Nodup := rowsOf_nodup true set.members

theorem included_increasing : set.included.Pairwise (· < ·) :=
  List.pairwise_lt_range.sublist List.filter_sublist

theorem excluded_increasing : set.excluded.Pairwise (· < ·) :=
  List.pairwise_lt_range.sublist List.filter_sublist

theorem mem_excluded : row ∈ set.excluded ↔ set.members[row]? = some false :=
  mem_rowsOf false set.members row

theorem not_mem_included_of_excluded (out : row ∈ set.excluded) : row ∉ set.included := by
  rw [mem_excluded] at out
  rw [mem_included, out]
  simp

theorem lt_size_of_excluded (out : row ∈ set.excluded) : row < set.size :=
  (List.getElem?_eq_some_iff.mp ((mem_excluded set row).mp out)).1

theorem lt_size_of_included (inside : row ∈ set.included) : row < set.size :=
  (List.getElem?_eq_some_iff.mp ((mem_included set row).mp inside)).1

theorem length_included : set.included.length = set.includedCount :=
  length_rowsOf true set.members

theorem mem_included_or_excluded (bound : row < set.size) :
    row ∈ set.included ∨ row ∈ set.excluded := by
  rw [mem_included, mem_excluded]
  have found : set.members[row]? = some set.members[row] := List.getElem?_eq_getElem bound
  cases side : set.members[row] with
  | true => exact Or.inl (found.trans (congrArg some side))
  | false => exact Or.inr (found.trans (congrArg some side))

theorem excluded_of_empty (empty : set.included = []) : set.excluded = List.range set.size := by
  unfold excluded rowsOf
  apply List.filter_eq_self.mpr
  intro row member
  rcases mem_included_or_excluded set row (List.mem_range.mp member) with inside | out
  · rw [empty] at inside
    simp at inside
  · rw [mem_excluded] at out
    rw [out]
    rfl

/-- Rows that come before all others of a set are its first ones. -/
theorem increasing_eq_take (part whole : List Nat) (rising : part.Pairwise (· < ·))
    (ascending : whole.Pairwise (· < ·)) (inside : ∀ row ∈ part, row ∈ whole)
    (first : ∀ row ∈ part, ∀ other ∈ whole, other ∉ part → row < other) :
    part = whole.take part.length := by
  induction whole generalizing part with
  | nil =>
      have none : part = [] := by
        apply List.eq_nil_iff_forall_not_mem.mpr
        intro row member
        cases inside row member
      rw [none]
      rfl
  | cons least rest ih =>
      cases part with
      | nil => rfl
      | cons row tail =>
          obtain ⟨above, others⟩ := List.pairwise_cons.mp ascending
          obtain ⟨behind, later⟩ := List.pairwise_cons.mp rising
          have here : row = least := by
            rcases List.mem_cons.mp (inside row List.mem_cons_self) with same | beyond
            · exact same
            · -- The least row would be out, and before one that is in.
              have less := above row beyond
              by_cases kept : least ∈ row :: tail
              · rcases List.mem_cons.mp kept with same | after
                · exact same.symm
                · exact absurd (behind least after) (Nat.lt_asymm less)
              · exact absurd (first row List.mem_cons_self least List.mem_cons_self kept)
                  (Nat.lt_asymm less)
          subst here
          have within (other : Nat) (member : other ∈ tail) : other ∈ rest := by
            rcases List.mem_cons.mp (inside other (List.mem_cons_of_mem row member)) with same | held
            · exact absurd same (Nat.ne_of_gt (behind other member))
            · exact held
          have order (other : Nat) (member : other ∈ tail) (next : Nat) (held : next ∈ rest)
              (out : next ∉ tail) : other < next := by
            refine first other (List.mem_cons_of_mem row member) next (List.mem_cons_of_mem row held) ?_
            rw [List.mem_cons, not_or]
            exact ⟨Nat.ne_of_gt (above next held), out⟩
          exact congrArg (row :: ·) (ih tail later others within order)

theorem included_eq_take (part whole : WorkingSet)
    (inside : ∀ row ∈ part.included, row ∈ whole.included)
    (first : ∀ row ∈ part.included, ∀ other ∈ whole.included, other ∉ part.included → row < other) :
    part.included = whole.included.take part.included.length :=
  increasing_eq_take _ _ part.included_increasing whole.included_increasing inside first

theorem included_eq_filter (test : Nat → Bool)
    (same : ∀ row < set.size, row ∈ set.included ↔ test row = true) :
    set.included = (List.range set.size).filter test := by
  apply List.filter_congr
  intro row member
  rw [Bool.eq_iff_iff, beq_iff_eq, ← mem_included]
  exact same row (List.mem_range.mp member)

/-! ### Moves -/

@[simp] theorem size_insert : (set.insert row).size = set.size := by
  unfold insert size
  split <;> simp

@[simp] theorem size_erase : (set.erase row).size = set.size := by
  unfold erase size
  split <;> simp

@[simp] theorem size_clear : set.clear.size = set.size := by
  simp [clear, empty, size]

@[simp] theorem size_fill : set.fill.size = set.size := List.length_replicate

theorem row_outside (index : Int) (outside : ¬(0 ≤ index ∧ index < set.size)) :
    set.row index = .error (.outOfBounds index set.size) := if_neg outside

theorem mem_included_insert (bound : row < set.size) :
    other ∈ (set.insert row).included ↔ other ∈ set.included ∨ other = row := by
  rw [mem_included, mem_included]
  unfold insert
  rcases mem_included_or_excluded set row bound with inside | out
  · rw [mem_included] at inside
    rw [if_neg (by rw [inside]; simp)]
    constructor
    · exact Or.inl
    · rintro (found | same)
      · exact found
      · rw [same]
        exact inside
  · rw [mem_excluded] at out
    rw [if_pos out]
    by_cases same : other = row
    · subst same
      simp [List.getElem?_set_self bound]
    · simp [List.getElem?_set_ne (Ne.symm same), same]

theorem size_insertAll (rows : List Nat) : (rows.foldl insert set).size = set.size := by
  induction rows generalizing set with
  | nil => rfl
  | cons row rest ih => rw [List.foldl_cons, ih, size_insert]

theorem mem_included_insertAll (rows : List Nat) (inside : ∀ row ∈ rows, row < set.size) :
    other ∈ (rows.foldl insert set).included ↔ other ∈ set.included ∨ other ∈ rows := by
  induction rows generalizing set with
  | nil => simp
  | cons row rows ih =>
      have later (next : Nat) (member : next ∈ rows) : next < (set.insert row).size := by
        rw [size_insert]
        exact inside next (List.mem_cons_of_mem row member)
      rw [List.foldl_cons, ih _ later,
        mem_included_insert set row other (inside row List.mem_cons_self), List.mem_cons, or_assoc]

theorem included_clear : set.clear.included = [] := by
  apply List.eq_nil_iff_forall_not_mem.mpr
  intro row member
  rw [mem_included] at member
  simp [clear, empty, List.getElem?_replicate] at member

theorem mem_included_erase :
    other ∈ (set.erase row).included ↔ other ∈ set.included ∧ other ≠ row := by
  rw [mem_included, mem_included]
  unfold erase
  by_cases inside : set.members[row]? = some true
  · rw [if_pos inside]
    by_cases same : other = row
    · subst same
      have bound := (List.getElem?_eq_some_iff.mp inside).1
      simp [List.getElem?_set_self bound]
    · simp [List.getElem?_set_ne (Ne.symm same), same]
  · rw [if_neg inside]
    constructor
    · intro found
      refine ⟨found, fun same => inside ?_⟩
      rw [← same]
      exact found
    · exact fun found => found.1

/-- Sets over equally many rows with the same members have the same list of included rows. -/
theorem included_congr (left right : WorkingSet) (sizes : left.size = right.size)
    (same : ∀ row, row ∈ left.included ↔ row ∈ right.included) :
    left.included = right.included := by
  apply rowsOf_congr true left.members right.members sizes
  intro row
  rw [← mem_included, ← mem_included]
  exact same row

theorem included_erase : (set.erase row).included = set.included.erase row := by
  rw [(included_nodup set).erase_eq_filter]
  unfold included rowsOf
  have sizes : (set.erase row).members.length = set.members.length := size_erase set row
  rw [sizes, List.filter_filter]
  apply List.filter_congr
  intro other _
  have moved := mem_included_erase set row other
  rw [mem_included, mem_included] at moved
  rw [Bool.eq_iff_iff, Bool.and_eq_true_iff, beq_iff_eq, beq_iff_eq, bne_iff_ne, moved]
  exact and_comm

/-- A row that was moved in is beside the rows that were in before. -/
theorem included_insert_erase (out : row ∈ set.excluded) :
    (set.insert row).included.erase row = set.included := by
  have bound := lt_size_of_excluded set row out
  rw [← included_erase]
  refine included_congr _ _ (by simp) ?_
  intro other
  rw [mem_included_erase, mem_included_insert set row other bound]
  constructor
  · rintro ⟨inside | same, apart⟩
    · exact inside
    · exact absurd same apart
  · intro inside
    refine ⟨Or.inl inside, ?_⟩
    rintro rfl
    exact not_mem_included_of_excluded set other out inside

theorem includedCount_erase (inside : row ∈ set.included) :
    (set.erase row).includedCount + 1 = set.includedCount := by
  have found := (mem_included set row).mp inside
  obtain ⟨bound, here⟩ := List.getElem?_eq_some_iff.mp found
  have present : 0 < set.members.count true :=
    List.count_pos_iff.mpr (List.mem_of_getElem? found)
  unfold includedCount erase
  rw [if_pos found]
  simp only [List.count_set bound, here]
  simpa using Nat.sub_add_cancel present

end ConvexQP.WorkingSet
