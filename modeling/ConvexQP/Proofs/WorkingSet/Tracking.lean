import ConvexQP.Proofs.WorkingSet.Membership
import Mathlib.Data.List.Nodup

/-!
The rows that moved last. Including and excluding rows tracks transitions and not calls: the row
tracked on a side is the one that moved there last, whether one row or many were named and whether
or not the call was refused half-way. Only filling the set tracks its last row in any case.
-/
namespace ConvexQP.WorkingSet

/-! ### What a call moves -/

/-- The row that a loose value names. -/
def rowOf (set : WorkingSet) (index : Datum) : Except Error Nat := index.toInteger.bind set.row

/-- The rows that indices name, up to the first index that names none. -/
def named (set : WorkingSet) : List Datum → List Nat
  | [] => []
  | index :: rest =>
    match set.rowOf index with
    | .ok row => row :: set.named rest
    | .error _ => []

/-- The rows of a list that are out, each where it is named first. -/
def fresh (set : WorkingSet) (rows : List Nat) : List Nat :=
  (rows.filter (· ∈ set.excluded)).eraseDups

/-- The rows that a call moves in, in the order in which they move. -/
def entering (set : WorkingSet) : Move → List Nat
  | .insert index => set.fresh (set.named [index])
  | .insertMany (.list indices) => set.fresh (set.named indices)
  | .fill => set.excluded
  | .insertMany _ | .erase _ | .clear => []

/-- The rows that a call moves out, in the order in which they move. -/
def leaving (set : WorkingSet) : Move → List Nat
  | .erase index => (set.named [index]).filter (· ∈ set.included)
  | .clear => set.included
  | .insert _ | .insertMany _ | .fill => []

/-- What tracking promises of a call that moves these rows: a row that moves last to a side is
tracked there, and nothing else is. -/
structure Tracks (before after : WorkingSet) (movedIn movedOut : List Nat) : Prop where
  size : after.size = before.size
  entered : ∀ row, row ∈ movedIn ↔ row ∈ before.excluded ∧ row ∈ after.included
  left : ∀ row, row ∈ movedOut ↔ row ∈ before.included ∧ row ∈ after.excluded
  still : after.included = before.included →
    after.latestIn = before.latestIn ∧ after.latestOut = before.latestOut
  latestIn : ∀ row ∈ movedIn.getLast?,
    after.latestIn = some row ∧ after.latestOut = before.latestOut
  latestOut : ∀ row ∈ movedOut.getLast?,
    after.latestOut = some row ∧ after.latestIn = before.latestIn

variable (set : WorkingSet)

/-- No row leaves where all rows that were in still are. -/
theorem none_left (after : WorkingSet) (kept : ∀ row ∈ set.included, row ∈ after.included)
    (row : Nat) : row ∈ [] ↔ row ∈ set.included ∧ row ∈ after.excluded := by
  refine ⟨fun moved => (List.not_mem_nil moved).elim, ?_⟩
  rintro ⟨inside, out⟩
  exact absurd (kept row inside) (not_mem_included_of_excluded after row out)

/-- No row enters where only rows that were in are. -/
theorem none_entered (after : WorkingSet) (kept : ∀ row ∈ after.included, row ∈ set.included)
    (row : Nat) : row ∈ [] ↔ row ∈ set.excluded ∧ row ∈ after.included := by
  refine ⟨fun moved => (List.not_mem_nil moved).elim, ?_⟩
  rintro ⟨out, inside⟩
  exact absurd (kept row inside) (not_mem_included_of_excluded set row out)

/-! ### Single rows -/

theorem row_lt (index : Int) (found : Nat) (named : set.row index = .ok found) :
    found < set.size := by
  unfold row at named
  split at named
  · rename_i inside
    obtain rfl := Except.ok.inj named
    omega
  · cases named

theorem rowOf_lt (index : Datum) (found : Nat) (named : set.rowOf index = .ok found) :
    found < set.size := by
  unfold rowOf at named
  cases read : index.toInteger with
  | error cause =>
      rw [read] at named
      cases named
  | ok value =>
      rw [read] at named
      exact set.row_lt value found named

theorem rowOf_outside (index : Int) (outside : index < 0 ∨ (set.size : Int) ≤ index) :
    set.rowOf (.integer index) = .error (.outOfBounds index set.size) :=
  set.row_outside index (by omega)

/-- Which row a value names depends on the number of rows only. -/
theorem rowOf_congr (other : WorkingSet) (sizes : other.size = set.size) (index : Datum) :
    other.rowOf index = set.rowOf index := by
  unfold rowOf row
  rw [sizes]

theorem named_congr (other : WorkingSet) (sizes : other.size = set.size) (indices : List Datum) :
    other.named indices = set.named indices := by
  induction indices with
  | nil => rfl
  | cons index rest ih => simp only [named, rowOf_congr set other sizes, ih]

theorem named_lt (indices : List Datum) (found : Nat) (member : found ∈ set.named indices) :
    found < set.size := by
  induction indices with
  | nil => cases member
  | cons index rest ih =>
      simp only [named] at member
      cases read : set.rowOf index with
      | error cause =>
          rw [read] at member
          cases member
      | ok row =>
          rw [read] at member
          rcases List.mem_cons.mp member with rfl | later
          · exact set.rowOf_lt index _ read
          · exact ih later

theorem insert_of_out (row : Nat) (out : row ∈ set.excluded) :
    set.insert row = { set with members := set.members.set row true, latestIn := some row } :=
  if_pos ((mem_excluded set row).mp out)

theorem insert_of_not_out (row : Nat) (kept : row ∉ set.excluded) : set.insert row = set :=
  if_neg fun out => kept ((mem_excluded set row).mpr out)

theorem mem_excluded_insert (row other : Nat) :
    other ∈ (set.insert row).excluded ↔ other ∈ set.excluded ∧ other ≠ row := by
  by_cases out : row ∈ set.excluded
  · have bound := lt_size_of_excluded set row out
    rw [insert_of_out set row out, mem_excluded, mem_excluded]
    by_cases same : other = row
    · subst same
      simp [List.getElem?_set_self bound]
    · simp [List.getElem?_set_ne (Ne.symm same), same]
  · rw [insert_of_not_out set row out]
    refine ⟨fun also => ⟨also, ?_⟩, fun also => also.1⟩
    rintro rfl
    exact out also

/-! ### Including -/

theorem latestOut_insertAll (rows : List Nat) :
    (rows.foldl insert set).latestOut = set.latestOut := by
  induction rows generalizing set with
  | nil => rfl
  | cons row rest ih =>
      rw [List.foldl_cons, ih]
      unfold insert
      split <;> rfl

/-- Of the rows that are named the last one that was out is tracked. -/
theorem latestIn_insertAll (rows : List Nat) :
    (rows.foldl insert set).latestIn = (set.fresh rows).getLast?.or set.latestIn := by
  induction rows generalizing set with
  | nil => rfl
  | cons row rest ih =>
      rw [List.foldl_cons, ih]
      by_cases out : row ∈ set.excluded
      · -- Once it is in, a row is not fresh any more where it is named again.
        have once : (set.insert row).fresh rest =
            ((rest.filter (· ∈ set.excluded)).filter fun other => !other == row).eraseDups := by
          unfold fresh
          rw [List.filter_filter]
          congr 1
          apply List.filter_congr
          intro other _
          rw [Bool.eq_iff_iff]
          simp [mem_excluded_insert, and_comm]
        have tracked : (set.insert row).latestIn = some row := by rw [insert_of_out set row out]
        have here : set.fresh (row :: rest) = row :: (set.insert row).fresh rest := by
          rw [once, fresh, List.filter_cons_of_pos (by simpa using out), List.eraseDups_cons]
        rw [tracked, here, List.getLast?_cons, Option.or_some]
        rfl
      · have here : set.fresh (row :: rest) = set.fresh rest := by
          rw [fresh, List.filter_cons_of_neg (by simpa using out), fresh]
        rw [insert_of_not_out set row out, here]

theorem insertMany_eq (indices : List Datum) :
    (set.insertMany indices).2 = (set.named indices).foldl insert set := by
  induction indices generalizing set with
  | nil => rfl
  | cons index rest ih =>
      simp only [insertMany, named, rowOf]
      cases read : index.toInteger.bind set.row with
      | error cause => rfl
      | ok row =>
          simp only [List.foldl_cons]
          rw [ih, named_congr set _ (size_insert set row)]

/-- Including rows keeps the promise, in one call or in many. -/
theorem insertMany_tracks (indices : List Datum) :
    set.Tracks (set.insertMany indices).2 (set.fresh (set.named indices)) [] := by
  rw [insertMany_eq]
  have inside (other : Nat) : other ∈ ((set.named indices).foldl insert set).included ↔
      other ∈ set.included ∨ other ∈ set.named indices :=
    mem_included_insertAll set other _ fun row => set.named_lt indices row
  have fresh_iff (row : Nat) : row ∈ set.fresh (set.named indices) ↔
      row ∈ set.excluded ∧ row ∈ ((set.named indices).foldl insert set).included := by
    rw [fresh, List.mem_eraseDups, List.mem_filter, decide_eq_true_eq, inside]
    constructor
    · rintro ⟨named, out⟩
      exact ⟨out, Or.inr named⟩
    · rintro ⟨out, kept | named⟩
      · exact absurd kept (not_mem_included_of_excluded set row out)
      · exact ⟨named, out⟩
  refine ⟨set.size_insertAll _, fresh_iff,
    set.none_left _ fun row kept => (inside row).mpr (Or.inl kept), ?_, ?_, fun row last => ?_⟩
  · intro same
    have unmoved : set.fresh (set.named indices) = [] := by
      apply List.eq_nil_iff_forall_not_mem.mpr
      intro row member
      obtain ⟨out, kept⟩ := (fresh_iff row).mp member
      rw [same] at kept
      exact not_mem_included_of_excluded set row out kept
    rw [latestIn_insertAll, unmoved, latestOut_insertAll]
    exact ⟨rfl, rfl⟩
  · intro row last
    rw [latestIn_insertAll, latestOut_insertAll, last]
    exact ⟨rfl, rfl⟩
  · cases last

/-! ### Excluding -/

theorem named_singleton (index : Datum) (row : Nat) (read : set.rowOf index = .ok row) :
    set.named [index] = [row] := by simp only [named, read]

theorem named_bad (index : Datum) (cause : Error) (read : set.rowOf index = .error cause) :
    set.named [index] = [] := by simp only [named, read]

theorem mem_excluded_erase (row other : Nat) (inside : row ∈ set.included) :
    other ∈ (set.erase row).excluded ↔ other ∈ set.excluded ∨ other = row := by
  have found := (mem_included set row).mp inside
  obtain ⟨bound, _⟩ := List.getElem?_eq_some_iff.mp found
  rw [mem_excluded, mem_excluded, erase, if_pos found]
  by_cases same : other = row
  · subst same
    simp [List.getElem?_set_self bound]
  · simp [List.getElem?_set_ne (Ne.symm same), same]

theorem Tracks.refl : set.Tracks set [] [] where
  size := rfl
  entered := set.none_entered set fun _ kept => kept
  left := set.none_left set fun _ kept => kept
  still _ := ⟨rfl, rfl⟩
  latestIn row last := by cases last
  latestOut row last := by cases last

/-- Excluding one row keeps the promise. -/
theorem erase_tracks (row : Nat) :
    set.Tracks (set.erase row) [] ([row].filter (· ∈ set.included)) := by
  by_cases inside : row ∈ set.included
  · have moved : set.erase row =
        { set with members := set.members.set row false, latestOut := some row } :=
      if_pos ((mem_included set row).mp inside)
    rw [List.filter_cons_of_pos (by simpa using inside), List.filter_nil]
    have remaining : ∀ other ∈ (set.erase row).included, other ∈ set.included :=
      fun other kept => ((mem_included_erase set row other).mp kept).1
    refine ⟨size_erase set row, set.none_entered _ remaining, ?_, ?_, fun _ last => ?_, ?_⟩
    · intro other
      rw [List.mem_singleton, mem_excluded_erase set row other inside]
      constructor
      · rintro rfl
        exact ⟨inside, Or.inr rfl⟩
      · rintro ⟨kept, out | here⟩
        · exact absurd kept (not_mem_included_of_excluded set other out)
        · exact here
    · intro same
      rw [← same, mem_included_erase] at inside
      exact absurd rfl inside.2
    · cases last
    · intro other last
      obtain rfl : row = other := Option.some.inj last
      rw [moved]
      exact ⟨rfl, rfl⟩
  · have kept : set.erase row = set := if_neg fun found => inside ((mem_included set row).mpr found)
    rw [List.filter_cons_of_neg (by simpa using inside), List.filter_nil, kept]
    exact .refl set

/-! ### Calls -/

/-- Every call but the two that set all rows at once keeps the promise. -/
theorem move_tracks (call : Move) (partial_call : call ≠ .fill ∧ call ≠ .clear) :
    set.Tracks (set.move call).2 (set.entering call) (set.leaving call) := by
  cases call with
  | insert index => exact set.insertMany_tracks [index]
  | erase index =>
      simp only [move, entering, leaving]
      change set.Tracks (match set.rowOf index with
        | .ok found => (Except.ok (), set.erase found)
        | .error cause => (.error cause, set)).2 _ _
      cases read : set.rowOf index with
      | ok row =>
          rw [set.named_singleton index row read]
          exact set.erase_tracks row
      | error cause =>
          rw [set.named_bad index cause read]
          exact .refl set
  | insertMany indices =>
      cases indices with
      | list items => exact set.insertMany_tracks items
      | absent | flag | integer | real | complex | text => exact .refl set
  | fill => exact absurd rfl partial_call.1
  | clear => exact absurd rfl partial_call.2

theorem mem_included_fill (row : Nat) : row ∈ set.fill.included ↔ row < set.size := by
  rw [mem_included, fill, List.getElem?_replicate]
  simp

theorem included_fill : set.fill.included = List.range set.size := by
  rw [included_eq_filter set.fill (fun _ => true) fun row bound => by
    simpa [mem_included_fill] using bound]
  simp

theorem latestIn_fill : set.fill.latestIn = (List.range set.size).getLast? :=
  List.getLast?_range.symm

/-- Filling moves no row just if none is out. -/
theorem included_fill_eq_iff : set.fill.included = set.included ↔ set.excluded = [] := by
  constructor
  · intro same
    apply List.eq_nil_iff_forall_not_mem.mpr
    intro row out
    have kept := (set.mem_included_fill row).mpr (lt_size_of_excluded set row out)
    rw [same] at kept
    exact not_mem_included_of_excluded set row out kept
  · intro full
    refine included_congr _ _ set.size_fill fun row => ?_
    rw [mem_included_fill]
    refine ⟨fun bound => ?_, fun kept => lt_size_of_included set row kept⟩
    rcases mem_included_or_excluded set row bound with kept | out
    · exact kept
    · rw [full] at out
      cases out

/-- The last row of all is the last one to be moved, if it moves. -/
theorem getLast?_excluded (out : set.size - 1 ∈ set.excluded) :
    set.excluded.getLast? = some (set.size - 1) := by
  obtain ⟨row, last⟩ := Option.ne_none_iff_exists'.mp
    (mt List.getLast?_eq_none_iff.mp (List.ne_nil_of_mem out))
  obtain ⟨others, split⟩ := List.getLast?_eq_some_iff.mp last
  have bound := lt_size_of_excluded set row (List.mem_of_getLast? last)
  have rising := set.excluded_increasing
  rw [split] at out rising
  have greatest : set.size - 1 ≤ row := by
    rcases List.mem_append.mp out with earlier | here
    · exact Nat.le_of_lt ((List.pairwise_append.mp rising).2.2 _ earlier row (by simp))
    · exact Nat.le_of_eq (List.mem_singleton.mp here)
  have same : row = set.size - 1 := by omega
  rw [last, same]

/-- Filling keeps the promise just if the last row of all is the last one that was out, or no row
was out and the last row of all was tracked before. -/
theorem fill_tracks_iff : set.Tracks set.fill set.excluded [] ↔
    (set.excluded = [] → set.latestIn = (List.range set.size).getLast?) ∧
    (set.excluded ≠ [] → set.size - 1 ∈ set.excluded) := by
  constructor
  · intro tracks
    constructor
    · intro full
      rw [← (tracks.still (set.included_fill_eq_iff.mpr full)).1, latestIn_fill]
    · intro out
      obtain ⟨row, last⟩ := Option.ne_none_iff_exists'.mp (mt List.getLast?_eq_none_iff.mp out)
      have member := List.mem_of_getLast? last
      have bound := lt_size_of_excluded set row member
      have tracked := (tracks.latestIn row last).1
      rw [latestIn_fill, List.getLast?_range, if_neg (by omega)] at tracked
      rwa [Option.some.inj tracked]
  · rintro ⟨full, short⟩
    have remaining : ∀ row ∈ set.included, row ∈ set.fill.included :=
      fun row kept => (set.mem_included_fill row).mpr (lt_size_of_included set row kept)
    refine ⟨set.size_fill, fun row => ?_, set.none_left _ remaining, ?_, ?_, fun row last => ?_⟩
    · have filled (out : row ∈ set.excluded) : row ∈ set.fill.included :=
        (set.mem_included_fill row).mpr (lt_size_of_excluded set row out)
      exact ⟨fun out => ⟨out, filled out⟩, fun both => both.1⟩
    · intro same
      exact ⟨set.latestIn_fill.trans (full (set.included_fill_eq_iff.mp same)).symm, rfl⟩
    · intro row last
      have member := List.mem_of_getLast? last
      have bound := lt_size_of_excluded set row member
      -- The rows that were out are listed in ascending order, so the last one of all ends the list.
      rw [set.getLast?_excluded (short (List.ne_nil_of_mem member))] at last
      rw [latestIn_fill, List.getLast?_range, if_neg (by omega), last]
      exact ⟨rfl, rfl⟩
    · cases last

/-! ### What the promise says of the tracked rows -/

namespace Tracks
variable {before after : WorkingSet} {movedIn movedOut : List Nat}
variable (tracks : before.Tracks after movedIn movedOut)
include tracks

/-- A call that moves no row leaves the same rows included. -/
theorem included_eq (noneIn : movedIn = []) (noneOut : movedOut = []) :
    after.included = before.included := by
  have size := tracks.size
  refine included_congr _ _ size fun row => ?_
  have entered := tracks.entered row
  have left := tracks.left row
  rw [noneIn] at entered
  rw [noneOut] at left
  constructor
  · intro kept
    rcases mem_included_or_excluded before row (size ▸ lt_size_of_included after row kept) with
      was | out
    · exact was
    · exact absurd (entered.mpr ⟨out, kept⟩) List.not_mem_nil
  · intro was
    rcases mem_included_or_excluded after row (size ▸ lt_size_of_included before row was) with
      kept | out
    · exact kept
    · exact absurd (left.mpr ⟨was, out⟩) List.not_mem_nil

theorem latestIn_eq : after.latestIn = movedIn.getLast?.or before.latestIn := by
  cases lastIn : movedIn.getLast? with
  | some row => exact (tracks.latestIn row lastIn).1
  | none =>
      cases lastOut : movedOut.getLast? with
      | some row => exact (tracks.latestOut row lastOut).2
      | none => exact (tracks.still (tracks.included_eq (List.getLast?_eq_none_iff.mp lastIn)
          (List.getLast?_eq_none_iff.mp lastOut))).1

theorem latestOut_eq : after.latestOut = movedOut.getLast?.or before.latestOut := by
  cases lastOut : movedOut.getLast? with
  | some row => exact (tracks.latestOut row lastOut).1
  | none =>
      cases lastIn : movedIn.getLast? with
      | some row => exact (tracks.latestIn row lastIn).2
      | none => exact (tracks.still (tracks.included_eq (List.getLast?_eq_none_iff.mp lastIn)
          (List.getLast?_eq_none_iff.mp lastOut))).2

end Tracks

/-! ### Calls in a row -/

/-- The set after calls that were made one after the other, refused ones among them. -/
def run (set : WorkingSet) (calls : List Move) : WorkingSet :=
  calls.foldl (fun set call => (set.move call).2) set

/-- The rows that entered since the set was cleared, earliest first. Filling the set counts as
moving every row anew, whichever rows were out. -/
def enteredBy (set : WorkingSet) (earlier : List Nat) : Move → List Nat
  | .clear => []
  | .fill => List.range set.size
  | call => earlier ++ set.entering call

/-- The rows that left since the set was cleared, earliest first. -/
def leftBy (set : WorkingSet) (earlier : List Nat) : Move → List Nat
  | .clear => []
  | call => earlier ++ set.leaving call

/-- What calls made one after the other add to a list of rows. -/
def trail (add : WorkingSet → List Nat → Move → List Nat) (set : WorkingSet) (earlier : List Nat) :
    List Move → List Nat
  | [] => earlier
  | call :: calls => trail add (set.move call).2 (add set earlier call) calls

theorem size_move (call : Move) : (set.move call).2.size = set.size := by
  cases call with
  | fill => exact set.size_fill
  | clear => exact set.size_clear
  | insert | erase | insertMany => exact (set.move_tracks _ (by simp)).size

theorem size_run (calls : List Move) : (set.run calls).size = set.size := by
  induction calls generalizing set with
  | nil => rfl
  | cons call calls ih => exact (ih _).trans (set.size_move call)

/-- A row that each call keeps as the last one of a list is the last one of the whole trail. -/
theorem tracked_run (tracked : WorkingSet → Option Nat)
    (add : WorkingSet → List Nat → Move → List Nat)
    (moved : ∀ (set : WorkingSet) (earlier : List Nat) (call : Move),
      tracked set = earlier.getLast? → tracked (set.move call).2 = (add set earlier call).getLast?)
    (calls : List Move) (earlier : List Nat) (start : tracked set = earlier.getLast?) :
    tracked (set.run calls) = (trail add set earlier calls).getLast? := by
  induction calls generalizing set earlier with
  | nil => exact start
  | cons call calls ih => exact ih _ _ (moved set earlier call start)

theorem latestIn_move (earlier : List Nat) (call : Move)
    (start : set.latestIn = earlier.getLast?) :
    (set.move call).2.latestIn = (set.enteredBy earlier call).getLast? := by
  cases call with
  | clear => rfl
  | fill => exact set.latestIn_fill
  | insert | erase | insertMany =>
      change _ = (earlier ++ set.entering _).getLast?
      rw [List.getLast?_append, ← start]
      exact (set.move_tracks _ (by simp)).latestIn_eq

theorem latestOut_move (earlier : List Nat) (call : Move)
    (start : set.latestOut = earlier.getLast?) :
    (set.move call).2.latestOut = (set.leftBy earlier call).getLast? := by
  cases call with
  | clear => rfl
  | fill =>
      change set.latestOut = (earlier ++ []).getLast?
      rw [List.append_nil, start]
  | insert | erase | insertMany =>
      change _ = (earlier ++ set.leaving _).getLast?
      rw [List.getLast?_append, ← start]
      exact (set.move_tracks _ (by simp)).latestOut_eq

/-! ### Refusals -/

/-- A value that names no row is refused. What was done before it stays, and nothing else is. -/
structure Refuses : Prop where
  outside : ∀ index : Int, index < 0 ∨ (set.size : Int) ≤ index →
    set.rowOf (.integer index) = .error (.outOfBounds index set.size)
  single : ∀ index cause, set.rowOf index = .error cause →
    set.move (.insert index) = (.error cause, set) ∧ set.move (.erase index) = (.error cause, set)
  many : ∀ good bad rest cause, (∀ index ∈ good, ∃ row, set.rowOf index = .ok row) →
    set.rowOf bad = .error cause →
      set.move (.insertMany (.list (good ++ bad :: rest))) =
        (.error cause, (set.move (.insertMany (.list good))).2)

theorem insertMany_refused (good : List Datum) (bad : Datum) (rest : List Datum) (cause : Error)
    (fine : ∀ index ∈ good, ∃ row, set.rowOf index = .ok row)
    (refused : set.rowOf bad = .error cause) :
    set.insertMany (good ++ bad :: rest) = (.error cause, (set.insertMany good).2) := by
  induction good generalizing set with
  | nil =>
      rw [rowOf] at refused
      simp only [List.nil_append, insertMany, refused]
  | cons index good ih =>
      obtain ⟨row, read⟩ := fine index List.mem_cons_self
      have later := ih (set.insert row) (fun next member => by
        rw [rowOf_congr set _ (size_insert set row)]
        exact fine next (List.mem_cons_of_mem index member)) (by
        rw [rowOf_congr set _ (size_insert set row)]
        exact refused)
      rw [rowOf] at read
      simp only [List.cons_append, insertMany, read, later]

theorem refuses : set.Refuses where
  outside := set.rowOf_outside
  single index cause refused := by
    rw [rowOf] at refused
    constructor
    · simp only [move, insertMany, refused]
    · simp only [move, refused]
  many := set.insertMany_refused

/-! ### The tracked rows of any history -/

/-- The included and the excluded rows part the rows between them, in ascending order. -/
structure Parts (size : Nat) : Prop where
  included : set.included.Pairwise (· < ·)
  excluded : set.excluded.Pairwise (· < ·)
  disjoint : set.included.Disjoint set.excluded
  covered : ∀ row, row ∈ set.included ∨ row ∈ set.excluded ↔ row < size

theorem parts : set.Parts set.size where
  included := set.included_increasing
  excluded := set.excluded_increasing
  disjoint row kept out := not_mem_included_of_excluded set row out kept
  covered row := by
    constructor
    · rintro (kept | out)
      · exact lt_size_of_included set row kept
      · exact lt_size_of_excluded set row out
    · exact mem_included_or_excluded set row

/-- After any calls the sides part the rows, and the row tracked on a side is the last one that
moved there since the set was cleared. The next call keeps to this unless it fills the set, which
tracks the last row of all even if it was in before. -/
theorem tracking_of_run (size : Nat) (past : List Move) (call : Move) :
    let set := (empty size).run past
    let next := (set.move call).2
    set.Parts size ∧ set.Refuses ∧
    set.latestIn = (trail enteredBy (empty size) [] past).getLast? ∧
    set.latestOut = (trail leftBy (empty size) [] past).getLast? ∧
    (call ≠ .fill ∧ call ≠ .clear → set.Tracks next (set.entering call) (set.leaving call)) ∧
    (call = .clear → next = empty size) ∧
    (call = .fill → next.included = List.range size ∧
      next.latestIn = (List.range size).getLast? ∧ next.latestOut = set.latestOut ∧
      (set.Tracks next (set.entering call) (set.leaving call) ↔
        (set.excluded = [] → set.latestIn = (List.range size).getLast?) ∧
        (set.excluded ≠ [] → size - 1 ∈ set.excluded))) := by
  intro set next
  have rows : set.size = size := ((empty size).size_run past).trans List.length_replicate
  refine ⟨rows ▸ set.parts, set.refuses,
    tracked_run (empty size) latestIn enteredBy latestIn_move past [] rfl,
    tracked_run (empty size) latestOut leftBy latestOut_move past [] rfl,
    set.move_tracks call, ?_, ?_⟩
  · rintro rfl
    exact congrArg empty rows
  · rintro rfl
    rw [← rows]
    exact ⟨set.included_fill, set.latestIn_fill, rfl, set.fill_tracks_iff⟩

/-- A call that stops at its fourth index has moved two rows, of which one leaves again; the next
call names a row that is in, and moves the other two in the order in which it names them first. -/
theorem tracking_of_run_halfway :
    let past : List Move :=
      [.insertMany (.list [.integer 2, .integer 0, .integer 2, .integer 9, .integer 1]),
        .erase (.integer 2)]
    let set := (empty 4).run past
    let call : Move := .insertMany (.list [.integer 0, .integer 3, .integer 2, .integer 3])
    set.included = [0] ∧ set.latestIn = some 0 ∧ set.latestOut = some 2 ∧
      (call ≠ .fill ∧ call ≠ .clear) ∧ set.entering call = [3, 2] ∧
      set.Tracks (set.move call).2 (set.entering call) (set.leaving call) ∧
      (set.move call).2.latestIn = some 2 := by
  intro past set call
  have single : call ≠ .fill ∧ call ≠ .clear := by simp [call]
  obtain ⟨_, _, _, _, tracks, _⟩ := tracking_of_run 4 past call
  exact ⟨by decide, by decide, by decide, single, by decide, tracks single, by decide⟩

/-- With every row in, filling moves none and still tracks another row than before. -/
theorem fill_not_tracking :
    let set := (empty 2).run [.insert (.integer 1), .insert (.integer 0)]
    let filled := (set.move .fill).2
    filled.included = set.included ∧ set.latestIn = some 0 ∧ filled.latestIn = some 1 ∧
      ¬ set.Tracks filled (set.entering .fill) (set.leaving .fill) := by
  intro set filled
  have same : filled.included = set.included := by decide
  exact ⟨same, by decide, by decide, fun tracks => absurd (tracks.still same).1 (by decide)⟩

end ConvexQP.WorkingSet
