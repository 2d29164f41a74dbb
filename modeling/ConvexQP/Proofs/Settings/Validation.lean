import ConvexQP.Proofs.Attempts
import ConvexQP.Proofs.Floating.Order
import ConvexQP.Settings

/-!
What validation makes of settings. Every number that was given as one ends up in its range, an
undefined one is passed on as it is, valid settings are not changed by another validation, and the
settings that were given are left as they are: what is written to is a copy.
-/
namespace ConvexQP

/-- The number that a setting is raised to lies at the floor or above it just if the one that was
given is not undefined, and is that one itself unless it lies below the floor. -/
def Raised (floor : Float) (given : Datum) (value : Float) : Prop :=
  ∃ number, given.toReal = .ok number ∧ (floor ≤ value ↔ number.isNaN = false) ∧
    if number < floor then value = floor else value = number

/-- The same for a number that is lowered to a ceiling as well. -/
def Bounded (floor ceiling : Float) (given : Datum) (value : Float) : Prop :=
  ∃ number, given.toReal = .ok number ∧
    (floor ≤ value ∧ value ≤ ceiling ↔ number.isNaN = false) ∧
    if number < floor then value = floor
    else if ceiling < number then value = ceiling else value = number

/-- A limit that is not given is none; any other one is raised to zero. -/
def Limited (given : Datum) : Option Float → Prop
  | none => given = .absent
  | some value => Raised 0.0 given value

/-- The settings a validation leaves, next to those it was given. -/
structure Ranged (given : Settings) (valid : ValidSettings) : Prop where
  slackTolerance : Raised machineSpacing given.slackTolerance valid.slackTolerance
  solutionTolerance : Raised machineSpacing given.solutionTolerance valid.solutionTolerance
  pivotTolerance : Bounded 0.0 1.0 given.pivotTolerance valid.pivotTolerance
  iterationLimit : 1 ≤ valid.iterationLimit
  timeLimit : Limited given.timeLimit valid.timeLimit
  allocator : valid.allocator.settingName ∈ ["heap", "mmap"]
  programTimeLimit : Limited given.programTimeLimit valid.programTimeLimit
  programTolerance : Raised leastProgramTolerance given.programTolerance valid.programTolerance

namespace Settings

/-! ### Ranges -/

theorem atLeast_ok_iff (floor : Float) (given : Datum) (value : Float) :
    atLeast floor given = .ok value ↔
      ∃ number, given.toReal = .ok number ∧ larger number floor = value := by
  unfold atLeast
  cases given.toReal with
  | error cause => simp [Except.map]
  | ok number => simp [Except.map]

theorem atLeast_raised (floor : Float) (level : floor ≤ floor) (given : Datum) (value : Float)
    (accepted : atLeast floor given = .ok value) : Raised floor given value := by
  obtain ⟨number, read, rfl⟩ := (atLeast_ok_iff floor given value).mp accepted
  refine ⟨number, read, Floating.le_larger_iff number floor level, ?_⟩
  unfold larger
  split <;> rfl

theorem between_bounded (floor ceiling : Float) (level : floor ≤ floor) (room : floor ≤ ceiling)
    (top : ceiling ≤ ceiling) (given : Datum) (value : Float)
    (accepted : atLeast floor given = .ok value) :
    Bounded floor ceiling given (smaller value ceiling) := by
  obtain ⟨number, read, rfl⟩ := (atLeast_ok_iff floor given value).mp accepted
  refine ⟨number, read, Floating.between_iff number floor ceiling level room top, ?_⟩
  unfold larger
  split
  · exact if_neg (Floating.not_lt_of_le floor ceiling room)
  · unfold smaller
    split <;> rfl

theorem limit_limited (given : Datum) (value : Option Float)
    (accepted : limit given = .ok value) : Limited given value := by
  unfold limit at accepted
  split at accepted
  · obtain rfl := Except.ok.inj accepted
    rfl
  · cases read : atLeast 0.0 given with
    | error cause =>
        rw [read] at accepted
        cases accepted
    | ok number =>
        rw [read] at accepted
        obtain rfl := Except.ok.inj accepted
        exact atLeast_raised 0.0 (by decide +kernel) given number read

theorem allocatorKind_settingName (kind : AllocatorKind) :
    allocatorKind (.text kind.settingName) = .ok kind := by
  cases kind with
  | heap => decide +kernel
  | mapped => decide +kernel

/-! ### One validation -/

/-- Settings are accepted as what their numbers are brought to. -/
theorem validate_cases (settings : Settings) (valid : ValidSettings)
    (accepted : settings.validate = .ok valid) :
    ∃ pivotTolerance iterationLimit,
      atLeast machineSpacing settings.slackTolerance = .ok valid.slackTolerance ∧
      atLeast machineSpacing settings.solutionTolerance = .ok valid.solutionTolerance ∧
      atLeast 0.0 settings.pivotTolerance = .ok pivotTolerance ∧
      settings.iterationLimit.toInteger = .ok iterationLimit ∧
      limit settings.timeLimit = .ok valid.timeLimit ∧
      allocatorKind settings.allocator = .ok valid.allocator ∧
      limit settings.programTimeLimit = .ok valid.programTimeLimit ∧
      atLeast leastProgramTolerance settings.programTolerance = .ok valid.programTolerance ∧
      valid.pivotTolerance = smaller pivotTolerance 1.0 ∧
      valid.iterationLimit = max iterationLimit 1 := by
  obtain ⟨slack, slackRead, accepted⟩ := bind_ok accepted
  obtain ⟨solution, solutionRead, accepted⟩ := bind_ok accepted
  obtain ⟨pivot, pivotRead, accepted⟩ := bind_ok accepted
  obtain ⟨iterations, iterationsRead, accepted⟩ := bind_ok accepted
  obtain ⟨time, timeRead, accepted⟩ := bind_ok accepted
  obtain ⟨kind, kindRead, accepted⟩ := bind_ok accepted
  obtain ⟨programTime, programTimeRead, accepted⟩ := bind_ok accepted
  obtain ⟨program, programRead, accepted⟩ := bind_ok accepted
  obtain rfl := Except.ok.inj accepted
  exact ⟨pivot, iterations, slackRead, solutionRead, pivotRead, iterationsRead, timeRead, kindRead,
    programTimeRead, programRead, rfl, rfl⟩

theorem validate_ranged (settings : Settings) (valid : ValidSettings)
    (accepted : settings.validate = .ok valid) : Ranged settings valid := by
  obtain ⟨pivot, iterations, slack, solution, pivotRead, _, time, _, programTime, program, pivotEq,
    iterationsEq⟩ := validate_cases settings valid accepted
  constructor
  case slackTolerance => exact atLeast_raised _ (by decide +kernel) _ _ slack
  case solutionTolerance => exact atLeast_raised _ (by decide +kernel) _ _ solution
  case pivotTolerance =>
    rw [pivotEq]
    exact between_bounded 0.0 1.0 (by decide +kernel) (by decide +kernel) (by decide +kernel) _ _
      pivotRead
  case iterationLimit =>
    rw [iterationsEq]
    exact le_max_right iterations 1
  case timeLimit => exact limit_limited _ _ time
  case allocator => cases valid.allocator <;> decide
  case programTimeLimit => exact limit_limited _ _ programTime
  case programTolerance => exact atLeast_raised _ (by decide +kernel) _ _ program

/-! ### Another validation -/

theorem atLeast_again (floor : Float) (given : Datum) (value : Float)
    (accepted : atLeast floor given = .ok value) : atLeast floor (.real value) = .ok value := by
  obtain ⟨number, _, rfl⟩ := (atLeast_ok_iff floor given value).mp accepted
  exact (atLeast_ok_iff floor _ _).mpr ⟨_, rfl, larger_larger number floor⟩

theorem limit_again (given : Datum) (value : Option Float) (accepted : limit given = .ok value) :
    limit (value.elim .absent .real) = .ok value := by
  unfold limit at accepted
  split at accepted
  · obtain rfl := Except.ok.inj accepted
    rfl
  · cases read : atLeast 0.0 given with
    | error cause =>
        rw [read] at accepted
        cases accepted
    | ok number =>
        rw [read] at accepted
        obtain rfl := Except.ok.inj accepted
        have again := atLeast_again 0.0 given number read
        simp only [limit, Option.elim_some, again]
        rfl

theorem validate_again (settings : Settings) (valid : ValidSettings)
    (accepted : settings.validate = .ok valid) : valid.toSettings.validate = .ok valid := by
  obtain ⟨pivot, iterations, slack, solution, pivotRead, _, time, _, programTime, program, pivotEq,
    iterationsEq⟩ := validate_cases settings valid accepted
  obtain ⟨number, _, rfl⟩ := (atLeast_ok_iff _ _ _).mp pivotRead
  have pivotAgain : smaller (larger valid.pivotTolerance 0.0) 1.0 = valid.pivotTolerance := by
    rw [pivotEq]
    exact between_between number 0.0 1.0 (by decide +kernel)
  have iterationsAgain : max valid.iterationLimit 1 = valid.iterationLimit := by
    rw [iterationsEq, max_assoc, max_self]
  have slackAgain := atLeast_again _ _ _ slack
  have solutionAgain := atLeast_again _ _ _ solution
  have timeAgain := limit_again _ _ time
  have kindAgain := allocatorKind_settingName valid.allocator
  have programTimeAgain := limit_again _ _ programTime
  have programAgain := atLeast_again _ _ _ program
  have pivotGiven : atLeast 0.0 (.real valid.pivotTolerance) =
      .ok (larger valid.pivotTolerance 0.0) := rfl
  simp only [validate, ValidSettings.toSettings, slackAgain, solutionAgain, pivotGiven, timeAgain,
    kindAgain, programTimeAgain, programAgain, Datum.toInteger, bind, Except.bind, pivotAgain,
    iterationsAgain, pure, Except.pure]

/-! ### The settings that were given -/

/-- A setting is read, and what it is brought to is written in its place. -/
def step {Value : Type} (read : Settings → Except Error Value)
    (write : Settings → Value → Settings) (settings : Settings) : Except Error Settings := do
  let value ← read settings
  return write settings value

/-- The steps of a validation that writes to the settings. -/
def steps : List (Settings → Except Error Settings) := [
  step (fun settings => atLeast machineSpacing settings.slackTolerance)
    fun settings value => { settings with slackTolerance := .real value },
  step (fun settings => atLeast machineSpacing settings.solutionTolerance)
    fun settings value => { settings with solutionTolerance := .real value },
  step (fun settings => atLeast 0.0 settings.pivotTolerance)
    fun settings value => { settings with pivotTolerance := .real (smaller value 1.0) },
  step (fun settings => settings.iterationLimit.toInteger)
    fun settings value => { settings with iterationLimit := .integer (max value 1) },
  step (fun settings => limit settings.timeLimit)
    fun settings value => { settings with timeLimit := value.elim .absent .real },
  step (fun settings => allocatorKind settings.allocator)
    fun settings kind => { settings with allocator := .text kind.settingName },
  step (fun settings => limit settings.programTimeLimit)
    fun settings value => { settings with programTimeLimit := value.elim .absent .real },
  step (fun settings => atLeast leastProgramTolerance settings.programTolerance)
    fun settings value => { settings with programTolerance := .real value }]

/-- Takes steps on the settings at one place among those that are held. -/
def amend (place : Nat) : List (Settings → Except Error Settings) → List Settings →
    Except Error Unit × List Settings
  | [], held => (.ok (), held)
  | step :: rest, held =>
    match held[place]?.map step with
    | some (.ok written) => amend place rest (held.set place written)
    | some (.error cause) => (.error cause, held)
    | none => (.ok (), held)

/-- Validates settings that others may hold as well: the steps are taken on a copy, whose place is
the answer. -/
def validateHeld (held : List Settings) (given : Settings) : Except Error Nat × List Settings :=
  let (answer, after) := amend held.length steps (held ++ [given])
  (answer.map fun _ => held.length, after)

/-- Step after step the settings become what validation makes of them. -/
theorem validate_steps (settings : Settings) :
    steps.foldlM (fun current step => step current) settings =
      ValidSettings.toSettings <$> settings.validate := by
  simp only [steps, step, List.foldlM_cons, List.foldlM_nil, bind_assoc, pure_bind, validate,
    map_bind, map_pure]
  rfl

theorem amend_others (place : Nat) (steps : List (Settings → Except Error Settings))
    (held : List Settings) (other : Nat) (apart : other ≠ place) :
    (amend place steps held).2[other]? = held[other]? := by
  induction steps generalizing held with
  | nil => rfl
  | cons step rest ih =>
      unfold amend
      split
      · rw [ih, List.getElem?_set_ne (Ne.symm apart)]
      · rfl
      · rfl

theorem amend_copy (held : List Settings) (steps : List (Settings → Except Error Settings))
    (given made : Settings)
    (taken : steps.foldlM (fun current step => step current) given = .ok made) :
    amend held.length steps (held ++ [given]) = (.ok (), held ++ [made]) := by
  induction steps generalizing given with
  | nil =>
      obtain rfl := Except.ok.inj taken
      rfl
  | cons step rest ih =>
      obtain ⟨written, first, others⟩ := bind_ok taken
      change step given = .ok written at first
      -- The copy stands behind all that are held, and only its place is written.
      have found : (held ++ [given])[held.length]?.map step = some (.ok written) := by
        rw [List.getElem?_concat_length, Option.map_some, first]
      have stored : (held ++ [given]).set held.length written = held ++ [written] := by
        simp
      rw [amend, found]
      simp only
      rw [stored, ih written others]

/-- Settings that are held stay as they are, whether or not the ones given are accepted. -/
theorem validateHeld_kept (held : List Settings) (given : Settings) (place : Nat)
    (inside : place < held.length) :
    (validateHeld held given).2[place]? = held[place]? := by
  change (amend held.length steps (held ++ [given])).2[place]? = held[place]?
  rw [amend_others _ _ _ _ (Nat.ne_of_lt inside), List.getElem?_append_left inside]

theorem validateHeld_accepted (held : List Settings) (given : Settings) (valid : ValidSettings)
    (accepted : given.validate = .ok valid) :
    validateHeld held given = (.ok held.length, held ++ [valid.toSettings]) := by
  have taken := validate_steps given
  rw [accepted] at taken
  unfold validateHeld
  rw [amend_copy held steps given _ taken]
  rfl

/-- Accepted settings are in range up to undefined numbers, another validation gives them back, and
no settings that are held were written to. -/
theorem validated (settings : Settings) (held : List Settings) :
    (∀ valid, settings.validate = .ok valid →
      Ranged settings valid ∧ valid.toSettings.validate = .ok valid ∧
        validateHeld held settings = (.ok held.length, held ++ [valid.toSettings])) ∧
    ∀ place < held.length, (validateHeld held settings).2[place]? = held[place]? := by
  refine ⟨fun valid accepted => ?_, validateHeld_kept held settings⟩
  exact ⟨validate_ranged settings valid accepted, validate_again settings valid accepted,
    validateHeld_accepted held settings valid accepted⟩

/-- Settings with numbers out of range, held next to others. -/
theorem validated_outside :
    let given : Settings := {
      slackTolerance := .real 0.0, pivotTolerance := .integer 7, iterationLimit := .integer 0
      timeLimit := .real (-1.0), allocator := .text "MMAP" }
    let valid : ValidSettings := {
      slackTolerance := machineSpacing, solutionTolerance := 1e-10, pivotTolerance := 1.0
      iterationLimit := 1, timeLimit := some 0.0, allocator := .mapped, programTimeLimit := none
      programTolerance := 1e-9, tracing := given.tracing, table := given.table
      segmentCapacity := given.segmentCapacity, initialCapacity := given.initialCapacity
      programPresolve := given.programPresolve }
    given.validate = .ok valid ∧ Ranged given valid ∧ valid.toSettings.validate = .ok valid ∧
      validateHeld [given] given = (.ok 1, [given, valid.toSettings]) := by
  intro given valid
  have accepted : given.validate = .ok valid := by
    subst valid given
    rfl
  obtain ⟨ranged, again, held⟩ := (validated given [given]).1 valid accepted
  exact ⟨accepted, ranged, again, held⟩

/-- An undefined tolerance is accepted and does not reach its floor. -/
theorem undefined_tolerance_kept :
    ∃ valid, ({ slackTolerance := .real (0.0 / 0.0) } : Settings).validate = .ok valid ∧
      ¬ machineSpacing ≤ valid.slackTolerance :=
  ⟨_, rfl, by decide +kernel⟩

end Settings
end ConvexQP
