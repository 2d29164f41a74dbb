import ConvexQP.Proofs.Solver.Forgetting

/-!
Settings of storage and output do not influence an answer. Sessions whose solvers are alike and hold
their buffers answer each step alike; solvers that are new are alike whatever the sizes of their
blocks, the allocator and what is traced.
-/
namespace ConvexQP

/-! ### Requests to alike solvers -/

namespace Session
variable {R Systems Others Programs : Type} [Scalar R]
variable {environment : Environment R Systems Programs} {peer : Environment R Others Programs}

open Solver (Together)

/-- The sessions answer alike, each with its own methods, and hold their buffers. -/
structure Alike (environment : Environment R Systems Programs)
    (peer : Environment R Others Programs) (left : Session R Systems Programs)
    (right : Session R Others Programs) : Prop where
  solver : Solver.Alike environment peer True left.solver right.solver
  latest : left.latest = right.latest
  opened : left.solver.isReleased = false
  otherOpened : right.solver.isReleased = false

section Solvers
variable {left : Solver R Systems Programs} {right : Solver R Others Programs}
variable (alike : Solver.Alike environment peer True left right)

include alike in
theorem forgetMultiplier_alike (index : Datum) :
    Except.Both (Solver.Alike environment peer True) (forgetMultiplier left index)
      (forgetMultiplier right index) := by
  unfold forgetMultiplier
  rw [alike.equalityCount]
  cases index.toIndex with
  | error cause => exact Or.inl ⟨cause, rfl, rfl⟩
  | ok row =>
      have cleared := alike.multipliers.set (right.equalityCount + row) 0
      simp only [bind, Except.bind]
      rcases cleared with ⟨cause, refused, otherRefused⟩ | ⟨one, other, taken, otherTaken, same⟩
      · rw [refused, otherRefused]
        exact Or.inl ⟨cause, rfl, rfl⟩
      · rw [taken, otherTaken]
        exact Or.inr ⟨_, _, rfl, rfl, { alike with multipliers := same }⟩

include alike in
theorem moveRow_alike (move : WorkingSet.Move) : Together environment peer True
    (moveRow environment left move) (moveRow peer right move) := by
  unfold moveRow
  rw [alike.working]
  generalize right.working.move move = moved
  obtain ⟨outcome, working⟩ := moved
  have placed : Solver.Alike environment peer True { left with working } { right with working } :=
    { alike with working := rfl }
  cases outcome with
  | error cause => exact ⟨rfl, placed⟩
  | ok done =>
      cases move with
      | erase index =>
          rcases forgetMultiplier_alike placed index with
            ⟨cause, refused, otherRefused⟩ | ⟨one, other, taken, otherTaken, same⟩
          · simp only [refused, otherRefused]
            exact ⟨rfl, placed⟩
          · simp only [taken, otherTaken]
            exact ⟨rfl, same.forgetSystem⟩
      | insert | insertMany | fill | clear => exact ⟨rfl, placed.forgetSystem⟩

omit [Scalar R] in
theorem overwrite_alike {one other : Stored R} (same : one.vector.Alike other.vector)
    (entries : List R) : Except.Both (fun left right => left.vector.Alike right.vector)
      (overwrite one entries) (overwrite other entries) := by
  unfold overwrite
  rcases same.overwriteLeading entries with
    ⟨cause, refused, otherRefused⟩ | ⟨_, _, taken, otherTaken, later⟩
  · rw [refused, otherRefused]
    exact Or.inl ⟨cause, rfl, rfl⟩
  · rw [taken, otherTaken]
    exact Or.inr ⟨_, _, rfl, rfl, later⟩

include alike in
theorem respondTo_alike (target : List R) : Together environment peer True
    (respondTo left target) (respondTo right target) := by
  unfold respondTo
  rw [alike.point, alike.solutionTolerance, congrArg Problem.size alike.problem]
  cases fitLengths target right.point with
  | error cause => exact ⟨rfl, alike⟩
  | ok fitted =>
      obtain ⟨target, point⟩ := fitted
      simp only
      split
      · exact (alike.acceptSolution (Linear.subtract target point)).map fun moved => Except.ok (some moved)
      · have placed : Solver.Alike environment peer True
            { left with direction := Linear.subtract target point }
            { right with direction := Linear.subtract target point } :=
          { alike with direction := rfl }
        exact ⟨rfl, (placed.trace _ _).trace _ _⟩

include alike in
theorem respond_alike (opened : left.isReleased = false) (otherOpened : right.isReleased = false)
    (solved : Bool) (target : Option (List R)) : Together environment peer True
      (respond environment left solved target) (respond peer right solved target) := by
  unfold respond
  rw [opened, otherOpened]
  cases solved with
  | true =>
      cases target with
      | none => exact ⟨rfl, alike⟩
      | some target => exact respondTo_alike alike target
  | false => exact (alike.respond none).map Except.ok

include alike in
theorem take_alike (step : SolverStep) : Together environment peer True
    (take environment left step) (take peer right step) := by
  cases step with
  | activate => exact ⟨rfl, alike.activate⟩
  | stepOnce => exact alike.stepOnce.map fun moved => Except.ok (SolverReply.flag moved)
  | revise => exact alike.revise.map fun again => Except.ok (SolverReply.flag again)
  | isFeasible onlyExcluded =>
      refine ⟨?_, alike⟩
      simp only [take, alike.isFeasible]
  | rowToInclude =>
      refine ⟨?_, alike⟩
      simp only [take, Solver.rowToInclude, alike.blocking]
  | rowToExclude =>
      refine ⟨?_, alike⟩
      simp only [take, alike.rowToExclude]
  | activeMultipliers =>
      refine ⟨?_, alike⟩
      simp only [take, alike.activeMultipliers]
  | relax => exact ⟨rfl, alike.relax⟩

end Solvers

variable {left : Session R Systems Programs} {right : Session R Others Programs}

theorem Alike.start (alike : Alike environment peer left right) (kick : Kick R) :
    left.start kick = right.start kick := by
  unfold Session.start
  rw [alike.latest]

/-- What a request answers and leaves, in both sessions. -/
def StepsTogether (environment : Environment R Systems Programs)
    (peer : Environment R Others Programs)
    (left : Except Error (SolverReply R) × Session R Systems Programs)
    (right : Except Error (SolverReply R) × Session R Others Programs) : Prop :=
  left.1 = right.1 ∧ left.2.latest = right.2.latest ∧
    Solver.Alike environment peer True left.2.solver right.2.solver

theorem Alike.runSolve (alike : Alike environment peer left right) (budget : Nat)
    (kick : Kick R) :
    StepsTogether environment peer (left.runSolve environment budget kick)
      (right.runSolve peer budget kick) := by
  obtain ⟨outcome, _, _, solved, otherSolved, next⟩ :=
    (alike.solver.reset.solve budget (right.start kick)).split
  unfold Session.runSolve
  simp only [alike.opened, alike.otherOpened, Bool.false_eq_true, if_false, alike.start, solved,
    otherSolved]
  have verdict := next.verdict (Or.inl trivial)
  cases outcome with
  | error cause => exact ⟨rfl, alike.latest, next.judge fun _ => verdict⟩
  | ok answer =>
      cases answer with
      | none => exact ⟨rfl, alike.latest, next.judge fun _ => verdict⟩
      | some result =>
          refine ⟨?_, rfl, next.judge fun _ => verdict⟩
          simp only [next.history]

theorem Alike.runFindStart (alike : Alike environment peer left right) (kick : Kick R) :
    Together environment peer True (left.runFindStart environment kick)
      (right.runFindStart peer kick) := by
  have found := alike.solver.findStart (right.start kick)
  unfold Session.runFindStart
  simp only [alike.opened, alike.otherOpened, Bool.false_eq_true, if_false, alike.start]
  exact ⟨found.1, found.2.judge fun _ => found.2.verdict (Or.inl trivial)⟩

/-- A step answers alike in sessions that are alike, and leaves them alike. -/
theorem Alike.run (alike : Alike environment peer left right) (request : SolverRequest R)
    (stepping : request.isStep = true) :
    (left.run environment request).1 = (right.run peer request).1 ∧
      Alike environment peer (left.run environment request).2 (right.run peer request).2 := by
  have opened := (run_follows_step environment left request stepping).iterate.closed.trans
    alike.opened
  have otherOpened := (run_follows_step peer right request stepping).iterate.closed.trans
    alike.otherOpened
  have together : StepsTogether environment peer (left.run environment request)
      (right.run peer request) := by
    have moved := alike.solver
    cases request with
    | solve kick budget => exact alike.runSolve budget kick
    | findStart kick =>
        obtain ⟨reply, later⟩ := (alike.runFindStart kick).map (Except.map SolverReply.flag)
        exact ⟨reply, alike.latest, later⟩
    | respond solved target =>
        obtain ⟨reply, later⟩ := (respond_alike moved alike.opened alike.otherOpened solved
          target).map (Except.map decision)
        exact ⟨reply, alike.latest, later⟩
    | take step =>
        obtain ⟨reply, later⟩ := take_alike moved step
        unfold Session.run
        simp only [alike.opened, alike.otherOpened, Bool.false_eq_true, if_false]
        exact ⟨reply, alike.latest, later⟩
    | includeRow index =>
        obtain ⟨reply, later⟩ := (moveRow_alike moved (.insert index)).map
          (Except.map fun _ => SolverReply.done)
        exact ⟨reply, alike.latest, later⟩
    | excludeRow index =>
        obtain ⟨reply, later⟩ := (moveRow_alike moved (.erase index)).map
          (Except.map fun _ => SolverReply.done)
        exact ⟨reply, alike.latest, later⟩
    | setPoint entries =>
        unfold Session.run
        rcases overwrite_alike moved.iterate entries with
          ⟨cause, refused, otherRefused⟩ | ⟨one, other, taken, otherTaken, same⟩
        · simp only [refused, otherRefused]
          exact ⟨rfl, alike.latest, moved⟩
        · simp only [taken, otherTaken]
          exact ⟨rfl, alike.latest, { moved with iterate := same }⟩
    | setMultipliers entries =>
        unfold Session.run
        rcases overwrite_alike moved.multipliers entries with
          ⟨cause, refused, otherRefused⟩ | ⟨one, other, taken, otherTaken, same⟩
        · simp only [refused, otherRefused]
          exact ⟨rfl, alike.latest, moved⟩
        · simp only [taken, otherTaken]
          exact ⟨rfl, alike.latest, { moved with multipliers := same }⟩
    | liveBytes | close | useAndClose => cases stepping
  obtain ⟨reply, latest, solver⟩ := together
  exact ⟨reply, solver, latest, opened, otherOpened⟩

/-! ### Rows of requests -/

/-- The replies to a row of requests, each with its own clock, and the session after them. -/
def runWith (environment : Environment R Systems Programs) :
    List ((Nat → R) × SolverRequest R) → Session R Systems Programs →
    List (Except Error (SolverReply R)) × Session R Systems Programs
  | [], session => ([], session)
  | (elapsed, request) :: rest, session =>
    let (reply, next) := session.run { environment with elapsed } request
    let (replies, last) := runWith environment rest next
    (reply :: replies, last)

/-- The methods are the same whatever the clock. -/
theorem Alike.clocked (alike : Alike environment peer left right) (elapsed : Nat → R) :
    Alike { environment with elapsed } { peer with elapsed } left right :=
  { alike with solver := { alike.solver with clock := rfl } }

theorem Alike.runWith (requests : List ((Nat → R) × SolverRequest R))
    (steps : ∀ request ∈ requests, request.2.isStep = true)
    (alike : Alike environment peer left right) :
    (left.runWith environment requests).1 = (right.runWith peer requests).1 ∧
      Alike environment peer (left.runWith environment requests).2
        (right.runWith peer requests).2 := by
  induction requests generalizing left right with
  | nil => exact ⟨rfl, alike⟩
  | cons request rest ih =>
      obtain ⟨clock, request⟩ := request
      obtain ⟨first, others⟩ := List.forall_mem_cons.mp steps
      obtain ⟨reply, next⟩ := (alike.clocked clock).run request first
      have later : Alike environment peer _ _ :=
        { next with solver := { next.solver with clock := alike.solver.clock } }
      obtain ⟨replies, last⟩ := ih others later
      exact ⟨congrArg₂ List.cons reply replies, last⟩

end Session

/-! ### Rows of requests to dense solvers -/

section Dense
variable {R : Type} [Scalar R]

/-- The replies to a row of requests, each with its own clock, and the session after them. -/
def Session.runAll : List ((Nat → R) × SolverRequest R) →
    Session R (DenseSystems R) (ProgramSource R) →
    List (Except Error (SolverReply R)) × Session R (DenseSystems R) (ProgramSource R)
  | [], session => ([], session)
  | (elapsed, request) :: rest, session =>
    let (reply, next) := session.run (denseEnvironment elapsed) request
    let (replies, last) := runAll rest next
    (reply :: replies, last)

theorem Session.runAll_eq (requests : List ((Nat → R) × SolverRequest R)) (elapsed : Nat → R)
    (session : Session R (DenseSystems R) (ProgramSource R)) :
    runAll requests session = session.runWith (denseEnvironment elapsed) requests := by
  induction requests generalizing session with
  | nil => rfl
  | cons request rest ih =>
      unfold runAll runWith
      simp only [ih]
      rfl

theorem Solver.buffer_alike (config other : Config R) (size : Nat) :
    (buffer config size).vector.Alike (buffer other size).vector := by
  obtain ⟨ready, items⟩ := buffer_spec config size
  obtain ⟨otherReady, otherItems⟩ := buffer_spec other size
  exact ⟨ready.valid, otherReady.valid, items.trans otherItems.symm⟩

/-- Sessions that are new are alike if their settings decide alike. -/
theorem Session.new_alike (problem : Problem R) (config other : Config R)
    (settings : config.Alike other) (method : ProgramMethod R) (elapsed : Nat → R) :
    Session.Alike (denseEnvironment elapsed) (denseEnvironment elapsed)
      (Session.new (DenseSolver.new problem config none method))
      (Session.new (DenseSolver.new problem other none method)) := by
  have systems : (DenseSystems.new config none).Same (DenseSystems.new other none) :=
    ⟨settings.pivotTolerance, rfl, rfl, rfl, rfl⟩
  have programs : (denseEnvironment elapsed).ProgramsAlike (denseEnvironment elapsed)
      ⟨method, #[]⟩ ⟨method, #[]⟩ := ProgramSource.alike rfl elapsed
  have iterate := Solver.buffer_alike config other problem.size
  have multipliers := Solver.buffer_alike config other
    (problem.equalities.count + problem.inequalities.count)
  have opened (config : Config R) :
      (DenseSolver.new problem config none method).isReleased = false :=
    (Solver.buffer_spec config problem.size).1.opened
  exact ⟨⟨rfl, settings, iterate, multipliers, rfl, rfl, rfl, fun _ => rfl, rfl, rfl, rfl, rfl, rfl,
    rfl, systems.alike elapsed problem, programs, rfl⟩, rfl, opened config, opened other⟩

/-- The configuration with other sizes of blocks, allocator, tracing and table. -/
def Config.presented (config : Config R) (capacities : Capacities) (allocator : AllocatorKind)
    (tracing table : Bool) : Config R :=
  { config with capacities, allocator, tracing, table }

/-- Two solvers of a problem whose settings differ in the sizes of blocks, the allocator and what is
traced or printed give the same replies to any runs and steps, results and histories included, and
hold the same point, multipliers, working set, verdict and history after them. -/
theorem storage_irrelevant (problem : Problem R) (config : Config R) (capacities : Capacities)
    (allocator : AllocatorKind) (tracing table : Bool) (method : ProgramMethod R)
    (requests : List ((Nat → R) × SolverRequest R))
    (steps : ∀ request ∈ requests, request.2.isStep = true) :
    let other := config.presented capacities allocator tracing table
    let one := Session.runAll requests (Session.new (DenseSolver.new problem config none method))
    let two := Session.runAll requests (Session.new (DenseSolver.new problem other none method))
    one.1 = two.1 ∧ one.2.latest = two.2.latest ∧
      one.2.solver.history = two.2.solver.history ∧ one.2.solver.point = two.2.solver.point ∧
      one.2.solver.multiplierList = two.2.solver.multiplierList ∧
      one.2.solver.working = two.2.solver.working ∧
      one.2.solver.verdict = two.2.solver.verdict := by
  intro other one two
  have settings : config.Alike other := ⟨rfl, rfl, rfl, rfl, rfl, rfl, rfl, rfl⟩
  obtain ⟨replies, last⟩ := (Session.new_alike problem config other settings method fun _ => 0).runWith
    requests steps
  rw [← Session.runAll_eq, ← Session.runAll_eq] at replies last
  exact ⟨replies, last.latest, last.solver.history, last.solver.point, last.solver.multiplierList,
    last.solver.working, last.solver.verdict trivial⟩

end Dense

open scoped Exact

/-- Half of the squared length of a point with three entries, less `2, 1/2, -1` times the point;
no entry is more than one. -/
def cube : Problem ℚ where
  size := 3
  quadratic := [[1, 0, 0], [0, 1, 0], [0, 0, 1]]
  linear := [2, 1 / 2, -1]
  equalities := Constraints.none
  inequalities := ⟨[[1, 0, 0], [0, 1, 0], [0, 0, 1]], [1, 1, 1], by decide, rfl⟩
  size_pos := by decide
  quadratic_height := rfl
  quadratic_width := by decide
  linear_length := rfl

/-- Two entries fill a segment, so the buffers for the cube take two. -/
def tightCapacities : Capacities := ⟨1, 2, Nat.one_pos, Nat.one_lt_two, 1, rfl⟩

def cubeRequests : List ((Nat → ℚ) × SolverRequest ℚ) :=
  [(stoppedClock, .solve (.given (.point [0, 0, 0]))), (stoppedClock, .excludeRow (.integer 0)),
    (stoppedClock, .take .stepOnce), (stoppedClock, .take .revise), (stoppedClock, .solve .latest)]

theorem storage_irrelevant_cube :
    let other := plainConfig.presented tightCapacities .mapped true true
    let one := Session.runAll cubeRequests
      (Session.new (DenseSolver.new cube plainConfig none (.prepared [])))
    let two := Session.runAll cubeRequests
      (Session.new (DenseSolver.new cube other none (.prepared [])))
    one.1 = two.1 ∧ one.2.solver.point = two.2.solver.point ∧
      two.2.solver.point = [1, 1 / 2, -1] := by
  have stepping : ∀ request ∈ cubeRequests, request.2.isStep = true := by
    simp [cubeRequests, SolverRequest.isStep]
  have same := storage_irrelevant cube plainConfig tightCapacities .mapped true true (.prepared [])
    cubeRequests stepping
  exact ⟨same.1, same.2.2.2.1, by decide +kernel⟩

end ConvexQP
