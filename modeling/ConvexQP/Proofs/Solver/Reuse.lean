import ConvexQP.Proofs.Solver.Logged
import ConvexQP.Proofs.Tensor.Reuse

/-!
Factors that are used again. The key of a system tells its rows, and the problem of a solver does not
change, so between two requests to forget equal keys come with equal matrices. So a solver runs as
one that makes the factors anew for each system.
-/
namespace ConvexQP

/-! ### What a solver asks for -/

section Log
variable {R Systems Programs : Type}

/-- What a method for systems was asked, as a request to a dense instance. -/
def SystemUse.request : SystemUse R → LinearRequest R (List Nat)
  | .solved matrix rhs key _ =>
    .solve (Tensor.ofRows matrix.length matrix) (Tensor.ofList rhs) (some key)
  | .forgot => .forget

theorem SystemUse.requests_nameMatrices (matrixOf : List Nat → List (List R))
    (uses : List (SystemUse R)) (named : ∀ matrix rhs key answer,
      SystemUse.solved matrix rhs key answer ∈ uses → matrix = matrixOf key) :
    KeysNameMatrices (uses.map request) := by
  refine keysNameMatrices_of_named
    (fun key => Tensor.ofRows (matrixOf key).length (matrixOf key)) _ ?_
  intro matrix rhs key member
  obtain ⟨use, inside, same⟩ := List.mem_map.mp member
  cases use with
  | solved entries sides name answer =>
      obtain ⟨rfl, _, same⟩ := LinearRequest.solve.inj same
      obtain rfl := Option.some.inj same
      rw [named entries sides name answer inside]
  | forgot => cases same

variable [Scalar R] (environment : Environment R Systems Programs)

/-- Over a row of requests the log goes on with systems of the problem. -/
theorem Session.runWith_log (requests : List ((Nat → R) × SolverRequest R))
    (session : Session R (Systems × List (SystemUse R)) Programs) :
    ∃ uses, (session.runWith environment.logged requests).2.solver.systems.2 =
        session.solver.systems.2 ++ uses ∧
      ∀ matrix rhs key answer, SystemUse.solved matrix rhs key answer ∈ uses →
        matrix = Kkt.matrix session.solver.problem key := by
  induction requests generalizing session with
  | nil => exact ⟨[], (List.append_nil _).symm, by simp⟩
  | cons request rest ih =>
      obtain ⟨elapsed, request⟩ := request
      let next := (session.run { environment.logged with elapsed } request).2
      have step : next.solver.problem = session.solver.problem ∧
          ∃ uses, next.solver.systems.2 = session.solver.systems.2 ++ uses ∧
            ∀ matrix rhs key answer, SystemUse.solved matrix rhs key answer ∈ uses →
              matrix = Kkt.matrix session.solver.problem key := by
        rcases run_follows { environment.logged with elapsed } session request with
          followed | released
        · exact ⟨followed.problem,
            Environment.Served.log { environment with elapsed } followed.systems⟩
        · -- Giving the buffers back asks for nothing.
          have kept : next.solver = session.solver.release := released
          rw [kept]
          exact ⟨rfl, [], (List.append_nil _).symm, by simp⟩
      obtain ⟨problem, uses, log, named⟩ := step
      obtain ⟨later, whole, others⟩ := ih next
      refine ⟨uses ++ later, ?_, ?_⟩
      · rw [← List.append_assoc, ← log]
        exact whole
      · intro matrix rhs key answer member
        rcases List.mem_append.mp member with earlier | now
        · exact named matrix rhs key answer earlier
        · rw [← problem]
          exact others matrix rhs key answer now

end Log

/-! ### Factors made anew -/

section Anew
variable {R : Type} [Scalar R]

/-- Dense systems that forget the factors before each system. -/
def anewEnvironment (elapsed : Nat → R) : Environment R (DenseSystems R) (ProgramSource R) :=
  { denseEnvironment elapsed with solveSystem := fun systems => systems.forget.solve }

/-- Systems that remember what is right answer as those that forget before each system. -/
theorem DenseSystems.Sound.alike_anew {problem : Problem R} {systems : DenseSystems R}
    (sound : Sound problem systems) (elapsed : Nat → R) :
    (denseEnvironment elapsed).SystemsAlike (anewEnvironment elapsed) problem systems systems := by
  refine ⟨fun one other => Sound problem one ∧ other.fault = none ∧
    other.pivotTolerance = one.pivotTolerance, ⟨sound, sound.undisturbed, rfl⟩, ?_⟩
  rintro one other ⟨right, undisturbed, tolerance⟩
  refine ⟨⟨forget_sound problem one right, undisturbed, tolerance⟩, ?_⟩
  intro rhs key
  have remembered := FactorCache.factorsFor_factors one.pivotTolerance (Kkt.matrix problem)
    one.cache key right.coherent
  have made := FactorCache.factorsFor_factors one.pivotTolerance (Kkt.matrix problem)
    other.cache.forget key (FactorCache.forget_coherent _ _ other.cache)
  refine ⟨?_, solve_sound problem one rhs key right, undisturbed, tolerance⟩
  simp only [denseEnvironment, anewEnvironment, solve, forget, FactorCache.solve, tolerance,
    remembered, made, disturb, right.undisturbed, undisturbed]

end Anew

/-- Factors that are kept make no difference. For a dense instance: while equal keys come with equal
matrices between two requests to forget, each outcome is that of an instance that was never used,
and hits and misses together count the systems whose extents fit. For a solver: in every row of
requests equal keys come with equal matrices, and runs and steps give the replies, results and
histories that they give where no factors are used again. -/
theorem reuse_transparent (R : Type) [Scalar R] :
    (∀ (Key : Type) [BEq Key] (tolerance : R) (requests : List (LinearRequest R Key)),
      KeysNameMatrices requests →
        let used := (DenseAlgebra.new tolerance : DenseAlgebra R Key).runAll requests
        used.1 = requests.map (fun request => ((DenseAlgebra.new tolerance).run request).1) ∧
          used.2.cache.hits + used.2.cache.misses = requests.countP LinearRequest.fits) ∧
    ∀ (problem : Problem R) (config : Config R) (method : ProgramMethod R)
      (session : Session R (DenseSystems R) (ProgramSource R)),
      Session.Reached problem config method session →
      ∀ (elapsed : Nat → R) (requests : List ((Nat → R) × SolverRequest R)),
        let watched := session.logged.runWith (denseEnvironment elapsed).logged requests
        KeysNameMatrices (watched.2.solver.systems.2.map SystemUse.request) ∧
        (session.solver.isReleased = false →
          (∀ request ∈ requests, request.2.isStep = true) →
          let reusing := session.runWith (denseEnvironment elapsed) requests
          let anew := session.runWith (anewEnvironment elapsed) requests
          watched.1 = reusing.1 ∧ reusing.1 = anew.1 ∧ reusing.2.latest = anew.2.latest ∧
            reusing.2.solver.history = anew.2.solver.history ∧
            reusing.2.solver.point = anew.2.solver.point ∧
            reusing.2.solver.multiplierList = anew.2.solver.multiplierList ∧
            reusing.2.solver.working = anew.2.solver.working ∧
            reusing.2.solver.verdict = anew.2.solver.verdict) := by
  constructor
  · intro Key _ tolerance requests named
    obtain ⟨outcomes, counted⟩ := DenseAlgebra.runAll_serves requests (DenseAlgebra.new tolerance)
      named (FactorCache.serves_of_blank rfl requests)
    refine ⟨outcomes, ?_⟩
    rw [counted]
    exact Nat.zero_add _
  · intro problem config method session reached elapsed requests watched
    obtain ⟨uses, log, named⟩ :=
      Session.runWith_log (denseEnvironment elapsed) requests session.logged
    refine ⟨?_, ?_⟩
    · rw [log]
      exact SystemUse.requests_nameMatrices _ uses named
    · intro opened steps reusing anew
      have sized := reached.kept.held opened
      have systems := reached.kept.systems
      rw [← reached.kept.problem_eq] at systems
      have programs : (denseEnvironment elapsed).ProgramsAlike (anewEnvironment elapsed)
          session.solver.programs session.solver.programs := ProgramSource.alike rfl elapsed
      have alike : Session.Alike (denseEnvironment elapsed) (anewEnvironment elapsed) session
          session := ⟨sized.alike_with (denseEnvironment elapsed) session.solver.systems
            (systems.alike_anew elapsed) programs rfl, rfl, opened, opened⟩
      obtain ⟨replies, last⟩ := alike.runWith requests steps
      have logged := (Session.alike_logged (denseEnvironment elapsed) sized opened).runWith
        requests steps
      exact ⟨logged.1.symm, replies, last.latest, last.solver.history, last.solver.point,
        last.solver.multiplierList, last.solver.working, last.solver.verdict trivial⟩

/-- A regular and a singular matrix, each with its key, without a key, and after the factors were
forgotten. -/
def twoMatrices : List (LinearRequest ℚ (List Nat)) :=
  let regular := Tensor.ofRows 2 [[4, 1], [1, 3]]
  let singular := Tensor.ofRows 2 [[1, 2], [2, 4]]
  let rhs := Tensor.ofList [1, 2]
  [.solve regular rhs (some [0]), .solve regular rhs (some [0]), .solve singular rhs (some [1]),
    .solve singular rhs (some [1]), .solve regular rhs none, .forget, .solve regular rhs (some [0]),
    .solve (Tensor.ofRows 1 [[1], [2]]) rhs none]

theorem twoMatrices_named : KeysNameMatrices twoMatrices := by
  refine keysNameMatrices_of_named (fun key => if key = [0] then Tensor.ofRows 2 [[4, 1], [1, 3]]
    else Tensor.ofRows 2 [[1, 2], [2, 4]]) twoMatrices ?_
  intro matrix rhs key member
  simp only [twoMatrices, List.mem_cons, LinearRequest.solve.injEq, Option.some.injEq, reduceCtorEq,
    List.not_mem_nil, and_false, false_or, or_false] at member
  rcases member with ⟨rfl, _, rfl⟩ | ⟨rfl, _, rfl⟩ | ⟨rfl, _, rfl⟩ | ⟨rfl, _, rfl⟩ | ⟨rfl, _, rfl⟩
  all_goals rfl

open scoped Exact

/-- Both failures to factorise and factors that were made are used again, and the second step in the
cube solves the system of the first. -/
theorem reuse_transparent_cube :
    let used := (DenseAlgebra.new 0 : DenseAlgebra ℚ (List Nat)).runAll twoMatrices
    let steps := [(stoppedClock, .take .stepOnce), (stoppedClock, .take .stepOnce)]
    let reusing := (freshSession cube).runWith (denseEnvironment stoppedClock) steps
    let anew := (freshSession cube).runWith (anewEnvironment stoppedClock) steps
    used.2.cache.hits = 2 ∧ used.2.cache.hits + used.2.cache.misses = 6 ∧
      used.1 = twoMatrices.map (fun request => ((DenseAlgebra.new 0).run request).1) ∧
      reusing.2.solver.systems.cache.hits = 1 ∧ anew.2.solver.systems.cache.hits = 0 ∧
      reusing.1 = anew.1 := by
  intro used steps reusing anew
  obtain ⟨requests, sessions⟩ := reuse_transparent ℚ
  obtain ⟨outcomes, counted⟩ := requests (List Nat) 0 twoMatrices twoMatrices_named
  obtain ⟨_, same⟩ := sessions cube plainConfig (.prepared []) (freshSession cube)
    (freshSession_reached cube) stoppedClock steps
  obtain ⟨_, replies, _⟩ := same rfl (by simp [steps, SolverRequest.isStep])
  exact ⟨by decide +kernel, counted, outcomes, by decide +kernel, by decide +kernel, replies⟩

end ConvexQP
