import ConvexQP.Proofs.Solver.Indifference

/-!
Methods that keep a log. A logged method for systems answers as the method itself does, and its
state holds in order what it was asked. A solver with a logged method runs as it does without the
log, so the log tells what the plain method is asked in the same run.
-/
namespace ConvexQP

/-- What a method for systems was asked: to solve the system of a key, with the answer it gave, or
to forget. -/
inductive SystemUse (R : Type) where
  | solved (matrix : List (List R)) (rhs : List R) (key : List Nat) (answer : Option (List R))
  | forgot

/-- The keys that were asked for, each with the answer. -/
def SystemUse.calls {R : Type} (uses : List (SystemUse R)) : List (List Nat × Option (List R)) :=
  uses.filterMap fun
    | .solved _ _ key answer => some (key, answer)
    | .forgot => none

/-- The same methods, where the state of the one for systems keeps a log. -/
def Environment.logged {R Systems Programs : Type} (environment : Environment R Systems Programs) :
    Environment R (Systems × List (SystemUse R)) Programs where
  solveSystem := fun (systems, uses) matrix rhs key =>
    let (answer, said, next) := environment.solveSystem systems matrix rhs key
    (answer, said, next, uses ++ [.solved matrix rhs key answer])
  forgetSystem := fun (systems, uses) => (environment.forgetSystem systems, uses ++ [.forgot])
  solveProgram := environment.solveProgram
  elapsed := environment.elapsed

/-- The same solver with an empty log. -/
def Solver.logged {R Systems Programs : Type} (solver : Solver R Systems Programs) :
    Solver R (Systems × List (SystemUse R)) Programs :=
  { solver with systems := (solver.systems, []) }

def Session.logged {R Systems Programs : Type} (session : Session R Systems Programs) :
    Session R (Systems × List (SystemUse R)) Programs :=
  ⟨session.solver.logged, session.latest⟩

namespace SystemUse
variable {R : Type}

@[simp] theorem calls_solved (uses : List (SystemUse R)) (matrix : List (List R)) (rhs : List R)
    (key : List Nat) (answer : Option (List R)) :
    calls (uses ++ [.solved matrix rhs key answer]) = calls uses ++ [(key, answer)] :=
  List.filterMap_append

/-- To forget is no call. -/
@[simp] theorem calls_forgot (uses : List (SystemUse R)) :
    calls (uses ++ [.forgot]) = calls uses :=
  List.filterMap_append.trans (List.append_nil _)

end SystemUse

variable {R Systems Programs : Type} [Scalar R] (environment : Environment R Systems Programs)

/-- A method answers with its log as without. -/
theorem Environment.systemsAlike_logged (problem : Problem R) (systems : Systems)
    (uses : List (SystemUse R)) :
    environment.SystemsAlike environment.logged problem systems (systems, uses) := by
  refine ⟨fun one other => one = other.1, rfl, ?_⟩
  rintro one ⟨_, log⟩ rfl
  exact ⟨rfl, fun rhs key => ⟨rfl, rfl⟩⟩

omit [Scalar R] in
theorem Environment.programsAlike_logged (programs : Programs) :
    environment.ProgramsAlike environment.logged programs programs := by
  refine ⟨Eq, rfl, ?_⟩
  rintro one _ program rfl
  exact ⟨rfl, rfl⟩

/-- A solver runs as it does with other methods that answer alike. -/
theorem Solver.Sized.alike_with {Others : Type} {peer : Environment R Others Programs}
    {solver : Solver R Systems Programs} (sized : solver.Sized) (others : Others)
    (systems : environment.SystemsAlike peer solver.problem solver.systems others)
    (programs : environment.ProgramsAlike peer solver.programs solver.programs)
    (clock : environment.elapsed = peer.elapsed) :
    Alike environment peer True solver { solver with systems := others } where
  problem := rfl
  config := .refl solver.config
  iterate := ⟨sized.iterate, sized.iterate, rfl⟩
  multipliers := ⟨sized.multipliers, sized.multipliers, rfl⟩
  working := rfl
  direction := rfl
  blocking := rfl
  verdict _ := rfl
  iterations := rfl
  history := rfl
  stepLength := rfl
  toInclude := rfl
  toExclude := rfl
  clockReadings := rfl
  systems
  programs
  clock

/-- A solver with a log runs as the one without. -/
theorem Solver.Sized.alike_logged {solver : Solver R Systems Programs} (sized : solver.Sized) :
    Alike environment environment.logged True solver solver.logged :=
  sized.alike_with environment (solver.systems, [])
    (environment.systemsAlike_logged solver.problem solver.systems [])
    (environment.programsAlike_logged solver.programs) rfl

theorem Session.alike_logged {session : Session R Systems Programs} (sized : session.solver.Sized)
    (opened : session.solver.isReleased = false) :
    Alike environment environment.logged session session.logged :=
  ⟨sized.alike_logged environment, rfl, opened, opened⟩

/-! ### What is in the log -/

/-- While a problem is solved the log goes on, and each system in it belongs to its key. -/
theorem Environment.Served.log {problem : Problem R}
    {before after : Systems × List (SystemUse R)}
    (served : environment.logged.Served problem before after) :
    ∃ uses, after.2 = before.2 ++ uses ∧ ∀ matrix rhs key answer,
      SystemUse.solved matrix rhs key answer ∈ uses → matrix = Kkt.matrix problem key := by
  induction served with
  | start => exact ⟨[], (List.append_nil _).symm, by simp⟩
  | solved systems rhs key _ ih =>
      obtain ⟨uses, log, named⟩ := ih
      refine ⟨uses ++ [.solved (Kkt.matrix problem key) rhs key
        (environment.solveSystem systems.1 (Kkt.matrix problem key) rhs key).1], ?_, ?_⟩
      · rw [← List.append_assoc, ← log]
        rfl
      · intro matrix sides other answer member
        rcases List.mem_append.mp member with earlier | now
        · exact named matrix sides other answer earlier
        · obtain ⟨rfl, _, rfl, _⟩ := SystemUse.solved.inj (List.mem_singleton.mp now)
          rfl
  | forgot systems _ ih =>
      obtain ⟨uses, log, named⟩ := ih
      refine ⟨uses ++ [.forgot], ?_, ?_⟩
      · rw [← List.append_assoc, ← log]
        rfl
      · intro matrix rhs key answer member
        rcases List.mem_append.mp member with earlier | now
        · exact named matrix rhs key answer earlier
        · cases List.mem_singleton.mp now

end ConvexQP
